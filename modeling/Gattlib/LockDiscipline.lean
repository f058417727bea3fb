import Gattlib.LockedCalls

namespace Gattlib.LockDiscipline

open Library.Locks Gattlib.Strings Gattlib.State Gattlib.Registry Gattlib.Connection Gattlib.Scan
open Gattlib.LockedCalls

/-- The code gives back the mutexes it takes, and never takes two contexts' at once. -/
abbrev Disciplined (h : Mutex → Nat) (c : Code) : Prop := Respects recursive take h c

variable {h : Mutex → Nat} {c next next' : Code} {l : Mutex} {k : Nat}

theorem bump_other {m : Mutex} (hm : m ≠ l) : bump h l m = h m := Function.update_of_ne hm ..

theorem take_context (ht : take h (.context k)) (hl : ∀ j, j ≠ k → l ≠ .context j) :
    take (bump h l) (.context k) := by
  intro j hj
  rw [bump_other (Ne.symm (hl j hj))]
  exact ht j hj

theorem take_library (ht : take h (.context k)) : take (bump h .library) (.context k) :=
  take_context ht (fun _ _ h => Mutex.noConfusion h)

theorem take_again (ht : take h (.context k)) : take (bump h (.context k)) (.context k) :=
  take_context ht (fun _ hj he => hj (Mutex.context.inj he).symm)

theorem reading_disciplined {α : Type} {f : World → α} {next : α → Code}
    (hn : ∀ a, Disciplined h (next a)) : Disciplined h (reading f next) :=
  ⟨trivial, fun d => release_respects (hn (f d.core))⟩

theorem update_disciplined {f : Shared → Shared} (hc : Disciplined h c) :
    Disciplined h (.update f c) :=
  hc

theorem writing_disciplined {f : World → World} (hn : Disciplined h next) :
    Disciplined h (writing f next) :=
  ⟨trivial, release_respects hn⟩

theorem unlock_disciplined : Disciplined (bump (fun _ => 0) .library) unlock :=
  release_respects (fun _ => rfl)

theorem signalAll_disciplined (hs : h .signal = 0) (hn : Disciplined h next) :
    Disciplined h (signalAll next) :=
  ⟨hs, release_respects hn⟩

theorem outer_library (hl : h .library = 0) : ∀ m, recursive m = true → h m = 0 := by
  intro m hm
  cases m with
  | library => exact hl
  | signal => cases hm
  | context k => cases hm

theorem waitSignal_disciplined {p : Shared → Bool} {timed : Bool} (hs : h .signal = 0)
    (hl : h .library = 0) (hn : Disciplined h next) (hn' : Disciplined h next') :
    Disciplined h (.acquire .signal (.await .signal (some .library) p timed
      (.release .signal next) (.release .signal next'))) := by
  refine ⟨hs, await_respects hs hs rfl (outer_library hl) ?_ hn hn'⟩
  intro m hm
  cases hm
  exact trivial

theorem waitScan_disciplined {adapter : Nat} (hs : h .signal = 0) (hl : h .library = 0)
    (hn : Disciplined h next) : Disciplined h (waitScanLoopStopScanning adapter next) :=
  waitSignal_disciplined hs hl hn hn

theorem waitScanStopped_disciplined (adapter : Nat) :
    Disciplined (fun _ => 0) (gattlibAdapterWaitScanStopped adapter) :=
  waitScan_disciplined rfl rfl (fun _ => rfl)

theorem scanEnableWait_disciplined (adapter : Nat) :
    Disciplined (fun _ => 0) (scanEnableWait adapter) :=
  waitScan_disciplined rfl rfl ⟨trivial, reading_disciplined (fun _ => unlock_disciplined)⟩

theorem stopScanOnTimeout_disciplined (adapter : Nat) :
    Disciplined (fun _ => 0) (stopScanOnTimeout adapter) := by
  refine ⟨trivial, reading_disciplined (fun valid => ?_)⟩
  split
  · exact unlock_disciplined
  · intro d
    dsimp only
    split
    · exact ⟨rfl, release_respects unlock_disciplined⟩
    · exact unlock_disciplined

theorem stopScanLoop_disciplined (adapter : Nat) :
    Disciplined (bump (fun _ => 0) .library) (stopScanLoop adapter) := by
  intro d
  dsimp only
  split
  · exact signalAll_disciplined rfl unlock_disciplined
  · exact unlock_disciplined

theorem scanDisable_disciplined (adapter : Nat) (discovering : Bool) (stop : Option GError) :
    Disciplined (fun _ => 0) (gattlibAdapterScanDisable adapter discovering stop) := by
  refine ⟨trivial, reading_disciplined (fun valid => ?_)⟩
  split
  · exact unlock_disciplined
  · intro d
    dsimp only
    split
    · exact unlock_disciplined
    · split
      · exact unlock_disciplined
      · split
        · exact unlock_disciplined
        · apply update_disciplined
          split
          · exact unlock_disciplined
          · exact stopScanLoop_disciplined adapter

theorem disconnect_disciplined {connection : Nat} {wait : Bool} {next : Ret → Code}
    (hs : h .signal = 0) (hl : h .library = 0) (hn : ∀ ret, Disciplined h (next ret)) :
    Disciplined h (LockedCalls.gattlibDisconnect connection wait next) := by
  refine ⟨trivial, reading_disciplined (fun connected => ?_)⟩
  split
  · exact release_respects (hn _)
  · refine writing_disciplined (release_respects ?_)
    split
    · exact waitSignal_disciplined hs hl (hn _) (hn _)
    · exact hn _

theorem onDisconnectedDevice_disciplined {connection : Nat} {call : Handler → Code → Code}
    (hc : ∀ handler rest, Disciplined (bump (fun _ => 0) .library) rest →
      Disciplined (bump (fun _ => 0) .library) (call handler rest)) :
    Disciplined (fun _ => 0) (LockedCalls.gattlibOnDisconnectedDevice connection call) := by
  refine ⟨trivial, reading_disciplined (fun valid => ?_)⟩
  split
  · exact unlock_disciplined
  · intro d
    have hrest : Disciplined (bump (fun _ => 0) .library)
        (writing (fun w => gattlibConnectionFree w connection)
          (.release .library (signalAll .done))) :=
      writing_disciplined (release_respects (signalAll_disciplined rfl (fun _ => rfl)))
    dsimp only
    split
    · exact hrest
    · exact hc _ _ hrest

theorem registerOnDisconnect_disciplined {connection : Nat} {handler : Handler}
    (hn : Disciplined h next) : Disciplined h (registerOnDisconnect connection handler next) :=
  ⟨trivial, reading_disciplined (fun _ => release_respects hn)⟩

theorem gattlibConnect_disciplined {adapter connectCb userData : Nat} {objectPath : CString}
    {o : ConnectOutcome} {call : Ret → Code → Code} {next : Ret → Code}
    (hc : ∀ ret rest, Disciplined (bump h .library) rest →
      Disciplined (bump h .library) (call ret rest))
    (hn : ∀ ret, Disciplined h (next ret)) :
    Disciplined h (LockedCalls.gattlibConnect adapter objectPath connectCb userData o call next) := by
  refine ⟨trivial, reading_disciplined (fun _ d => update_disciplined ?_)⟩
  split
  · exact hc _ _ (release_respects (hn _))
  · exact release_respects (hn _)

theorem storeNotify_disciplined {new : Client.ConnectionState} (ht : take h (.context k))
    (hn : Disciplined h next) : Disciplined h (storeNotify k new next) :=
  ⟨ht, release_respects hn⟩

theorem onDeviceDisconnect_disciplined {userData : Nat} (ht : ∀ k, take h (.context k))
    (hn : Disciplined h next) : Disciplined h (onDeviceDisconnect next userData) := by
  cases userData with
  | zero => exact hn
  | succ k => exact storeNotify_disciplined (ht k) hn

theorem onDeviceConnect_disciplined {dst : CString} {connection : Option Nat}
    (ht : take h (.context k)) (hn : Disciplined h next) :
    Disciplined h (onDeviceConnect k dst next connection) := by
  cases connection with
  | none => exact ⟨ht, release_respects hn⟩
  | some connection =>
    intro d
    refine ⟨ht, update_disciplined ?_⟩
    split
    · exact registerOnDisconnect_disciplined (release_respects hn)
    · exact release_respects hn

theorem discoverConnect_disciplined (k : Nat) (adapterNull : Bool) (adapter : Nat)
    (objectPath dst : CString) (o : ConnectOutcome) :
    Disciplined (fun _ => 0) (onDeviceDiscoverConnect k adapterNull adapter objectPath dst o) := by
  have ht : take (fun _ => 0) (.context k) := fun _ _ => rfl
  rw [onDeviceDiscoverConnect]
  split
  · exact storeNotify_disciplined ht (fun _ => rfl)
  · refine ⟨ht, gattlibConnect_disciplined (fun _ _ hrest => ?_) (fun _ => ?_)⟩
    · exact onDeviceConnect_disciplined (take_library (take_again ht)) hrest
    · exact release_respects (storeNotify_disciplined ht (fun _ => rfl))

theorem callDisconnection_disciplined {handler : Handler} (ht : ∀ k, take h (.context k))
    (hn : Disciplined h next) : Disciplined h (callDisconnection handler next) := by
  rw [callDisconnection]
  split
  · exact onDeviceDisconnect_disciplined ht hn
  · exact hn

theorem callConnection_disciplined {connection : Nat} {dst : CString} {handler : Handler}
    (ht : ∀ k, take h (.context k)) (hn : Disciplined h next) :
    Disciplined h (callConnection connection dst handler next) := by
  rw [callConnection]
  split
  · split
    · exact hn
    · exact onDeviceConnect_disciplined (ht _) hn
  · exact hn

theorem connectedDeviceThread_disciplined (connection : Nat) (dst : CString) :
    Disciplined (fun _ => 0) (LockedCalls.gattlibConnectedDeviceThread connection dst) := by
  refine ⟨trivial, reading_disciplined (fun connected => ?_)⟩
  split
  · exact unlock_disciplined
  · intro d
    dsimp only
    split
    · exact unlock_disciplined
    · refine writing_disciplined (release_respects (fun d => ?_))
      exact callConnection_disciplined (fun _ _ _ => rfl) (writing_disciplined (fun _ => rfl))

theorem waitDisconnect_disciplined (k : Nat) (p : Shared → Bool) (timed : Bool) :
    Disciplined (fun _ => 0) (.acquire (.context k) (.await (.context k) none p timed
      (.release (.context k) .done) (.release (.context k) .done))) := by
  have ht : take (fun _ => 0) (.context k) := fun _ _ => rfl
  refine ⟨ht, await_respects rfl ht rfl (outer_library rfl) ?_ (fun _ => rfl) (fun _ => rfl)⟩
  intro m hm
  cases hm

theorem clientDisconnect_disciplined (k : Nat) : Disciplined (fun _ => 0) (disconnect k) := by
  refine ⟨fun _ _ => rfl, fun d => ?_⟩
  have hwait := release_respects (l := .context k) (waitDisconnect_disciplined k
    (fun d => (d.contexts.cell k).any (fun ctx => ctx.state ≠ .disconnected)) true)
  dsimp only
  split
  · apply update_disciplined
    split
    · exact hwait
    · refine disconnect_disciplined rfl rfl (fun ret => ?_)
      split
      · exact hwait
      · exact hwait
  · exact release_respects (fun _ => rfl)

end Gattlib.LockDiscipline
