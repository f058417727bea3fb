import Gattlib.LockDiscipline

namespace Gattlib.ContextLocks

open Library.Memory Library.Locks Library.Transition Gattlib.Strings Gattlib.State
open Gattlib.Registry Gattlib.Connection Gattlib.Events Gattlib.LockedCalls Gattlib.LockDiscipline
open Gattlib.Client (contextPtr)

/-- The functions of the client and of the library that call each other. A call of
`gattlib_connect` names the context whose callback it has been given. -/
inductive ClientCall
  | disconnect (k : Nat)
  | discoverConnect (k : Nat) (adapterNull : Bool) (adapter : Nat) (objectPath dst : CString)
      (o : ConnectOutcome)
  | connectedThread (connection : Nat) (dst : CString)
  | connect (k adapter : Nat) (objectPath dst : CString) (o : ConnectOutcome)
  | onDisconnectedDevice (connection : Nat)

def program : ClientCall → Code
  | .disconnect k => disconnect k
  | .discoverConnect k adapterNull adapter objectPath dst o =>
    onDeviceDiscoverConnect k adapterNull adapter objectPath dst o
  | .connectedThread connection dst => LockedCalls.gattlibConnectedDeviceThread connection dst
  | .connect k adapter objectPath dst o =>
    LockedCalls.gattlibConnect adapter objectPath onDeviceConnectCallback (contextPtr k) o
      (fun _ rest => onDeviceConnect k dst rest none) (fun _ => .done)
  | .onDisconnectedDevice connection =>
    LockedCalls.gattlibOnDisconnectedDevice connection callDisconnection

def system : System Mutex Shared ClientCall Outside where
  recursive := recursive
  program := program
  guard := .library
  outside := outside

/-- `m_gattlib_mutex` and the mutexes of the contexts. -/
def OfTheClient (l : Mutex) : Prop := l = .library ∨ ∃ k, l = .context k

/-- No thread comes to be about to take the mutex of a context that it holds itself, and a thread
comes to hold one of a context's mutex and that of the library and to be about to take the
other one only while no other thread is in the opposite place. -/
def Unopposed (s : Library.Locks.State Mutex Shared) : Event ClientCall Outside → Prop
  | .run t => ∀ k, ¬Lands recursive s t (.context k) (.context k) ∧
      (Lands recursive s t .library (.context k) →
        ∀ u, u ≠ t → ¬Between s u (.context k) .library) ∧
      (Lands recursive s t (.context k) .library →
        ∀ u, u ≠ t → ¬Between s u .library (.context k))
  | .start _ _ | .wake _ | .timeout _ | .other _ => True

section

variable {s : Library.Locks.State Mutex Shared} {e : Event ClientCall Outside} {t : Nat}

theorem program_disciplined (c : ClientCall) : Disciplined (fun _ => 0) (program c) := by
  have hdone : Disciplined (fun _ => 0) .done := fun _ => rfl
  cases c with
  | disconnect k => exact clientDisconnect_disciplined k
  | discoverConnect k adapterNull adapter objectPath dst o =>
    exact discoverConnect_disciplined k adapterNull adapter objectPath dst o
  | connectedThread connection dst => exact connectedDeviceThread_disciplined connection dst
  | connect k adapter objectPath dst o =>
    rw [program]
    refine gattlibConnect_disciplined (fun _ _ hrest => ?_) (fun _ => hdone)
    exact onDeviceConnect_disciplined (take_library (fun _ _ => rfl)) hrest
  | onDisconnectedDevice connection =>
    refine onDisconnectedDevice_disciplined (fun _ _ hrest => ?_)
    exact callDisconnection_disciplined (fun _ => take_library (fun _ _ => rfl)) hrest

theorem client_oneRecursive : OneRecursive recursive take OfTheClient .library := by
  refine ⟨.inl rfl, rfl, ?_, ?_⟩
  · rintro l (rfl | ⟨k, rfl⟩)
    · exact .inl rfl
    · exact .inr rfl
  · rintro h l m ht (rfl | ⟨k, rfl⟩) (rfl | ⟨j, rfl⟩) hl hm hne
    · cases hl
    · cases hl
    · cases hm
    · exact ht j (fun hj => hne (congrArg Mutex.context hj))

theorem unopposed_orderly : Orderly recursive OfTheClient .library s e ↔ Unopposed s e := by
  cases e with
  | run t =>
    constructor
    · exact fun h k => h (.context k) (.inr ⟨k, rfl⟩) rfl
    · rintro h l (rfl | ⟨k, rfl⟩) hl
      · cases hl
      · exact h k
  | start | wake | timeout | other => exact Iff.rfl

end

/-- No thread waits for a context's mutex that it holds, and no threads wait for each other in a
cycle, in a run, exactly if its steps are unopposed. -/
theorem no_context_cycle {tr : List (Library.Locks.State Mutex Shared × Event ClientCall Outside ×
      Library.Locks.State Mutex Shared)} {s : Library.Locks.State Mutex Shared}
    (h : Run (step system) (Idle Unopened) tr s) :
    (∀ x ∈ tr, ¬Deadlocked recursive OfTheClient x.2.2) ↔ ∀ x ∈ tr, Unopposed x.1 x.2.1 := by
  refine (run_orderly (S := system) client_oneRecursive program_disciplined h).trans ?_
  exact forall_congr' (fun _ => forall_congr' (fun _ => unopposed_orderly))

/-- No thread has started and nothing has been opened. The client has one context. -/
def unstarted (ctx : Client.ConnectionContext) : Library.Locks.State Mutex Shared where
  threads := fun _ => .done
  owners := fun _ => none
  data := ⟨{}, alloc Library.Memory.empty ctx⟩

theorem unstarted_idle (ctx : Client.ConnectionContext) : Idle Unopened (unstarted ctx) :=
  ⟨fun _ => rfl, fun _ => rfl, rfl⟩

/-- A device has been discovered, and the callback of the discovery calls `gattlib_connect`,
whose Connect call D-Bus refuses. -/
def refused : List (Event ClientCall Outside) :=
  [.other (.library (.adapter (.openLookup hci0))),
    .other (.library (.adapter (.openAppend hci0 1))),
    .other (.library (.device (.objectAdded 0 devicePath answered))),
    .start 1 (.discoverConnect 0 false 0 devicePath hci0 (.refused 2 ⟨1, 1, []⟩)),
    .run 1, .run 1, .run 1]

theorem lock_again : ¬∀ (tr : List (Library.Locks.State Mutex Shared × Event ClientCall Outside ×
    Library.Locks.State Mutex Shared)) (s : Library.Locks.State Mutex Shared),
    Run (step system) (Idle Unopened) tr s →
      ∀ x ∈ tr, ¬Deadlocked recursive OfTheClient x.2.2 := by
  intro h
  have hstart : Run (step system) (Idle Unopened) [] (unstarted {}) := .start (unstarted_idle {})
  obtain ⟨tr, hrun, _⟩ := run_exec hstart refused rfl
  have hnext := Run.next (e := .run 1) hrun rfl
  refine h _ _ hnext _ List.mem_cons_self ⟨1, .single ?_⟩
  exact ⟨.context 0, .inr ⟨0, rfl⟩, ⟨_, rfl⟩, Nat.zero_lt_one, fun _ => rfl⟩

/-- A thread is about to take the mutex of a context that it holds. -/
def relocks (s : Library.Locks.State Mutex Shared) (t : Nat) : Bool :=
  match s.threads t with
  | .acquire (.context k) _ => decide (0 < held s.owners t (.context k))
  | _ => false

def NoRelock (s : Library.Locks.State Mutex Shared) (e : Event ClientCall Outside) : Prop :=
  (step system s e).all (fun s' => !relocks s' 1) = true

instance (s : Library.Locks.State Mutex Shared) (e : Event ClientCall Outside) :
    Decidable (NoRelock s e) := inferInstanceAs (Decidable (_ = true))

theorem unopposed_alone {s : Library.Locks.State Mutex Shared} (h : Alone 1 s)
    (hno : NoRelock s (.run 1)) : Unopposed s (.run 1) := by
  refine fun k => ⟨?_, fun _ _ hu => alone_between h hu, fun _ _ hu => alone_between h hu⟩
  rintro ⟨s', hr, hheld, c, hc⟩
  have hs : step system s (.run 1) = some s' := hr
  have hlocked : relocks s' 1 = true := by
    rw [relocks, hc]
    exact decide_eq_true hheld
  rw [NoRelock, hs, Option.all_some, hlocked] at hno
  cases hno

/-- The end of a link is reported to the handler of the client. -/
def reported : List (Event ClientCall Outside) :=
  [.other (.library (.adapter (.openLookup hci0))),
    .other (.library (.adapter (.openAppend hci0 1))),
    .other (.library (.device (.objectAdded 0 devicePath answered))),
    .other (.library (.device (.registerOnDisconnect 0
      ⟨some Client.onDeviceDisconnectCallback, contextPtr 0⟩))),
    .start 1 (.onDisconnectedDevice 0),
    .run 1, .run 1, .run 1, .run 1, .run 1, .run 1, .run 1, .run 1, .run 1, .run 1, .run 1, .run 1]

theorem reported_unopposed : ∃ tr s, Run (step system) (Idle Unopened) tr s ∧ tr ≠ [] ∧
    s.threads 1 = .done ∧ (s.data.contexts.cell 0).map Client.ConnectionContext.state =
      some .disconnected ∧ ∀ x ∈ tr, ¬Deadlocked recursive OfTheClient x.2.2 := by
  have hstart : Run (guarded (step system) NoRelock) (Idle Unopened) []
      (unstarted { state := .connected }) := .start (unstarted_idle { state := .connected })
  obtain ⟨tr, hrun, hevents⟩ := run_exec hstart reported rfl
  obtain ⟨hrun, hno⟩ := guarded_run hrun
  have honly : ∀ x ∈ tr ++ [], Only 1 x.2.1 := by
    intro x hx
    have hall : ∀ e ∈ reported, Only 1 e := by simp [reported, Only]
    refine hall _ ?_
    rw [← hevents, List.mem_reverse]
    rw [List.append_nil] at hx
    exact List.mem_map_of_mem hx
  refine ⟨_, _, hrun, ?_, rfl, rfl, (no_context_cycle hrun).mpr (fun x hx => ?_)⟩
  · rintro htr
    rw [List.append_nil] at htr
    rw [htr] at hevents
    cases hevents
  · have halone := run_alone hrun honly x hx
    have honly := honly x hx
    have hno := hno x hx
    cases he : x.2.1 with
    | run t =>
      rw [he] at honly hno
      cases honly
      exact unopposed_alone halone hno
    | start | wake | timeout | other => trivial

end Gattlib.ContextLocks
