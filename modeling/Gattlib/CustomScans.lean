import Gattlib.Scanner
import Gattlib.Library.Maps
import Gattlib.Library.Transition

namespace Gattlib.CustomScans

open Library.Maps Library.Memory Library.Transition Gattlib.State Gattlib.Scanner

/-- Every scan is given a callback of its caller's. -/
def Custom (_ : Impl) : ScannerEvent → Prop
  | .scan _ _ custom => custom = true
  | _ => True

/-- The return code of the call is on its way to the caller. -/
def carries : CallPc → Bool
  | .failing | .shutdown _ _ false | .leaving false => true
  | _ => false

/-- A thread that never stores a state in a context. -/
def idle : DiscoveryPc → Bool
  | .checked | .done => true
  | .called h => h.custom
  | .locking _ _ | .storing _ _ | .unlocking _ => false

structure Fruitless (c : Call) : Prop where
  custom : c.custom = true
  code : carries c.pc = true → c.scanReturnCode ≠ gattlibSuccess
  result : c.result ≠ some (.returned gattlibSuccess)

def Unfinished (h : Heap ScanContext) : Prop :=
  ∀ k ctx, h.cell k = some ctx → ctx.state ≠ .succeeded

/-- Nobody stores SUCCEEDED, and no call returns GATTLIB_SUCCESS. -/
structure Barren (s : Impl) : Prop where
  calls : ∀ i c, s.calls i = some c → Fruitless c
  contexts : Unfinished s.contexts
  handler : ∀ h, s.handler = some h → h.custom = true
  discoveries : ∀ j pc, s.discoveries j = some pc → idle pc = true

section

variable {s t : Impl} {i j k p : Nat} {c c' : Call} {e : ScannerEvent} {h : Heap ScanContext}

/-! The contexts -/

theorem modify_unfinished {f : ScanContext → ScanContext} (hh : Unfinished h)
    (hf : ∀ ctx, ctx.state ≠ .succeeded → (f ctx).state ≠ .succeeded) :
    Unfinished (modify h p f) := by
  intro k ctx hctx
  rw [modify_cell] at hctx
  split at hctx
  · obtain ⟨ctx, hold, rfl⟩ := Option.map_eq_some_iff.mp hctx
    exact hf ctx (hh p ctx hold)
  · exact hh k ctx hctx

theorem store_unfinished {new : ScanState} (hh : Unfinished h) (hnew : new ≠ .succeeded) :
    Unfinished (modify h p (fun ctx => { ctx with state := new })) :=
  modify_unfinished hh (fun _ _ => hnew)

theorem mutex_unfinished {b : Bool} (hh : Unfinished h) :
    Unfinished (modify h p (fun ctx => { ctx with locked := b })) :=
  modify_unfinished hh (fun _ hctx => hctx)

theorem alloc_unfinished {v : ScanContext} (hh : Unfinished h) (hv : v.state ≠ .succeeded) :
    Unfinished (alloc h v) := by
  intro k ctx hctx
  by_cases hk : k = h.next
  · subst hk
    rw [alloc_self] at hctx
    cases hctx
    exact hv
  · rw [alloc_ne h v hk] at hctx
    exact hh k ctx hctx

theorem free_unfinished (hh : Unfinished h) : Unfinished (free h p) := by
  intro k ctx hctx
  by_cases hk : k = p
  · subst hk
    rw [free_self] at hctx
    cases hctx
  · rw [free_ne h hk] at hctx
    exact hh k ctx hctx

theorem stateOf_unfinished (hh : Unfinished s.contexts) : stateOf s k ≠ .succeeded := by
  rw [stateOf]
  cases hctx : s.contexts.cell k with
  | none => exact fun h => ScanState.noConfusion h
  | some ctx => exact hh k ctx hctx

theorem returnCode_unfinished {state : ScanState} (hstate : state ≠ .succeeded) :
    returnCodeOf state ≠ gattlibSuccess := by
  rw [returnCodeOf, if_neg hstate]
  split
  · decide
  · decide

/-! The calls -/

theorem fruitless_kept (hc : Fruitless c) (hcustom : c'.custom = c.custom)
    (hcode : carries c'.pc = true → c'.scanReturnCode ≠ gattlibSuccess)
    (hresult : c'.result = c.result) : Fruitless c' :=
  ⟨hcustom.trans hc.custom, hcode, hresult ▸ hc.result⟩

theorem fruitless_ended {r : ScanResult} (hc : Fruitless c)
    (hr : r ≠ .returned gattlibSuccess) :
    Fruitless { c with pc := .ended, result := some r } := by
  refine ⟨hc.custom, fun h => ?_, fun h => hr (Option.some.inj h)⟩
  cases h

/-- A call moves on. The scan's contexts and its callback are as they should be. -/
theorem barren_moved (hs : Barren s) (ht : t.calls = Function.update s.calls i (some c'))
    (hc' : Fruitless c') (hctx : Unfinished t.contexts)
    (hh : ∀ x, t.handler = some x → x.custom = true) (hd : t.discoveries = s.discoveries) :
    Barren t := by
  refine ⟨fun j d hj => ?_, hctx, hh, ?_⟩
  · rw [ht] at hj
    rcases update_some hj with ⟨_, rfl⟩ | ⟨_, hold⟩
    · exact hc'
    · exact hs.calls j d hold
  · rw [hd]
    exact hs.discoveries

theorem barren_set (hs : Barren s) (hc' : Fruitless c') : Barren (setCall s i c') :=
  barren_moved hs rfl hc' hs.contexts hs.handler rfl

theorem raise_barren (hs : Barren s) (hc : Fruitless c) (inCatch : Bool) :
    Barren (raise s i c inCatch) := by
  rw [raise]
  split
  · exact barren_set hs (fruitless_ended hc (fun h => ScanResult.noConfusion h))
  · exact barren_set hs (fruitless_kept hc rfl (fun h => by cases h) rfl)

/-- `shutdown` is entered with the code to return, or from a handler. -/
theorem enter_barren (hs : Barren s) (hc : Fruitless c) {inCatch : Bool}
    (hcode : inCatch = false → c.scanReturnCode ≠ gattlibSuccess) :
    Barren (enterShutdown s i c inCatch) := by
  rw [enterShutdown]
  split
  · exact raise_barren hs hc inCatch
  · refine barren_set hs (fruitless_kept hc rfl (fun h => hcode ?_) rfl)
    cases inCatch with
    | false => rfl
    | true => cases h

theorem leave_barren (hs : Barren s) (hc : Fruitless c) {inCatch : Bool}
    (hcode : inCatch = false → c.scanReturnCode ≠ gattlibSuccess) :
    Barren (leaveShutdown s i c inCatch) := by
  rw [leaveShutdown]
  cases inCatch with
  | true => exact barren_set hs (fruitless_ended hc (fun h => ScanResult.noConfusion h))
  | false => exact barren_set hs (fruitless_kept hc rfl (fun _ => hcode rfl) rfl)

theorem check_barren (hs : Barren s) (hc : Fruitless c) : Barren (scanCheck s i c) := by
  rw [scanCheck]
  split
  · exact barren_set hs (fruitless_ended hc (by decide))
  · split
    · exact barren_set hs (fruitless_ended hc (by decide))
    · exact barren_set hs (fruitless_kept hc rfl (fun h => by cases h) rfl)

theorem prepare_barren (hs : Barren s) (hc : Fruitless c) (o : Prepared) :
    Barren (scanPrepare s i c o) := by
  have hquiet : ∀ {pc : CallPc} {data : Option Nat}, carries pc = false →
      Fruitless { c with pc := pc, scanData := data } := by
    intro pc data hpc
    refine fruitless_kept hc rfl (fun h => ?_) rfl
    rw [hpc] at h
    cases h
  cases o with
  | noMemory => exact barren_set hs (fruitless_kept hc rfl (fun h => by cases h) rfl)
  | noFilter =>
    exact barren_moved hs rfl (hquiet rfl)
      (alloc_unfinished hs.contexts (fun h => ScanState.noConfusion h)) hs.handler rfl
  | complete =>
    exact barren_moved hs rfl (hquiet rfl)
      (alloc_unfinished hs.contexts (fun h => ScanState.noConfusion h)) hs.handler rfl

theorem enable_barren (hs : Barren s) (hc : Fruitless c) (stores : Bool) :
    Barren (scanEnable s i c stores) := by
  refine barren_moved hs rfl (fruitless_kept hc rfl (fun h => by cases h) rfl) hs.contexts
    (fun x hx => ?_) rfl
  rw [scanEnable] at hx
  cases stores with
  | false => exact hs.handler x hx
  | true =>
    obtain ⟨k, _, rfl⟩ := Option.map_eq_some_iff.mp hx
    exact hc.custom

theorem enabled_barren (hs : Barren s) (hc : Fruitless c) (ret : Ret) :
    Barren (scanEnabled s i c ret) := by
  rw [scanEnabled]
  split
  · next hret => exact barren_set hs (fruitless_kept hc rfl (fun _ => hret) rfl)
  · exact barren_set hs (fruitless_kept hc rfl (fun h => by cases h) rfl)

theorem fail_barren (hs : Barren s) (hc : Fruitless c) (hpc : c.pc = .failing) :
    Barren (scanFail s i c) := by
  have hcode : c.scanReturnCode ≠ gattlibSuccess := hc.code (by rw [hpc]; rfl)
  rw [scanFail]
  split
  · exact hs
  · next k _ =>
    have hstored : Unfinished (storeState s k .failed).contexts :=
      store_unfinished hs.contexts (fun h => ScanState.noConfusion h)
    have hbarren : Barren (storeState s k .failed) :=
      ⟨hs.calls, hstored, hs.handler, hs.discoveries⟩
    exact enter_barren hbarren hc (fun _ => hcode)

theorem wait_barren {expired : Bool} (hs : Barren s) (hc : Fruitless c) (hpc : c.pc = .waiting)
    (ht : scanWait s i c expired = some t) : Barren t := by
  have hkept : ∀ ret, Fruitless { c with scanReturnCode := ret } := by
    refine fun ret => fruitless_kept hc rfl (fun h => ?_) rfl
    rw [hpc] at h
    cases h
  rw [scanWait] at ht
  split at ht
  · cases ht
  · simp only [Option.ite_none_right_eq_some] at ht
    obtain ⟨_, ht⟩ := ht
    split at ht
    · cases ht
      exact enter_barren hs (hkept _)
        (fun _ => returnCode_unfinished (stateOf_unfinished hs.contexts))
    · simp only [Option.ite_none_right_eq_some] at ht
      obtain ⟨_, ht⟩ := ht
      cases ht
      refine enter_barren hs (hkept _) (fun _ => ?_)
      exact (by decide : gattlibTimeout ≠ gattlibSuccess)

theorem scanLeave_barren {thrown : Bool} (hs : Barren s) (hc : Fruitless c)
    (hpc : c.pc = .leaving thrown) (ht : scanLeave s i c thrown = some t) : Barren t := by
  simp only [scanLeave, Option.ite_none_right_eq_some] at ht
  obtain ⟨_, ht⟩ := ht
  cases thrown with
  | true =>
    cases ht
    exact enter_barren hs hc (fun h => by cases h)
  | false =>
    have hcode : c.scanReturnCode ≠ gattlibSuccess := hc.code (by rw [hpc]; rfl)
    cases ht
    exact barren_set hs (fruitless_ended hc (fun h => hcode (ScanResult.returned.inj h)))

/-- Within `shutdown` a call keeps its return code. -/
theorem shutdown_barren {o : ShutdownOutcome} {q : ShutdownPc} {inCatch : Bool} (hs : Barren s)
    (hc : Fruitless c) (hpc : c.pc = .shutdown q k inCatch)
    (ht : shutdownStep s i c k inCatch o q = some t) : Barren t := by
  have hcode : inCatch = false → c.scanReturnCode ≠ gattlibSuccess := by
    rintro rfl
    exact hc.code (by rw [hpc]; rfl)
  have hkept : ∀ q', Fruitless { c with pc := .shutdown q' k inCatch } := by
    refine fun q' => fruitless_kept hc rfl (fun h => hcode ?_) rfl
    cases inCatch with
    | false => rfl
    | true => cases h
  have hunlocked : Barren { s with shutdownMutex := false } :=
    ⟨hs.calls, hs.contexts, hs.handler, hs.discoveries⟩
  cases q with
  | looking =>
    simp only [shutdownStep, Option.ite_none_right_eq_some] at ht
    obtain ⟨_, ht⟩ := ht
    split at ht
    · cases ht
      exact leave_barren hs hc hcode
    · cases ht
      exact barren_set hs (hkept _)
  | locking =>
    simp only [shutdownStep, Option.ite_none_left_eq_some] at ht
    obtain ⟨_, ht⟩ := ht
    cases ht
    exact barren_moved hs rfl (hkept _) hs.contexts hs.handler rfl
  | marking =>
    cases ht
    refine barren_moved hs rfl (hkept _) ?_ hs.handler rfl
    exact store_unfinished hs.contexts (fun h => ScanState.noConfusion h)
  | testing =>
    dsimp only [shutdownStep] at ht
    split at ht
    · cases ht
      exact barren_set hs (hkept _)
    · cases ht
      exact raise_barren hunlocked hc inCatch
  | disabling =>
    cases ht
    refine barren_moved hs rfl (hkept _) hs.contexts (fun x hx => ?_) rfl
    obtain ⟨_, hx⟩ := Option.ite_none_left_eq_some.mp hx
    exact hs.handler x hx
  | stopping =>
    dsimp only [shutdownStep] at ht
    split at ht
    · cases ht
      exact raise_barren hunlocked hc inCatch
    · cases ht
      exact barren_set hs (hkept _)
  | cleaning =>
    dsimp only [shutdownStep] at ht
    split at ht
    · cases ht
      exact barren_set hs (hkept _)
    · cases ht
      exact raise_barren hunlocked hc inCatch
  | deleting =>
    cases ht
    exact barren_moved hs rfl (hkept _) (free_unfinished hs.contexts) hs.handler rfl
  | clearing =>
    cases ht
    have hcleared : Barren { s with scanning := false, shutdownMutex := false } :=
      ⟨hs.calls, hs.contexts, hs.handler, hs.discoveries⟩
    exact leave_barren hcleared hc hcode

theorem monitor_barren (hs : Barren s) (hc : Fruitless c)
    (ht : monitorStep s i c k c.monitor = some t) : Barren t := by
  have hset : ∀ (x : Impl) (m : MonitorPc), x.calls = s.calls → Unfinished x.contexts →
      x.handler = s.handler → x.discoveries = s.discoveries →
      Barren (setCall x i { c with monitor := m }) := by
    intro x m hx hctx hh hd
    refine barren_moved hs (set_calls hx i _) (fruitless_kept hc rfl hc.code rfl) hctx
      (fun y hy => hs.handler y ?_) hd
    rw [← hh]
    exact hy
  cases hm : c.monitor with
  | absent | done =>
    rw [hm] at ht
    cases ht
  | polling | loaded =>
    rw [hm] at ht
    dsimp only [monitorStep] at ht
    split at ht
    · cases ht
      exact hset s _ rfl hs.contexts rfl rfl
    · cases ht
      exact hset s _ rfl hs.contexts rfl rfl
  | locking =>
    rw [hm] at ht
    simp only [monitorStep, Option.ite_none_right_eq_some] at ht
    obtain ⟨_, ht⟩ := ht
    cases ht
    exact hset _ _ rfl (mutex_unfinished hs.contexts) rfl rfl
  | storing =>
    rw [hm] at ht
    cases ht
    exact hset _ _ rfl (store_unfinished hs.contexts (fun h => ScanState.noConfusion h)) rfl rfl
  | unlocking =>
    rw [hm] at ht
    cases ht
    exact hset _ _ rfl (mutex_unfinished hs.contexts) rfl rfl

/-! The discovered-device threads -/

theorem thread_barren {pc : DiscoveryPc} (hs : Barren s) (hpc : idle pc = true) :
    Barren (setDiscovery s j pc) := by
  refine ⟨hs.calls, hs.contexts, hs.handler, fun l q hl => ?_⟩
  rcases update_some hl with ⟨_, rfl⟩ | ⟨_, hold⟩
  · exact hpc
  · exact hs.discoveries l q hold

theorem discovery_barren {adapterNull garbage : Bool} {addr : Strings.CString} {pc : DiscoveryPc}
    (hs : Barren s) (hj : s.discoveries j = some pc)
    (ht : discoveryStep s j adapterNull addr garbage pc = some t) : Barren t := by
  have hidle := hs.discoveries j pc hj
  cases pc with
  | checked =>
    cases ht
    rw [callHandler]
    split
    · exact thread_barren hs rfl
    · next x hx => exact thread_barren hs (hs.handler x hx)
  | called x =>
    have hcustom : x.custom = true := hidle
    cases ht
    rw [onScanDiscovery, if_pos hcustom]
    exact thread_barren hs rfl
  | locking | storing | unlocking => cases hidle
  | done => cases ht

theorem begun_barren (hs : Barren s) (timeoutSec : Nat) (address : Option Strings.CString) :
    Barren { setCall s s.nextCall
        { timeoutSec := timeoutSec, deviceAddress := address, custom := true } with
      nextCall := s.nextCall + 1 } := by
  refine barren_moved hs rfl ⟨rfl, fun h => ?_, fun h => ?_⟩ hs.contexts hs.handler rfl
  · cases h
  · cases h

theorem step_barren : Preserves scannerStep Custom Barren := by
  intro s e t hs hok ht
  cases e with
  | scan timeoutSec address custom =>
    cases hok
    cases ht
    exact begun_barren hs timeoutSec address
  | check i =>
    obtain ⟨c, hc, rfl⟩ := Option.map_eq_some_iff.mp ht
    exact check_barren hs (hs.calls i c (callAt_iff.mp hc).1)
  | prepare i o =>
    obtain ⟨c, hc, rfl⟩ := Option.map_eq_some_iff.mp ht
    exact prepare_barren hs (hs.calls i c (callAt_iff.mp hc).1) o
  | launch i starts =>
    obtain ⟨c, hc, rfl⟩ := Option.map_eq_some_iff.mp ht
    have hc := hs.calls i c (callAt_iff.mp hc).1
    rw [scanLaunch]
    split
    · exact barren_set hs (fruitless_kept hc rfl (fun h => by cases h) rfl)
    · exact barren_set hs (fruitless_kept hc rfl (fun h => by cases h) rfl)
  | announce i =>
    obtain ⟨c, hc, rfl⟩ := Option.map_eq_some_iff.mp ht
    have hc := hs.calls i c (callAt_iff.mp hc).1
    exact barren_moved hs rfl (fruitless_kept hc rfl (fun h => by cases h) rfl) hs.contexts
      hs.handler rfl
  | enable i stores =>
    obtain ⟨c, hc, rfl⟩ := Option.map_eq_some_iff.mp ht
    exact enable_barren hs (hs.calls i c (callAt_iff.mp hc).1) stores
  | enabled i ret =>
    obtain ⟨c, hc, rfl⟩ := Option.map_eq_some_iff.mp ht
    exact enabled_barren hs (hs.calls i c (callAt_iff.mp hc).1) ret
  | fail i =>
    obtain ⟨c, hc, rfl⟩ := Option.map_eq_some_iff.mp ht
    obtain ⟨hc, hpc⟩ := callAt_iff.mp hc
    exact fail_barren hs (hs.calls i c hc) hpc
  | wait i expired =>
    obtain ⟨c, hc, ht⟩ := Option.bind_eq_some_iff.mp ht
    obtain ⟨hc, hpc⟩ := callAt_iff.mp hc
    exact wait_barren hs (hs.calls i c hc) hpc ht
  | shutdown i o =>
    obtain ⟨c, hc, ht⟩ := Option.bind_eq_some_iff.mp ht
    split at ht
    · next hpc => exact shutdown_barren hs (hs.calls i c hc) hpc ht
    · cases ht
  | leave i =>
    obtain ⟨c, hc, ht⟩ := Option.bind_eq_some_iff.mp ht
    split at ht
    · next hpc => exact scanLeave_barren hs (hs.calls i c hc) hpc ht
    · cases ht
  | monitor i =>
    obtain ⟨c, hc, ht⟩ := Option.bind_eq_some_iff.mp ht
    obtain ⟨k, _, ht⟩ := Option.bind_eq_some_iff.mp ht
    exact monitor_barren hs (hs.calls i c hc) ht
  | abortCheck =>
    cases ht
    split
    · exact ⟨hs.calls, hs.contexts, hs.handler, hs.discoveries⟩
    · exact hs
  | abortStore =>
    simp only [scannerStep, Option.ite_none_right_eq_some] at ht
    obtain ⟨_, ht⟩ := ht
    cases ht
    exact ⟨hs.calls, hs.contexts, hs.handler, hs.discoveries⟩
  | discover =>
    simp only [scannerStep, Option.ite_none_right_eq_some] at ht
    obtain ⟨_, ht⟩ := ht
    cases ht
    have hthread : Barren (setDiscovery s s.nextDiscovery .checked) := thread_barren hs rfl
    exact ⟨hthread.calls, hthread.contexts, hthread.handler, hthread.discoveries⟩
  | discovery j adapterNull addr garbage =>
    obtain ⟨pc, hj, ht⟩ := Option.bind_eq_some_iff.mp ht
    exact discovery_barren hs hj ht

theorem constructed_barren (h : Constructed s) : Barren s := by
  cases h
  refine ⟨fun i c hc => ?_, fun k ctx hctx => ?_, fun x hx => ?_, fun j pc hj => ?_⟩
  · cases hc
  · cases hctx
  · cases hx
  · cases hj

end

/-- A scan with a callback of its caller's never returns GATTLIB_SUCCESS, for only
`onScanDiscovery` stores SUCCEEDED. -/
theorem custom_scan_fruitless {s : Impl} {i : Nat} {c : Call}
    (h : Reach scannerStep Custom Constructed s) (hc : s.calls i = some c) :
    c.result ≠ some (.returned gattlibSuccess) :=
  ((reach_invariant Barren (fun _ => constructed_barren) step_barren h).calls i c hc).result

end Gattlib.CustomScans
