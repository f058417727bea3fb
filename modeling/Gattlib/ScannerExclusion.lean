import Gattlib.Scanner
import Gattlib.Library.Maps
import Gattlib.Library.Transition

namespace Gattlib.ScannerExclusion

open Library.Maps Library.Transition Gattlib.State Gattlib.Scanner

/-- A call between its `m_scanning` check and the end of its shutdown. -/
def inside (c : Call) : Bool :=
  match c.pc with
  | .checking => false
  | .leaving false => false
  | .ended => false
  | _ => true

def Inside (s : Impl) (i : Nat) : Prop := ∃ c, s.calls i = some c ∧ inside c = true

def Exclusive (s : Impl) : Prop := ∀ i j, Inside s i → Inside s j → i = j

/-- A call has returned GATTLIB_BUSY and has not called `adapterScanEnable`. -/
def Refused (s : Impl) (i : Nat) : Prop :=
  ∃ c, s.calls i = some c ∧ c.pc = .ended ∧ c.result = some (.returned gattlibBusy) ∧
    c.enabled = false

/-- Never more than one call at a time, and every call that makes its check while
another one is inside is refused. -/
structure OneScanAtATime (tr : List (Impl × ScannerEvent × Impl)) (s : Impl) : Prop where
  exclusive : ∀ x ∈ tr, Exclusive x.2.2
  refused : ∀ x ∈ tr, ∀ i, x.2.1 = .check i → (∃ j, j ≠ i ∧ Inside x.1 j) → Refused s i

def NonZeroTimeout : ScannerEvent → Prop
  | .scan timeoutSec _ _ => timeoutSec ≠ 0
  | _ => True

/-- When a check finds `m_scanning` false, no call has passed its own check without
having stored `m_scanning` yet. -/
def NoRace (s : Impl) : ScannerEvent → Prop
  | .check i => (callAt s i .checking).isSome → s.scanning = false →
      ∀ j d, s.calls j = some d → inside d = true → d.announced = true
  | _ => True

/-- What a step does to the calls and to `m_scanning`. -/
inductive Stepped (s : Impl) : ScannerEvent → Impl → Prop
  | still {e : ScannerEvent} {t : Impl} (hc : t.calls = s.calls) (hn : t.nextCall = s.nextCall)
      (hs : t.scanning = s.scanning) : Stepped s e t
  | begun {timeoutSec : Nat} {address : Option Strings.CString} {custom : Bool} :
      Stepped s (.scan timeoutSec address custom) { setCall s s.nextCall
        { timeoutSec := timeoutSec, deviceAddress := address, custom := custom } with
        nextCall := s.nextCall + 1 }
  | checked {i : Nat} {c : Call} (hc : s.calls i = some c) (hpc : c.pc = .checking) :
      Stepped s (.check i) (scanCheck s i c)
  | announced {i : Nat} {c : Call} (hc : s.calls i = some c) (hpc : c.pc = .announcing) :
      Stepped s (.announce i) (scanAnnounce s i c)
  | cleared {e : ScannerEvent} {i : Nat} {c c' : Call} {t : Impl} (hc : s.calls i = some c)
      (hin : inside c = true) (ht : t.calls = Function.update s.calls i (some c'))
      (hn : t.nextCall = s.nextCall) (hout : inside c' = false) (hpc : c'.pc ≠ .checking)
      (hz : c'.timeoutSec = c.timeoutSec) (hs : t.scanning = false) : Stepped s e t
  | moved {e : ScannerEvent} {i : Nat} {c c' : Call} {t : Impl} (hc : s.calls i = some c)
      (ht : t.calls = Function.update s.calls i (some c')) (hn : t.nextCall = s.nextCall)
      (hin : inside c' = true → inside c = true) (ha : c'.announced = c.announced)
      (hz : c'.timeoutSec = c.timeoutSec) (hpc : c'.pc = .checking → c'.enabled = c.enabled ∧
        c.pc = .checking)
      (hend : c.pc = .ended → c'.pc = .ended ∧ c'.result = c.result ∧ c'.enabled = c.enabled)
      (hs : t.scanning = s.scanning) : Stepped s e t

section

variable {s t : Impl} {i j k : Nat} {c d : Call} {e : ScannerEvent}

/-- A call moves on from a place inside. -/
theorem moved_inside {c' : Call} (hc : s.calls i = some c) (hin : inside c = true)
    (ht : t.calls = Function.update s.calls i (some c')) (hn : t.nextCall = s.nextCall)
    (ha : c'.announced = c.announced) (hz : c'.timeoutSec = c.timeoutSec)
    (hpc : c'.pc ≠ .checking) (hs : t.scanning = s.scanning) : Stepped s e t := by
  refine .moved hc ht hn (fun _ => hin) ha hz (fun h => absurd h hpc) (fun h => ?_) hs
  rw [inside, h] at hin
  cases hin

theorem set_stepped {x : Impl} {c' : Call} (hc : s.calls i = some c) (hin : inside c = true)
    (hx : x.calls = s.calls) (hn : x.nextCall = s.nextCall) (hs : x.scanning = s.scanning)
    (ha : c'.announced = c.announced) (hz : c'.timeoutSec = c.timeoutSec)
    (hpc : c'.pc ≠ .checking) : Stepped s e (setCall x i c') :=
  moved_inside hc hin (set_calls hx i c') hn ha hz hpc hs

theorem raise_stepped {x : Impl} (hc : s.calls i = some c) (hin : inside c = true)
    (hx : x.calls = s.calls) (hn : x.nextCall = s.nextCall) (hs : x.scanning = s.scanning)
    (inCatch : Bool) : Stepped s e (raise x i c inCatch) := by
  unfold raise
  split
  · exact set_stepped hc hin hx hn hs rfl rfl (fun h => CallPc.noConfusion h)
  · exact set_stepped hc hin hx hn hs rfl rfl (fun h => CallPc.noConfusion h)

theorem raiseLocked_stepped (hc : s.calls i = some c) (hin : inside c = true) (inCatch : Bool) :
    Stepped s e (raiseLocked s i c inCatch) := by
  let x : Impl := { s with shutdownMutex := false }
  have hx : x.calls = s.calls := rfl
  exact raise_stepped hc hin hx rfl rfl inCatch

theorem enter_stepped {x : Impl} {c' : Call} (hc : s.calls i = some c) (hin : inside c = true)
    (hx : x.calls = s.calls) (hn : x.nextCall = s.nextCall) (hs : x.scanning = s.scanning)
    (ha : c'.announced = c.announced) (hz : c'.timeoutSec = c.timeoutSec) (inCatch : Bool) :
    Stepped s e (enterShutdown x i c' inCatch) := by
  unfold enterShutdown raise
  split
  · split
    · exact set_stepped hc hin hx hn hs ha hz (fun h => CallPc.noConfusion h)
    · exact set_stepped hc hin hx hn hs ha hz (fun h => CallPc.noConfusion h)
  · exact set_stepped hc hin hx hn hs ha hz (fun h => CallPc.noConfusion h)

theorem leave_stepped {x : Impl} (hc : s.calls i = some c) (hin : inside c = true)
    (hx : x.calls = s.calls) (hn : x.nextCall = s.nextCall) (hs : x.scanning = s.scanning)
    (inCatch : Bool) : Stepped s e (leaveShutdown x i c inCatch) := by
  unfold leaveShutdown
  split
  · exact set_stepped hc hin hx hn hs rfl rfl (fun h => CallPc.noConfusion h)
  · exact set_stepped hc hin hx hn hs rfl rfl (fun h => CallPc.noConfusion h)

theorem clear_stepped (hc : s.calls i = some c) (hin : inside c = true) (inCatch : Bool) :
    Stepped s e (leaveShutdown { s with scanning := false, shutdownMutex := false } i c inCatch) := by
  unfold leaveShutdown
  split
  · exact .cleared hc hin rfl rfl rfl (fun h => CallPc.noConfusion h) rfl rfl
  · exact .cleared hc hin rfl rfl rfl (fun h => CallPc.noConfusion h) rfl rfl

theorem shutdown_stepped {o : ShutdownOutcome} {p : ShutdownPc} {inCatch : Bool}
    (hc : s.calls i = some c) (hpc : c.pc = .shutdown p k inCatch)
    (hs : shutdownStep s i c k inCatch o p = some t) : Stepped s e t := by
  have hin : inside c = true := by rw [inside, hpc]
  unfold shutdownStep at hs
  cases p with
  | looking =>
    simp only [Option.ite_none_right_eq_some] at hs
    obtain ⟨_, hs⟩ := hs
    split at hs
    · cases hs
      exact leave_stepped hc hin rfl rfl rfl inCatch
    · cases hs
      exact set_stepped hc hin rfl rfl rfl rfl rfl (fun h => CallPc.noConfusion h)
  | locking =>
    simp only [Option.ite_none_left_eq_some] at hs
    obtain ⟨_, hs⟩ := hs
    cases hs
    exact moved_inside hc hin rfl rfl rfl rfl (fun h => CallPc.noConfusion h) rfl
  | marking =>
    cases hs
    exact set_stepped hc hin rfl rfl rfl rfl rfl (fun h => CallPc.noConfusion h)
  | testing =>
    dsimp only at hs
    split at hs
    · cases hs
      exact set_stepped hc hin rfl rfl rfl rfl rfl (fun h => CallPc.noConfusion h)
    · cases hs
      exact raiseLocked_stepped hc hin inCatch
  | disabling =>
    cases hs
    exact moved_inside hc hin rfl rfl rfl rfl (fun h => CallPc.noConfusion h) rfl
  | stopping =>
    dsimp only at hs
    split at hs
    · cases hs
      exact raiseLocked_stepped hc hin inCatch
    · cases hs
      exact set_stepped hc hin rfl rfl rfl rfl rfl (fun h => CallPc.noConfusion h)
  | cleaning =>
    dsimp only at hs
    split at hs
    · cases hs
      exact set_stepped hc hin rfl rfl rfl rfl rfl (fun h => CallPc.noConfusion h)
    · cases hs
      exact raiseLocked_stepped hc hin inCatch
  | deleting =>
    cases hs
    exact moved_inside hc hin rfl rfl rfl rfl (fun h => CallPc.noConfusion h) rfl
  | clearing =>
    cases hs
    exact clear_stepped hc hin inCatch

theorem monitor_stepped (hc : s.calls i = some c) (hs : monitorStep s i c k c.monitor = some t) :
    Stepped s e t := by
  have hset : ∀ (x : Impl) (m : MonitorPc), x.calls = s.calls → x.nextCall = s.nextCall →
      x.scanning = s.scanning → Stepped s e (setCall x i { c with monitor := m }) := by
    intro x m hx hn hsc
    exact .moved hc (set_calls hx i _) hn (fun h => h) rfl rfl
      (fun h => ⟨rfl, h⟩) (fun h => ⟨h, rfl, rfl⟩) hsc
  unfold monitorStep at hs
  split at hs
  · cases hs
  · split at hs
    · cases hs
      exact hset _ _ rfl rfl rfl
    · cases hs
      exact hset _ _ rfl rfl rfl
  · split at hs
    · cases hs
      exact hset _ _ rfl rfl rfl
    · cases hs
      exact hset _ _ rfl rfl rfl
  · simp only [Option.ite_none_right_eq_some] at hs
    obtain ⟨_, hs⟩ := hs
    cases hs
    exact hset _ _ rfl rfl rfl
  · cases hs
    exact hset _ _ rfl rfl rfl
  · cases hs
    exact hset _ _ rfl rfl rfl
  · cases hs

theorem discovery_stepped {adapterNull garbage : Bool} {addr : Strings.CString} {pc : DiscoveryPc}
    (hs : Scanner.discoveryStep s j adapterNull addr garbage pc = some t) : Stepped s e t := by
  unfold Scanner.discoveryStep at hs
  split at hs
  · cases hs
    unfold callHandler
    split
    · exact .still rfl rfl rfl
    · exact .still rfl rfl rfl
  · next h =>
    cases hs
    obtain ⟨pc, he, _⟩ := onScanDiscovery_sets s j h adapterNull addr garbage
    rw [he]
    exact .still rfl rfl rfl
  · simp only [Option.ite_none_right_eq_some] at hs
    obtain ⟨_, hs⟩ := hs
    cases hs
    exact .still rfl rfl rfl
  · cases hs
    exact .still rfl rfl rfl
  · cases hs
    exact .still rfl rfl rfl
  · cases hs

theorem prepare_stepped {o : Prepared} (hc : s.calls i = some c) (hin : inside c = true) :
    Stepped s e (scanPrepare s i c o) := by
  unfold scanPrepare
  cases o with
  | noMemory => exact moved_inside hc hin rfl rfl rfl rfl (fun h => CallPc.noConfusion h) rfl
  | noFilter => exact moved_inside hc hin rfl rfl rfl rfl (fun h => CallPc.noConfusion h) rfl
  | complete => exact moved_inside hc hin rfl rfl rfl rfl (fun h => CallPc.noConfusion h) rfl

theorem fail_stepped (hc : s.calls i = some c) (hin : inside c = true) :
    Stepped s e (scanFail s i c) := by
  unfold scanFail
  split
  · exact .still rfl rfl rfl
  · apply enter_stepped hc hin
    all_goals rfl

theorem wait_stepped {expired : Bool} (hc : s.calls i = some c) (hin : inside c = true)
    (hs : scanWait s i c expired = some t) : Stepped s e t := by
  unfold scanWait at hs
  split at hs
  · cases hs
  · simp only [Option.ite_none_right_eq_some] at hs
    obtain ⟨_, hs⟩ := hs
    split at hs
    · cases hs
      apply enter_stepped hc hin
      all_goals rfl
    · simp only [Option.ite_none_right_eq_some] at hs
      obtain ⟨_, hs⟩ := hs
      cases hs
      apply enter_stepped hc hin
      all_goals rfl

theorem scanLeave_stepped {thrown : Bool} (hc : s.calls i = some c) (hpc : c.pc = .leaving thrown)
    (hs : scanLeave s i c thrown = some t) : Stepped s e t := by
  simp only [scanLeave, Option.ite_none_right_eq_some] at hs
  obtain ⟨_, hs⟩ := hs
  cases thrown with
  | true =>
    have hin : inside c = true := by rw [inside, hpc]
    cases hs
    exact enter_stepped hc hin rfl rfl rfl rfl rfl true
  | false =>
    cases hs
    refine .moved hc rfl rfl (fun h => by cases h) rfl rfl (fun h => CallPc.noConfusion h)
      (fun h => ?_) rfl
    rw [hpc] at h
    cases h

theorem step_stepped (hs : scannerStep s e = some t) : Stepped s e t := by
  cases e with
  | scan timeoutSec address custom =>
    cases hs
    exact .begun
  | check i =>
    obtain ⟨c, hc, rfl⟩ := Option.map_eq_some_iff.mp hs
    obtain ⟨hc, hpc⟩ := callAt_iff.mp hc
    exact .checked hc hpc
  | prepare i o =>
    obtain ⟨c, hc, rfl⟩ := Option.map_eq_some_iff.mp hs
    obtain ⟨hc, hpc⟩ := callAt_iff.mp hc
    exact prepare_stepped hc (by rw [inside, hpc])
  | launch i starts =>
    obtain ⟨c, hc, rfl⟩ := Option.map_eq_some_iff.mp hs
    obtain ⟨hc, hpc⟩ := callAt_iff.mp hc
    have hin : inside c = true := by rw [inside, hpc]
    unfold scanLaunch
    split
    · exact set_stepped hc hin rfl rfl rfl rfl rfl (fun h => CallPc.noConfusion h)
    · exact set_stepped hc hin rfl rfl rfl rfl rfl (fun h => CallPc.noConfusion h)
  | announce i =>
    obtain ⟨c, hc, rfl⟩ := Option.map_eq_some_iff.mp hs
    obtain ⟨hc, hpc⟩ := callAt_iff.mp hc
    exact .announced hc hpc
  | enable i stores =>
    obtain ⟨c, hc, rfl⟩ := Option.map_eq_some_iff.mp hs
    obtain ⟨hc, hpc⟩ := callAt_iff.mp hc
    exact moved_inside hc (by rw [inside, hpc]) rfl rfl rfl rfl (fun h => CallPc.noConfusion h) rfl
  | enabled i ret =>
    obtain ⟨c, hc, rfl⟩ := Option.map_eq_some_iff.mp hs
    obtain ⟨hc, hpc⟩ := callAt_iff.mp hc
    have hin : inside c = true := by rw [inside, hpc]
    unfold scanEnabled
    split
    · exact set_stepped hc hin rfl rfl rfl rfl rfl (fun h => CallPc.noConfusion h)
    · exact set_stepped hc hin rfl rfl rfl rfl rfl (fun h => CallPc.noConfusion h)
  | fail i =>
    obtain ⟨c, hc, rfl⟩ := Option.map_eq_some_iff.mp hs
    obtain ⟨hc, hpc⟩ := callAt_iff.mp hc
    exact fail_stepped hc (by rw [inside, hpc])
  | wait i expired =>
    obtain ⟨c, hc, hs⟩ := Option.bind_eq_some_iff.mp hs
    obtain ⟨hc, hpc⟩ := callAt_iff.mp hc
    exact wait_stepped hc (by rw [inside, hpc]) hs
  | shutdown i o =>
    obtain ⟨c, hc, hs⟩ := Option.bind_eq_some_iff.mp hs
    split at hs
    · next hpc => exact shutdown_stepped hc hpc hs
    · cases hs
  | leave i =>
    obtain ⟨c, hc, hs⟩ := Option.bind_eq_some_iff.mp hs
    split at hs
    · next hpc => exact scanLeave_stepped hc hpc hs
    · cases hs
  | monitor i =>
    obtain ⟨c, hc, hs⟩ := Option.bind_eq_some_iff.mp hs
    obtain ⟨k, _, hs⟩ := Option.bind_eq_some_iff.mp hs
    exact monitor_stepped hc hs
  | abortCheck =>
    cases hs
    split
    · exact .still rfl rfl rfl
    · exact .still rfl rfl rfl
  | abortStore =>
    simp only [scannerStep, Option.ite_none_right_eq_some] at hs
    obtain ⟨_, hs⟩ := hs
    cases hs
    exact .still rfl rfl rfl
  | discover =>
    simp only [scannerStep, Option.ite_none_right_eq_some] at hs
    obtain ⟨_, hs⟩ := hs
    cases hs
    exact .still rfl rfl rfl
  | discovery j adapterNull addr garbage =>
    obtain ⟨pc, _, hs⟩ := Option.bind_eq_some_iff.mp hs
    exact discovery_stepped hs

/-! A call that has ended stays as it is -/

theorem refused_step (h : Refused s i) (hs : scannerStep s e = some t) (hi : i < s.nextCall) :
    Refused t i := by
  obtain ⟨c, hc, hpc, hresult, henabled⟩ := h
  have hkeep : ∀ (x : Impl) (j : Nat) (d d' : Call), s.calls j = some d →
      x.calls = Function.update s.calls j (some d') →
      (d.pc = .ended → d'.pc = .ended ∧ d'.result = d.result ∧ d'.enabled = d.enabled) →
      Refused x i := by
    intro x j d d' hd hx hkeep
    by_cases hj : i = j
    · subst j
      rw [hc] at hd
      cases hd
      obtain ⟨hpc', hresult', henabled'⟩ := hkeep hpc
      refine ⟨d', ?_, hpc', hresult'.trans hresult, henabled'.trans henabled⟩
      rw [hx, Function.update_self]
    · refine ⟨c, ?_, hpc, hresult, henabled⟩
      rw [hx, Function.update_of_ne hj, hc]
  cases step_stepped hs with
  | still ht _ _ => exact ⟨c, ht ▸ hc, hpc, hresult, henabled⟩
  | begun =>
    refine ⟨c, ?_, hpc, hresult, henabled⟩
    have hne : i ≠ s.nextCall := Nat.ne_of_lt hi
    exact (Function.update_of_ne hne ..).trans hc
  | checked hd hdpc =>
    next j d =>
    have hne : d.pc ≠ .ended := by
      rw [hdpc]
      decide
    unfold scanCheck
    split
    · exact hkeep _ j d _ hd rfl (fun h => absurd h hne)
    · split
      · exact hkeep _ j d _ hd rfl (fun h => absurd h hne)
      · exact hkeep _ j d _ hd rfl (fun h => absurd h hne)
  | announced hd hdpc =>
    next j d =>
    have hne : d.pc ≠ .ended := by
      rw [hdpc]
      decide
    exact hkeep _ j d _ hd rfl (fun h => absurd h hne)
  | cleared hd hin ht _ _ _ _ _ =>
    refine hkeep _ _ _ _ hd ht (fun h => ?_)
    rw [inside, h] at hin
    cases hin
  | moved hd ht _ _ _ _ _ hend _ => exact hkeep _ _ _ _ hd ht hend

/-! At most one call is inside -/

structure Orderly (s : Impl) : Prop where
  fresh : ∀ i c, s.calls i = some c → i < s.nextCall
  timeouts : ∀ i c, s.calls i = some c → c.timeoutSec ≠ 0
  unstarted : ∀ i c, s.calls i = some c → c.pc = .checking →
    c.enabled = false ∧ c.announced = false
  exclusive : Exclusive s
  announced : ∀ i c, s.calls i = some c → inside c = true → c.announced = true → s.scanning = true

/-- What holds of the calls whatever their timeouts are. -/
structure Sole (s : Impl) : Prop where
  fresh : ∀ i c, s.calls i = some c → i < s.nextCall
  unstarted : ∀ i c, s.calls i = some c → c.pc = .checking →
    c.enabled = false ∧ c.announced = false
  exclusive : Exclusive s
  announced : ∀ i c, s.calls i = some c → inside c = true → c.announced = true → s.scanning = true

theorem orderly_sole (h : Orderly s) : Sole s :=
  ⟨h.fresh, h.unstarted, h.exclusive, h.announced⟩

theorem exclusive_moved {c' : Call} (h : Exclusive s) (hc : s.calls i = some c)
    (ht : t.calls = Function.update s.calls i (some c')) (hin : inside c' = true → inside c = true) :
    Exclusive t := by
  have hback : ∀ j, Inside t j → Inside s j := by
    rintro j ⟨d, hd, hind⟩
    rw [ht] at hd
    rcases update_some hd with ⟨rfl, rfl⟩ | ⟨_, hold⟩
    · exact ⟨c, hc, hin hind⟩
    · exact ⟨d, hold, hind⟩
  exact fun j k hj hk => h j k (hback j hj) (hback k hk)

theorem sole_begun {address : Option Strings.CString} {custom : Bool} {timeoutSec : Nat}
    (h : Sole s) :
    Sole { setCall s s.nextCall
      { timeoutSec := timeoutSec, deviceAddress := address, custom := custom } with
      nextCall := s.nextCall + 1 } := by
  have hnew : ∀ j d, Function.update s.calls s.nextCall (some
      { timeoutSec := timeoutSec, deviceAddress := address, custom := custom }) j = some d →
      inside d = true → s.calls j = some d := by
    intro j d hd hin
    rcases update_some hd with ⟨_, rfl⟩ | ⟨_, hold⟩
    · cases hin
    · exact hold
  refine ⟨fun j d hd => ?_, fun j d hd hpc => ?_, ?_, fun j d hd hin ha => ?_⟩
  · rcases update_some hd with ⟨rfl, _⟩ | ⟨_, hold⟩
    · exact Nat.lt_succ_self _
    · exact Nat.lt_succ_of_lt (h.fresh j d hold)
  · rcases update_some hd with ⟨_, rfl⟩ | ⟨_, hold⟩
    · exact ⟨rfl, rfl⟩
    · exact h.unstarted j d hold hpc
  · rintro j k ⟨d, hd, hin⟩ ⟨d', hd', hin'⟩
    exact h.exclusive j k ⟨d, hnew j d hd hin, hin⟩ ⟨d', hnew k d' hd' hin', hin'⟩
  · exact h.announced j d (hnew j d hd hin) hin ha

theorem sole_updated {c' : Call} (h : Sole s) (hc : s.calls i = some c)
    (ht : t.calls = Function.update s.calls i (some c')) (hn : t.nextCall = s.nextCall)
    (hp : c'.pc = .checking → c'.enabled = false ∧ c'.announced = false) (hex : Exclusive t)
    (ha : ∀ j d, t.calls j = some d → inside d = true → d.announced = true → t.scanning = true) :
    Sole t := by
  refine ⟨fun j d hd => ?_, fun j d hd hpc => ?_, hex, ha⟩
  · rw [ht] at hd
    rw [hn]
    rcases update_some hd with ⟨rfl, _⟩ | ⟨_, hold⟩
    · exact h.fresh _ c hc
    · exact h.fresh j d hold
  · rw [ht] at hd
    rcases update_some hd with ⟨_, rfl⟩ | ⟨_, hold⟩
    · exact hp hpc
    · exact h.unstarted j d hold hpc

/-- A call that passes its check is alone. -/
theorem sole_passed (h : Sole s) (hc : s.calls i = some c) (hpc : c.pc = .checking)
    (hs : s.scanning = false)
    (hrace : ∀ j d, s.calls j = some d → inside d = true → d.announced = true) :
    Sole (setCall s i { c with pc := .preparing }) := by
  have hnone : ∀ j d, s.calls j = some d → inside d = false := by
    intro j d hd
    by_contra hin
    have hin := (Bool.not_eq_false _).mp hin
    have hscan := h.announced j d hd hin (hrace j d hd hin)
    rw [hs] at hscan
    cases hscan
  have honly : ∀ j, Inside (setCall s i { c with pc := .preparing }) j → j = i := by
    rintro j ⟨d, hd, hin⟩
    rcases update_some hd with ⟨rfl, _⟩ | ⟨_, hold⟩
    · rfl
    · rw [hnone j d hold] at hin
      cases hin
  refine sole_updated h hc rfl rfl (fun hp => CallPc.noConfusion hp) ?_ ?_
  · exact fun j k hj hk => (honly j hj).trans (honly k hk).symm
  · intro j d hd hin ha
    rcases update_some hd with ⟨_, rfl⟩ | ⟨_, hold⟩
    · have hidle := (h.unstarted i c hc hpc).2
      have ha : c.announced = true := ha
      rw [hidle] at ha
      cases ha
    · rw [hnone j d hold] at hin
      cases hin

/-- A call that is not inside any more. -/
theorem sole_out {c' : Call} (h : Sole s) (hc : s.calls i = some c)
    (hout : inside c' = false) (hp : c'.pc ≠ .checking) :
    Sole (setCall s i c') := by
  have hin : inside c' = true → inside c = true := by
    intro hin
    rw [hout] at hin
    cases hin
  refine sole_updated h hc rfl rfl (fun hpc => absurd hpc hp)
    (exclusive_moved h.exclusive hc rfl hin) (fun j d hd hd' ha => ?_)
  rcases update_some hd with ⟨_, rfl⟩ | ⟨_, hold⟩
  · rw [hout] at hd'
    cases hd'
  · exact h.announced j d hold hd' ha

/-- A call with a zero timeout is refused whatever the others do. -/
theorem sole_checked (h : Sole s) (hc : s.calls i = some c) (hpc : c.pc = .checking)
    (hrace : c.timeoutSec ≠ 0 → NoRace s (.check i)) : Sole (scanCheck s i c) := by
  unfold scanCheck
  split
  · exact sole_out h hc rfl (fun hp => CallPc.noConfusion hp)
  · next hscan =>
    split
    · exact sole_out h hc rfl (fun hp => CallPc.noConfusion hp)
    · next hz =>
      have hat : (callAt s i .checking).isSome = true := by
        rw [callAt_iff.mpr ⟨hc, hpc⟩]
        rfl
      have hoff := (Bool.not_eq_true _).mp hscan
      exact sole_passed h hc hpc hoff (hrace hz hat hoff)

theorem sole_step (h : Sole s) (hrace : NoRace s e)
    (hs : scannerStep s e = some t) : Sole t := by
  cases step_stepped hs with
  | still hc hn hscan =>
    refine ⟨fun i c => ?_, fun i c => ?_, ?_, fun i c => ?_⟩
    · rw [hc, hn]
      exact h.fresh i c
    · rw [hc]
      exact h.unstarted i c
    · unfold Exclusive Inside
      rw [hc]
      exact h.exclusive
    · rw [hc, hscan]
      exact h.announced i c
  | begun => exact sole_begun h
  | checked hc hpc => exact sole_checked h hc hpc (fun _ => hrace)
  | announced hc hpc =>
    next i c =>
    have hin : inside c = true := by rw [inside, hpc]
    exact sole_updated h hc rfl rfl (fun hp => CallPc.noConfusion hp)
      (exclusive_moved h.exclusive hc rfl (fun _ => hin)) (fun _ _ _ _ _ => rfl)
  | cleared hc hin ht hn hout hp hzc hscan =>
    next i c c' =>
    have hback : inside c' = true → inside c = true := fun _ => hin
    refine sole_updated h hc ht hn (fun hpc => absurd hpc hp)
      (exclusive_moved h.exclusive hc ht hback) (fun j d hd hind _ => ?_)
    rw [ht] at hd
    rcases update_some hd with ⟨_, rfl⟩ | ⟨hne, hold⟩
    · rw [hout] at hind
      cases hind
    · exact absurd (h.exclusive j i ⟨d, hold, hind⟩ ⟨c, hc, hin⟩) hne
  | moved hc ht hn hin ha hzc hpc hend hscan =>
    next i c c' =>
    refine sole_updated h hc ht hn (fun hp => ?_) (exclusive_moved h.exclusive hc ht hin)
      (fun j d hd hind hann => ?_)
    · obtain ⟨henabled, hcheck⟩ := hpc hp
      rw [henabled, ha]
      exact h.unstarted i c hc hcheck
    · rw [hscan]
      rw [ht] at hd
      rcases update_some hd with ⟨_, rfl⟩ | ⟨_, hold⟩
      · exact h.announced i c hc (hin hind) (ha ▸ hann)
      · exact h.announced j d hold hind hann

/-- No step changes the timeout of a call. -/
theorem timeouts_step (h : ∀ i c, s.calls i = some c → c.timeoutSec ≠ 0) (hz : NonZeroTimeout e)
    (hs : scannerStep s e = some t) : ∀ i c, t.calls i = some c → c.timeoutSec ≠ 0 := by
  have hkeep : ∀ (j : Nat) (d d' : Call), s.calls j = some d → d'.timeoutSec = d.timeoutSec →
      ∀ i c, Function.update s.calls j (some d') i = some c → c.timeoutSec ≠ 0 := by
    intro j d d' hd hzd i c hc
    rcases update_some hc with ⟨_, rfl⟩ | ⟨_, hold⟩
    · rw [hzd]
      exact h j d hd
    · exact h i c hold
  cases step_stepped hs with
  | still ht _ _ =>
    rw [ht]
    exact h
  | begun =>
    intro i c hc
    rcases update_some hc with ⟨_, rfl⟩ | ⟨_, hold⟩
    · exact hz
    · exact h i c hold
  | checked hd _ =>
    unfold scanCheck
    split
    · exact hkeep _ _ _ hd rfl
    · split
      · exact hkeep _ _ _ hd rfl
      · exact hkeep _ _ _ hd rfl
  | announced hd _ => exact hkeep _ _ _ hd rfl
  | cleared hd _ ht _ _ _ hzd _ =>
    rw [ht]
    exact hkeep _ _ _ hd hzd
  | moved hd ht _ _ _ hzd _ _ _ =>
    rw [ht]
    exact hkeep _ _ _ hd hzd

theorem orderly_step (h : Orderly s) (hz : NonZeroTimeout e) (hrace : NoRace s e)
    (hs : scannerStep s e = some t) : Orderly t := by
  have hsole := sole_step (orderly_sole h) hrace hs
  exact ⟨hsole.fresh, timeouts_step h.timeouts hz hs, hsole.unstarted, hsole.exclusive,
    hsole.announced⟩

theorem constructed_orderly (h : Constructed s) : Orderly s := by
  cases h
  refine ⟨?_, ?_, ?_, ?_, ?_⟩
  · exact fun i c hc => by cases hc
  · exact fun i c hc => by cases hc
  · exact fun i c hc => by cases hc
  · rintro i j ⟨c, hc, _⟩
    cases hc
  · exact fun i c hc => by cases hc

/-- A call that makes its check while another one is inside is refused. -/
theorem check_refused (h : Orderly s) (hrace : NoRace s (.check i)) (hj : Inside s j)
    (hs : scannerStep s (.check i) = some t) : Refused t i := by
  obtain ⟨c, hc, rfl⟩ := Option.map_eq_some_iff.mp hs
  have hsome : (callAt s i .checking).isSome = true := by
    rw [hc]
    rfl
  obtain ⟨hc, hpc⟩ := callAt_iff.mp hc
  obtain ⟨d, hd, hin⟩ := hj
  have hscan : s.scanning = true := by
    by_contra hoff
    exact hoff (h.announced j d hd hin (hrace hsome ((Bool.not_eq_true _).mp hoff) j d hd hin))
  unfold scanCheck
  rw [if_pos hscan]
  exact ⟨_, Function.update_self .., rfl, rfl, (h.unstarted i c hc hpc).1⟩

variable {tr : List (Impl × ScannerEvent × Impl)}

theorem run_orderly (h : Run scannerStep Constructed tr s)
    (hz : ∀ x ∈ tr, NonZeroTimeout x.2.1) (hrace : ∀ x ∈ tr, NoRace x.1 x.2.1) :
    Orderly s ∧ ∀ x ∈ tr, Orderly x.1 ∧ scannerStep x.1 x.2.1 = some x.2.2 := by
  have hstep : Preserves scannerStep (fun s e => NonZeroTimeout e ∧ NoRace s e) Orderly :=
    fun _ _ _ ho hok hs => orderly_step ho hok.1 hok.2 hs
  exact run_steps (fun _ => constructed_orderly) hstep h (fun x hx => ⟨hz x hx, hrace x hx⟩)

theorem run_refused (h : Run scannerStep Constructed tr s)
    (hz : ∀ x ∈ tr, NonZeroTimeout x.2.1) (hrace : ∀ x ∈ tr, NoRace x.1 x.2.1) :
    ∀ x ∈ tr, ∀ i, x.2.1 = .check i → (∃ j, j ≠ i ∧ Inside x.1 j) → Refused s i := by
  induction h with
  | start h => exact fun x hx => absurd hx List.not_mem_nil
  | @next s t e tr h hs ih =>
    have hz' : ∀ x ∈ tr, NonZeroTimeout x.2.1 := fun x hx => hz x (List.mem_cons_of_mem _ hx)
    have hrace' : ∀ x ∈ tr, NoRace x.1 x.2.1 := fun x hx => hrace x (List.mem_cons_of_mem _ hx)
    have ho := (run_orderly h hz' hrace').1
    intro x hx i he hother
    rcases List.mem_cons.mp hx with rfl | hx
    · obtain ⟨j, _, hj⟩ := hother
      have he : e = .check i := he
      subst e
      exact check_refused ho (hrace _ List.mem_cons_self) hj hs
    · have hrefused := ih hz' hrace' x hx i he hother
      obtain ⟨c, hc, hpc⟩ := hrefused
      exact refused_step ⟨c, hc, hpc⟩ hs (ho.fresh i c hc)

/-- Two calls that pass their checks are inside together. -/
theorem passed_inside (h : Orderly s) (hs : scannerStep s (.check i) = some t)
    (hscan : s.scanning = false) (hex : Exclusive t) (hj : Inside s j) : False := by
  obtain ⟨c, hc, rfl⟩ := Option.map_eq_some_iff.mp hs
  obtain ⟨hc, hpc⟩ := callAt_iff.mp hc
  obtain ⟨d, hd, hin⟩ := hj
  have hne : j ≠ i := by
    rintro rfl
    rw [hc] at hd
    cases hd
    rw [inside, hpc] at hin
    cases hin
  have hpass : scanCheck s i c = setCall s i { c with pc := .preparing } := by
    rw [scanCheck, hscan, if_neg (by decide), if_neg (h.timeouts i c hc)]
  rw [hpass] at hex
  have hi : Inside (setCall s i { c with pc := .preparing }) i :=
    ⟨_, Function.update_self .., rfl⟩
  have hj : Inside (setCall s i { c with pc := .preparing }) j :=
    ⟨d, (Function.update_of_ne hne ..).trans hd, hin⟩
  exact hne (hex j i hj hi)

theorem run_race (h : Run scannerStep Constructed tr s) (hz : ∀ x ∈ tr, NonZeroTimeout x.2.1)
    (hex : ∀ x ∈ tr, Exclusive x.2.2) : ∀ x ∈ tr, NoRace x.1 x.2.1 := by
  induction h with
  | start h => exact fun x hx => absurd hx List.not_mem_nil
  | @next s t e tr h hs ih =>
    have hz' : ∀ x ∈ tr, NonZeroTimeout x.2.1 := fun x hx => hz x (List.mem_cons_of_mem _ hx)
    have hrace := ih hz' (fun x hx => hex x (List.mem_cons_of_mem _ hx))
    have ho := (run_orderly h hz' hrace).1
    intro x hx
    rcases List.mem_cons.mp hx with rfl | hx
    · cases e with
      | check i =>
        intro hat hscan j d hd hin
        exact (passed_inside ho hs hscan (hex _ List.mem_cons_self) ⟨d, hd, hin⟩).elim
      | scan | prepare | launch | announce | enable | enabled | fail | wait | shutdown | leave
      | monitor | abortCheck | abortStore | discover | discovery => trivial
    · exact hrace x hx

end

/-- In a run of calls with non-zero timeouts there is one scan at a time, and every
overlapping call is refused, exactly if no check comes between the check of another
call and its store of `m_scanning`. -/
theorem one_scan_at_a_time {tr : List (Impl × ScannerEvent × Impl)} {s : Impl}
    (h : Run scannerStep Constructed tr s) (hz : ∀ x ∈ tr, NonZeroTimeout x.2.1) :
    OneScanAtATime tr s ↔ ∀ x ∈ tr, NoRace x.1 x.2.1 := by
  constructor
  · exact fun hone => run_race h hz hone.exclusive
  · intro hrace
    refine ⟨fun x hx => ?_, run_refused h hz hrace⟩
    obtain ⟨ho, hs⟩ := (run_orderly h hz hrace).2 x hx
    exact (orderly_step ho (hz x hx) (hrace x hx) hs).exclusive

/-- Two calls check `m_scanning` before either of them stores it, and both enable a scan. -/
theorem two_scans : ¬∀ (tr : List (Impl × ScannerEvent × Impl)) (s : Impl),
    Run scannerStep Constructed tr s → (∀ x ∈ tr, NonZeroTimeout x.2.1) → OneScanAtATime tr s := by
  intro h
  have hstart : Run scannerStep Constructed [] {} := .start rfl
  have hfirst := Run.next (e := .scan 10 none false) hstart rfl
  have hsecond := Run.next (e := .scan 10 none false) hfirst rfl
  have hcheck := Run.next (e := .check 0) hsecond rfl
  have hrun := Run.next (e := .check 1) hcheck rfl
  have hone := h _ _ hrun (by simp [NonZeroTimeout])
  have hsame := hone.exclusive _ List.mem_cons_self 0 1 ⟨_, rfl, rfl⟩ ⟨_, rfl, rfl⟩
  cases hsame

/-- The second call makes its check when the first one has stored `m_scanning`. -/
theorem one_scan_staggered : ∃ tr s, Run scannerStep Constructed tr s ∧ OneScanAtATime tr s ∧
    Refused s 1 := by
  have hstart : Run scannerStep Constructed [] {} := .start rfl
  have hfirst := Run.next (e := .scan 10 none false) hstart rfl
  have hsecond := Run.next (e := .scan 10 none false) hfirst rfl
  have hcheck := Run.next (e := .check 0) hsecond rfl
  have hprepare := Run.next (e := .prepare 0 .complete) hcheck rfl
  have hlaunch := Run.next (e := .launch 0 true) hprepare rfl
  have hannounce := Run.next (e := .announce 0) hlaunch rfl
  have hrun := Run.next (e := .check 1) hannounce rfl
  refine ⟨_, _, hrun, (one_scan_at_a_time hrun (by simp [NonZeroTimeout])).mpr ?_, ?_⟩
  · rw [List.forall_mem_cons]
    refine ⟨fun _ hoff => (by cases hoff), ?_⟩
    rw [List.forall_mem_cons, List.forall_mem_cons, List.forall_mem_cons, List.forall_mem_cons]
    refine ⟨trivial, trivial, trivial, fun _ _ j d hd hin => ?_, by simp [NoRace]⟩
    rcases update_some hd with ⟨_, rfl⟩ | ⟨_, hd⟩
    · cases hin
    · rcases update_some hd with ⟨_, rfl⟩ | ⟨_, hd⟩
      · cases hin
      · cases hd
  · exact ⟨_, rfl, rfl, rfl, rfl⟩

end Gattlib.ScannerExclusion
