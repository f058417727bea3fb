import Gattlib.ScannerShutdown

namespace Gattlib.TimedScans

open Library.Memory Library.Maps Library.Transition Gattlib.State Gattlib.Scanner
open Gattlib.ScannerShutdown

/-- A scanner, and which of its calls have waited until their time was up. -/
structure Timed where
  impl : Impl := {}
  expired : Nat → Bool := fun _ => false

inductive TimedEvent
  | step (e : ScannerEvent)
  | deadline (call : Nat)

/-- `wait_for` does not give up before the deadline. -/
def timely (s : Timed) : ScannerEvent → Bool
  | .wait i expired => !expired || s.expired i
  | _ => true

/-- The time of a call runs from the beginning of its wait. -/
def timedStep (s : Timed) : TimedEvent → Option Timed
  | .step e =>
    if timely s e then (scannerStep s.impl e).map (fun t => { s with impl := t }) else none
  | .deadline i =>
    (callAt s.impl i .waiting).map (fun _ => { s with expired := Function.update s.expired i true })

def Constructed (s : Timed) : Prop := s = {}

/-- The terminal state that a callback or a monitor stores, and the context it is for. -/
def stores (s : Impl) : ScannerEvent → Option (Nat × ScanState)
  | .monitor i => (s.calls i).bind (fun c =>
      if c.monitor = .storing then c.scanData.map (fun k => (k, .aborted)) else none)
  | .discovery j _ _ _ => (s.discoveries j).bind (fun pc =>
      match pc with
      | .storing k new => some (k, new)
      | _ => none)
  | _ => none

/-- The terminal event of a step, for one context. There is none for a context that has been
deleted. -/
def stored (s : Impl) (k : Nat) (e : ScannerEvent) : Option ScanState :=
  if (s.contexts.cell k).isSome then ((stores s e).filter (fun x => x.1 = k)).map Prod.snd else none

/-- The scan is on: `scan` leaves the state of the context to the callbacks and the monitor. -/
def pending : CallPc → Bool
  | .launching | .announcing | .enabling | .enabled | .waiting => true
  | _ => false

/-- The context is still the one of a scan that is on, or that has just failed. -/
def unclosed (pc : CallPc) : Bool := pending pc || pc = .failing

/-- `shutdown` gets through that part without an exception. -/
def Passes (s : Impl) (k : Nat) (o : ShutdownOutcome) : ShutdownPc → Prop
  | .testing => s.scanning = true
  | .stopping => o.stopThrows = false
  | .cleaning => stateOf s k = .shuttingDown
  | _ => True

/-- What a step of its thread makes of a call, an allocation aside. -/
inductive Goes (s : Impl) (i : Nat) (c : Call) : ScannerEvent → Call → Prop
  | refused {ret : Ret} (hpc : c.pc = .checking) :
      Goes s i c (.check i) { c with pc := .ended, result := some (.returned ret) }
  | passed (hpc : c.pc = .checking) (hscan : s.scanning = false) (htime : c.timeoutSec ≠ 0) :
      Goes s i c (.check i) { c with pc := .preparing }
  | unprepared {o : Prepared} (hpc : c.pc = .preparing) :
      Goes s i c (.prepare i o) { c with pc := .leaving true }
  | launched (hpc : c.pc = .launching) :
      Goes s i c (.launch i true) { c with pc := .announcing, monitor := .polling }
  | unlaunched (hpc : c.pc = .launching) :
      Goes s i c (.launch i false) { c with pc := .leaving true }
  | announced (hpc : c.pc = .announcing) :
      Goes s i c (.announce i) { c with pc := .enabling, announced := true }
  | enables {stores : Bool} (hpc : c.pc = .enabling) :
      Goes s i c (.enable i stores) { c with pc := .enabled, enabled := true }
  | waits (hpc : c.pc = .enabled) :
      Goes s i c (.enabled i gattlibSuccess) { c with pc := .waiting }
  | fails {ret : Ret} (hpc : c.pc = .enabled) (hret : ret ≠ gattlibSuccess) :
      Goes s i c (.enabled i ret) { c with pc := .failing, scanReturnCode := ret }
  | failed {k : Nat} (hpc : c.pc = .failing) (hk : c.scanData = some k) :
      Goes s i c (.fail i) { c with pc := .shutdown .looking k false }
  | decided {k : Nat} {expired : Bool} (hpc : c.pc = .waiting) (hk : c.scanData = some k)
      (hfin : finished (stateOf s k) = true) :
      Goes s i c (.wait i expired)
        { c with pc := .shutdown .looking k false, scanReturnCode := returnCodeOf (stateOf s k) }
  | expired {k : Nat} (hpc : c.pc = .waiting) (hk : c.scanData = some k)
      (hfin : finished (stateOf s k) = false) :
      Goes s i c (.wait i true)
        { c with pc := .shutdown .looking k false, scanReturnCode := gattlibTimeout }
  | shuts {p q : ShutdownPc} {k : Nat} {inCatch : Bool} {o : ShutdownOutcome}
      (hpc : c.pc = .shutdown p k inCatch) :
      Goes s i c (.shutdown i o) { c with pc := .shutdown q k inCatch }
  | left {p : ShutdownPc} {k : Nat} {o : ShutdownOutcome} (hpc : c.pc = .shutdown p k false) :
      Goes s i c (.shutdown i o) { c with pc := .leaving false }
  | raised {p : ShutdownPc} {k : Nat} {o : ShutdownOutcome} (hpc : c.pc = .shutdown p k false)
      (hthrow : ¬Passes s k o p) : Goes s i c (.shutdown i o) { c with pc := .leaving true }
  | rethrown {p : ShutdownPc} {k : Nat} {o : ShutdownOutcome} (hpc : c.pc = .shutdown p k true) :
      Goes s i c (.shutdown i o) { c with pc := .ended, result := some .thrown }
  | returned (hpc : c.pc = .leaving false) (hjoined : c.monitor = .absent ∨ c.monitor = .done) :
      Goes s i c (.leave i)
        { c with pc := .ended, result := some (.returned c.scanReturnCode) }
  | caught {k : Nat} (hpc : c.pc = .leaving true) (hk : c.scanData = some k) :
      Goes s i c (.leave i) { c with pc := .shutdown .looking k true }
  | uncaught (hpc : c.pc = .leaving true) :
      Goes s i c (.leave i) { c with pc := .ended, result := some .thrown }

/-- What a step of the monitor makes of it. -/
inductive Watches (s : Impl) (k : Nat) : MonitorPc → MonitorPc → Prop
  | stays (hs : s.scanning = true) : Watches s k .polling .loaded
  | stops (hs : s.scanning = false) : Watches s k .polling .done
  | aborts (ha : s.abort = true) : Watches s k .loaded .locking
  | polls (ha : s.abort = false) : Watches s k .loaded .polling
  | locks : Watches s k .locking .storing
  | stores : Watches s k .storing .unlocking
  | unlocks : Watches s k .unlocking .done

/-- An abort has been stored, or is going to be. -/
def Requested (s : Impl) : Prop := s.abort = true ∨ 0 < s.aborting

/-- A discovered-device thread is on its way to store that state. -/
def Reports (s : Impl) (j k : Nat) (new : ScanState) : Prop :=
  s.discoveries j = some (.locking k new) ∨ s.discoveries j = some (.storing k new)

/-- What a step does to the calls. -/
inductive CallStep (s : Impl) : ScannerEvent → Impl → Prop
  | still {e : ScannerEvent} {t : Impl} (he : ∀ i expired, e ≠ .wait i expired)
      (hc : t.calls = s.calls) (hn : t.nextCall = s.nextCall)
      (hnext : t.contexts.next = s.contexts.next)
      (hd : ∀ j k new, Reports t j k new → Reports s j k new ∨ new = .failed ∨ new = .succeeded)
      (hr : (Requested t ↔ Requested s) ∨ e = .abortCheck ∧ s.scanning = true ∧ Requested t) :
      CallStep s e t
  | begun {timeoutSec : Nat} {address : Option Strings.CString} {custom : Bool} :
      CallStep s (.scan timeoutSec address custom) { setCall s s.nextCall
        { timeoutSec := timeoutSec, deviceAddress := address, custom := custom } with
        nextCall := s.nextCall + 1 }
  | allocated {i : Nat} {c c' : Call} {o : Prepared} {ctx : ScanContext} (hc : s.calls i = some c)
      (hpc : c.pc = .preparing)
      (hc' : c' = { c with pc := c'.pc, scanData := some s.contexts.next })
      (hpc' : c'.pc = .launching ∧ ctx.state = .scanning ∨ c'.pc = .leaving true) :
      CallStep s (.prepare i o) { setCall s i c' with contexts := alloc s.contexts ctx }
  | watched {i k : Nat} {c : Call} {m : MonitorPc} {t : Impl} (hc : s.calls i = some c)
      (hk : c.scanData = some k) (hm : Watches s k c.monitor m)
      (ht : t.calls = Function.update s.calls i (some { c with monitor := m }))
      (hn : t.nextCall = s.nextCall) (hnext : t.contexts.next = s.contexts.next)
      (hd : t.discoveries = s.discoveries) (hr : Requested t ↔ Requested s) :
      CallStep s (.monitor i) t
  | moved {e : ScannerEvent} {i : Nat} {c c' : Call} {t : Impl} (hc : s.calls i = some c)
      (hgo : Goes s i c e c') (ht : t.calls = Function.update s.calls i (some c'))
      (hn : t.nextCall = s.nextCall) (hnext : t.contexts.next = s.contexts.next)
      (hd : t.discoveries = s.discoveries) (hr : Requested t ↔ Requested s) : CallStep s e t

/-- What a step does to a context that no call is writing to. -/
structure Follows (s : Impl) (e : ScannerEvent) (t : Impl) (k : Nat) : Prop where
  alive : (t.contexts.cell k).isSome = (s.contexts.cell k).isSome
  state : stateOf t k = (stored s k e).getD (stateOf s k)

/-- No call fails with that context in the step, or is shutting it down. -/
def Left (s : Impl) (e : ScannerEvent) (k : Nat) : Prop :=
  ∀ i c, s.calls i = some c → (c.pc = .failing → e = .fail i → c.scanData ≠ some k) ∧
    ∀ p inCatch, c.pc ≠ .shutdown p k inCatch

section

variable {s t : Impl} {i j k : Nat} {c d : Call} {e : ScannerEvent}

theorem enter_some (s : Impl) (i : Nat) (c : Call) (hk : c.scanData = some k) (inCatch : Bool) :
    enterShutdown s i c inCatch = setCall s i { c with pc := .shutdown .looking k inCatch } := by
  unfold enterShutdown
  split
  · next hnone =>
    rw [hk] at hnone
    cases hnone
  · next l hl =>
    obtain rfl : l = k := Option.some.inj (hl.symm.trans hk)
    rfl

theorem enter_none (s : Impl) (i : Nat) (c : Call) (hk : c.scanData = none) (inCatch : Bool) :
    enterShutdown s i c inCatch = raise s i c inCatch := by
  unfold enterShutdown
  split
  · rfl
  · next l hl =>
    rw [hk] at hl
    cases hl

/-- The next part of `shutdown`, its end, or an exception. -/
theorem shutdown_moved {p : ShutdownPc} {inCatch : Bool} {o : ShutdownOutcome}
    (hc : s.calls i = some c) (hpc : c.pc = .shutdown p k inCatch)
    (hs : shutdownStep s i c k inCatch o p = some t) : CallStep s (.shutdown i o) t := by
  have hleave : ∀ x : Impl, x.calls = s.calls → x.nextCall = s.nextCall →
      x.contexts.next = s.contexts.next → x.discoveries = s.discoveries →
      (Requested x ↔ Requested s) → CallStep s (.shutdown i o) (leaveShutdown x i c inCatch) := by
    intro x hx hn hnext hd hr
    cases inCatch with
    | true => exact .moved hc (.rethrown hpc) (set_calls hx i _) hn hnext hd hr
    | false => exact .moved hc (.left hpc) (set_calls hx i _) hn hnext hd hr
  have hraise : ¬Passes s k o p → CallStep s (.shutdown i o) (raiseLocked s i c inCatch) := by
    intro hthrow
    cases inCatch with
    | true => exact .moved hc (.rethrown hpc) rfl rfl rfl rfl Iff.rfl
    | false => exact .moved hc (.raised hpc hthrow) rfl rfl rfl rfl Iff.rfl
  cases p with
  | looking =>
    simp only [shutdownStep, Option.ite_none_right_eq_some] at hs
    obtain ⟨_, hs⟩ := hs
    split at hs
    · cases hs
      exact hleave s rfl rfl rfl rfl Iff.rfl
    · cases hs
      exact .moved hc (.shuts hpc) rfl rfl rfl rfl Iff.rfl
  | locking =>
    simp only [shutdownStep, Option.ite_none_left_eq_some] at hs
    obtain ⟨_, hs⟩ := hs
    cases hs
    exact .moved hc (.shuts hpc) rfl rfl rfl rfl Iff.rfl
  | marking =>
    cases hs
    exact .moved hc (.shuts hpc) rfl rfl rfl rfl Iff.rfl
  | testing =>
    rw [shutdownStep] at hs
    split at hs
    · cases hs
      exact .moved hc (.shuts hpc) rfl rfl rfl rfl Iff.rfl
    · next h =>
      cases hs
      exact hraise h
  | disabling =>
    cases hs
    exact .moved hc (.shuts hpc) rfl rfl rfl rfl Iff.rfl
  | stopping =>
    rw [shutdownStep] at hs
    split at hs
    · next h =>
      cases hs
      exact hraise (by simp [Passes, h])
    · cases hs
      exact .moved hc (.shuts hpc) rfl rfl rfl rfl Iff.rfl
  | cleaning =>
    rw [shutdownStep] at hs
    split at hs
    · cases hs
      exact .moved hc (.shuts hpc) rfl rfl rfl rfl Iff.rfl
    · next h =>
      cases hs
      exact hraise h
  | deleting =>
    cases hs
    exact .moved hc (.shuts hpc) rfl rfl rfl rfl Iff.rfl
  | clearing =>
    cases hs
    exact hleave _ rfl rfl rfl rfl Iff.rfl

theorem monitor_moved (hc : s.calls i = some c) (hk : c.scanData = some k)
    (hs : monitorStep s i c k c.monitor = some t) : CallStep s (.monitor i) t := by
  cases hm : c.monitor with
  | absent => rw [hm] at hs; cases hs
  | polling =>
    rw [hm, monitorStep] at hs
    split at hs
    · next h =>
      cases hs
      exact .watched hc hk (hm ▸ .stays h) rfl rfl rfl rfl Iff.rfl
    · next h =>
      cases hs
      exact .watched hc hk (hm ▸ .stops (by simpa using h)) rfl rfl rfl rfl Iff.rfl
  | loaded =>
    rw [hm, monitorStep] at hs
    split at hs
    · next h =>
      cases hs
      exact .watched hc hk (hm ▸ .aborts h) rfl rfl rfl rfl Iff.rfl
    · next h =>
      cases hs
      exact .watched hc hk (hm ▸ .polls (by simpa using h)) rfl rfl rfl rfl Iff.rfl
  | locking =>
    rw [hm] at hs
    simp only [monitorStep, Option.ite_none_right_eq_some] at hs
    obtain ⟨_, hs⟩ := hs
    cases hs
    exact .watched hc hk (hm ▸ .locks) rfl rfl rfl rfl Iff.rfl
  | storing =>
    rw [hm] at hs
    cases hs
    exact .watched hc hk (hm ▸ .stores) rfl rfl rfl rfl Iff.rfl
  | unlocking =>
    rw [hm] at hs
    cases hs
    exact .watched hc hk (hm ▸ .unlocks) rfl rfl rfl rfl Iff.rfl
  | done => rw [hm] at hs; cases hs

/-- A thread moves on. -/
theorem set_reports {x : Impl} {pc : DiscoveryPc} (hx : x.discoveries = s.discoveries)
    (hpc : ∀ k new, pc = .locking k new ∨ pc = .storing k new →
      Reports s j k new ∨ new = .failed ∨ new = .succeeded) :
    ∀ l k new, Reports (setDiscovery x j pc) l k new →
      Reports s l k new ∨ new = .failed ∨ new = .succeeded := by
  intro l k new hr
  by_cases hl : l = j
  · subst l
    simp only [Reports, setDiscovery, Function.update_self, Option.some.injEq] at hr
    exact hpc k new hr
  · simp only [Reports, setDiscovery, Function.update_of_ne hl, hx] at hr
    exact Or.inl hr

theorem onScanDiscovery_reports (s : Impl) (j : Nat) (x : Installed) (adapterNull : Bool)
    (addr : Strings.CString) (garbage : Bool) :
    ∃ pc, onScanDiscovery s j x adapterNull addr garbage = setDiscovery s j pc ∧
      ∀ k new, pc = .locking k new ∨ pc = .storing k new → new = .failed ∨ new = .succeeded := by
  unfold onScanDiscovery
  split
  · exact ⟨.done, rfl, by simp⟩
  · split
    · exact ⟨_, rfl, by simp⟩
    · split
      · exact ⟨_, rfl, by simp⟩
      · exact ⟨.done, rfl, by simp⟩

/-- The wait ends with the state that it finds, or at the deadline. -/
theorem wait_moved {expired : Bool} (hc : s.calls i = some c) (hpc : c.pc = .waiting)
    (hs : scanWait s i c expired = some t) : CallStep s (.wait i expired) t := by
  rw [scanWait] at hs
  split at hs
  · cases hs
  · next k hk =>
    simp only [Option.ite_none_right_eq_some] at hs
    obtain ⟨_, hs⟩ := hs
    split at hs
    · next hfin =>
      rw [enter_some s i { c with scanReturnCode := returnCodeOf (stateOf s k) } hk] at hs
      cases hs
      exact .moved hc (.decided hpc hk hfin) rfl rfl rfl rfl Iff.rfl
    · next hfin =>
      simp only [Option.ite_none_right_eq_some] at hs
      obtain ⟨rfl, hexpired⟩ := hs
      rw [enter_some s i { c with scanReturnCode := gattlibTimeout } hk] at hexpired
      cases hexpired
      exact .moved hc (.expired hpc hk (by simpa using hfin)) rfl rfl rfl rfl Iff.rfl

theorem leave_moved {thrown : Bool} (hc : s.calls i = some c) (hpc : c.pc = .leaving thrown)
    (hs : scanLeave s i c thrown = some t) : CallStep s (.leave i) t := by
  simp only [scanLeave, Option.ite_none_right_eq_some] at hs
  obtain ⟨hjoined, hs⟩ := hs
  cases thrown with
  | false =>
    cases hs
    exact .moved hc (.returned hpc hjoined) rfl rfl rfl rfl Iff.rfl
  | true =>
    cases hk : c.scanData with
    | none =>
      rw [if_pos rfl, enter_none s i c hk] at hs
      cases hs
      exact .moved hc (.uncaught hpc) rfl rfl rfl rfl Iff.rfl
    | some k =>
      rw [if_pos rfl, enter_some s i c hk] at hs
      cases hs
      exact .moved hc (.caught hpc hk) rfl rfl rfl rfl Iff.rfl

theorem discovery_moved {pc : DiscoveryPc} {adapterNull garbage : Bool} {addr : Strings.CString}
    (hj : s.discoveries j = some pc) (hs : discoveryStep s j adapterNull addr garbage pc = some t) :
    CallStep s (.discovery j adapterNull addr garbage) t := by
  cases pc with
  | checked =>
    cases hs
    unfold callHandler
    split
    · exact .still (by simp) rfl rfl rfl (set_reports rfl (by simp)) (Or.inl Iff.rfl)
    · exact .still (by simp) rfl rfl rfl (set_reports rfl (by simp)) (Or.inl Iff.rfl)
  | called h =>
    obtain ⟨pc, he, hnew⟩ := onScanDiscovery_reports s j h adapterNull addr garbage
    rw [discoveryStep, he] at hs
    cases hs
    exact .still (by simp) rfl rfl rfl
      (set_reports rfl (fun k new hpc => Or.inr (hnew k new hpc))) (Or.inl Iff.rfl)
  | locking l old =>
    simp only [discoveryStep, Option.ite_none_right_eq_some] at hs
    obtain ⟨_, hs⟩ := hs
    cases hs
    refine .still (by simp) rfl rfl rfl (set_reports rfl (fun k new hpc => Or.inl (Or.inl ?_)))
      (Or.inl Iff.rfl)
    have hpc : DiscoveryPc.storing l old = .storing k new := by simpa using hpc
    cases hpc
    exact hj
  | storing l old =>
    cases hs
    exact .still (by simp) rfl rfl rfl (set_reports rfl (by simp)) (Or.inl Iff.rfl)
  | unlocking l =>
    cases hs
    exact .still (by simp) rfl rfl rfl (set_reports rfl (by simp)) (Or.inl Iff.rfl)
  | done => cases hs

theorem step_calls (hs : scannerStep s e = some t) : CallStep s e t := by
  cases e with
  | scan timeoutSec address custom =>
    cases hs
    exact .begun
  | check i =>
    obtain ⟨c, hc, rfl⟩ := Option.map_eq_some_iff.mp hs
    obtain ⟨hc, hpc⟩ := callAt_iff.mp hc
    unfold scanCheck
    split
    · exact .moved hc (.refused hpc) rfl rfl rfl rfl Iff.rfl
    · next h =>
      split
      · exact .moved hc (.refused hpc) rfl rfl rfl rfl Iff.rfl
      · next htime => exact .moved hc (.passed hpc (by simpa using h) htime) rfl rfl rfl rfl Iff.rfl
  | prepare i o =>
    obtain ⟨c, hc, rfl⟩ := Option.map_eq_some_iff.mp hs
    obtain ⟨hc, hpc⟩ := callAt_iff.mp hc
    cases o with
    | noMemory => exact .moved hc (.unprepared hpc) rfl rfl rfl rfl Iff.rfl
    | noFilter => exact .allocated hc hpc rfl (Or.inr rfl)
    | complete => exact .allocated hc hpc rfl (Or.inl ⟨rfl, rfl⟩)
  | launch i starts =>
    obtain ⟨c, hc, rfl⟩ := Option.map_eq_some_iff.mp hs
    obtain ⟨hc, hpc⟩ := callAt_iff.mp hc
    cases starts with
    | true => exact .moved hc (.launched hpc) rfl rfl rfl rfl Iff.rfl
    | false => exact .moved hc (.unlaunched hpc) rfl rfl rfl rfl Iff.rfl
  | announce i =>
    obtain ⟨c, hc, rfl⟩ := Option.map_eq_some_iff.mp hs
    obtain ⟨hc, hpc⟩ := callAt_iff.mp hc
    exact .moved hc (.announced hpc) rfl rfl rfl rfl Iff.rfl
  | enable i stores =>
    obtain ⟨c, hc, rfl⟩ := Option.map_eq_some_iff.mp hs
    obtain ⟨hc, hpc⟩ := callAt_iff.mp hc
    exact .moved hc (.enables hpc) rfl rfl rfl rfl Iff.rfl
  | enabled i ret =>
    obtain ⟨c, hc, rfl⟩ := Option.map_eq_some_iff.mp hs
    obtain ⟨hc, hpc⟩ := callAt_iff.mp hc
    unfold scanEnabled
    split
    · next hret => exact .moved hc (.fails hpc hret) rfl rfl rfl rfl Iff.rfl
    · next hret =>
      obtain rfl := not_not.mp hret
      exact .moved hc (.waits hpc) rfl rfl rfl rfl Iff.rfl
  | fail i =>
    obtain ⟨c, hc, rfl⟩ := Option.map_eq_some_iff.mp hs
    obtain ⟨hc, hpc⟩ := callAt_iff.mp hc
    unfold scanFail
    split
    · exact .still (by simp) rfl rfl rfl (fun _ _ _ => Or.inl) (Or.inl Iff.rfl)
    · next k hk =>
      rw [enter_some _ i c hk]
      exact .moved hc (.failed hpc hk) rfl rfl rfl rfl Iff.rfl
  | wait i expired =>
    obtain ⟨c, hc, hs⟩ := Option.bind_eq_some_iff.mp hs
    obtain ⟨hc, hpc⟩ := callAt_iff.mp hc
    exact wait_moved hc hpc hs
  | shutdown i o =>
    obtain ⟨c, hc, hs⟩ := Option.bind_eq_some_iff.mp hs
    split at hs
    · next p k inCatch hpc => exact shutdown_moved hc hpc hs
    · cases hs
  | leave i =>
    obtain ⟨c, hc, hs⟩ := Option.bind_eq_some_iff.mp hs
    split at hs
    · next thrown hpc => exact leave_moved hc hpc hs
    · cases hs
  | monitor i =>
    obtain ⟨c, hc, hs⟩ := Option.bind_eq_some_iff.mp hs
    obtain ⟨k, hk, hs⟩ := Option.bind_eq_some_iff.mp hs
    exact monitor_moved hc hk hs
  | abortCheck =>
    cases hs
    split
    · next hscan =>
      exact .still (by simp) rfl rfl rfl (fun _ _ _ => Or.inl)
        (Or.inr ⟨rfl, hscan, Or.inr (Nat.succ_pos _)⟩)
    · exact .still (by simp) rfl rfl rfl (fun _ _ _ => Or.inl) (Or.inl Iff.rfl)
  | abortStore =>
    simp only [scannerStep, Option.ite_none_right_eq_some] at hs
    obtain ⟨hpos, hs⟩ := hs
    cases hs
    exact .still (by simp) rfl rfl rfl (fun _ _ _ => Or.inl)
      (Or.inl ⟨fun _ => Or.inr hpos, fun _ => Or.inl rfl⟩)
  | discover =>
    simp only [scannerStep, Option.ite_none_right_eq_some] at hs
    obtain ⟨_, hs⟩ := hs
    cases hs
    exact .still (by simp) rfl rfl rfl (set_reports rfl (by simp)) (Or.inl Iff.rfl)
  | discovery j adapterNull addr garbage =>
    obtain ⟨pc, hj, hs⟩ := Option.bind_eq_some_iff.mp hs
    exact discovery_moved hj hs

theorem follows_same (hnone : stores s e = none) (h : SameContext s t k) : Follows s e t k := by
  refine ⟨h.alive, ?_⟩
  rw [h.state, stored, hnone]
  split
  · rfl
  · rfl

/-- A store of a terminal state. -/
theorem follows_store {l : Nat} {new : ScanState} (hstores : stores s e = some (l, new))
    (h : t.contexts = (storeState s l new).contexts) : Follows s e t k := by
  have hcell : t.contexts.cell k = (storeState s l new).contexts.cell k := by rw [h]
  have hstate : stateOf t k = stateOf (storeState s l new) k := by rw [stateOf, hcell, stateOf]
  by_cases hl : l = k
  · subst l
    cases hk : (s.contexts.cell k).isSome with
    | true =>
      obtain ⟨halive, hnew⟩ := store_state hk new
      refine ⟨by rw [hcell, halive, hk], ?_⟩
      rw [hstate, hnew, stored, if_pos hk, hstores]
      simp [Option.filter]
    | false =>
      rw [Option.isSome_eq_false_iff, Option.isNone_iff_eq_none] at hk
      have hsame : (storeState s k new).contexts.cell k = none := by
        simp [storeState, writeContext, hk]
      refine ⟨by rw [hcell, hsame, hk], ?_⟩
      rw [hstate, stateOf, hsame, stored, stateOf, hk]
      rfl
  · have hother := store_other (s := s) (Ne.symm hl) new
    refine ⟨by rw [hcell, hother.alive], ?_⟩
    rw [hstate, hother.state, stored, hstores]
    simp [Option.filter, hl]

theorem shutdown_follows {p : ShutdownPc} {l : Nat} {inCatch : Bool} {o : ShutdownOutcome}
    (hl : k ≠ l) (hs : shutdownStep s i c l inCatch o p = some t) : SameContext s t k := by
  have hleave : ∀ x : Impl, x.contexts = s.contexts → SameContext s (leaveShutdown x i c inCatch) k := by
    intro x hx
    unfold leaveShutdown
    split
    · exact ⟨by simp [setCall, hx], by simp [setCall, stateOf, hx]⟩
    · exact ⟨by simp [setCall, hx], by simp [setCall, stateOf, hx]⟩
  have hraise : SameContext s (raiseLocked s i c inCatch) k := by
    unfold raiseLocked raise
    split
    · exact ⟨rfl, rfl⟩
    · exact ⟨rfl, rfl⟩
  cases p with
  | looking =>
    simp only [shutdownStep, Option.ite_none_right_eq_some] at hs
    obtain ⟨_, hs⟩ := hs
    split at hs
    · cases hs
      exact hleave s rfl
    · cases hs
      exact ⟨rfl, rfl⟩
  | locking =>
    simp only [shutdownStep, Option.ite_none_left_eq_some] at hs
    obtain ⟨_, hs⟩ := hs
    cases hs
    exact ⟨rfl, rfl⟩
  | marking =>
    cases hs
    have hother := store_other (s := s) hl .shuttingDown
    exact ⟨hother.alive, hother.state⟩
  | testing =>
    rw [shutdownStep] at hs
    split at hs
    · cases hs
      exact ⟨rfl, rfl⟩
    · cases hs
      exact hraise
  | disabling =>
    cases hs
    exact ⟨rfl, rfl⟩
  | stopping =>
    rw [shutdownStep] at hs
    split at hs
    · cases hs
      exact hraise
    · cases hs
      exact ⟨rfl, rfl⟩
  | cleaning =>
    rw [shutdownStep] at hs
    split at hs
    · cases hs
      exact ⟨rfl, rfl⟩
    · cases hs
      exact hraise
  | deleting =>
    cases hs
    have hcell := free_ne s.contexts hl
    exact ⟨congrArg Option.isSome hcell, congrArg (fun x => (x.map ScanContext.state).getD .idle) hcell⟩
  | clearing =>
    cases hs
    exact hleave _ rfl

theorem enter_same (inCatch : Bool) : SameContext s (enterShutdown s i c inCatch) k := by
  unfold enterShutdown raise
  split
  · split
    · exact ⟨rfl, rfl⟩
    · exact ⟨rfl, rfl⟩
  · exact ⟨rfl, rfl⟩

theorem lock_same (l k : Nat) : SameContext s (lockContext s l) k :=
  write_same (f := fun ctx => { ctx with locked := true }) (fun _ => rfl) l k

theorem unlock_same (l k : Nat) : SameContext s (unlockContext s l) k :=
  write_same (f := fun ctx => { ctx with locked := false }) (fun _ => rfl) l k

theorem onScanDiscovery_follows {x : Installed} {adapterNull garbage : Bool}
    {addr : Strings.CString} :
    SameContext s (onScanDiscovery s j x adapterNull addr garbage) k := by
  obtain ⟨pc, he, _⟩ := onScanDiscovery_sets s j x adapterNull addr garbage
  rw [he]
  exact ⟨rfl, rfl⟩

theorem discovery_follows {pc : DiscoveryPc} {adapterNull garbage : Bool} {addr : Strings.CString}
    (hj : s.discoveries j = some pc) (hs : discoveryStep s j adapterNull addr garbage pc = some t) :
    Follows s (.discovery j adapterNull addr garbage) t k := by
  have hnone : (∀ l new, pc ≠ .storing l new) →
      stores s (.discovery j adapterNull addr garbage) = none := by
    intro hpc
    rw [stores, hj, Option.bind_some]
    split
    · next l new => exact absurd rfl (hpc l new)
    · rfl
  cases pc with
  | checked =>
    cases hs
    refine follows_same (hnone (by simp)) ?_
    unfold callHandler
    split
    · exact ⟨rfl, rfl⟩
    · exact ⟨rfl, rfl⟩
  | called h =>
    cases hs
    exact follows_same (hnone (by simp)) onScanDiscovery_follows
  | locking l new =>
    simp only [discoveryStep, Option.ite_none_right_eq_some] at hs
    obtain ⟨_, hs⟩ := hs
    cases hs
    have hlock := lock_same (s := s) l k
    exact follows_same (hnone (by simp)) ⟨hlock.alive, hlock.state⟩
  | storing l new =>
    cases hs
    have hstores : stores s (.discovery j adapterNull addr garbage) = some (l, new) := by
      rw [stores, hj]
      rfl
    exact follows_store hstores rfl
  | unlocking l =>
    cases hs
    have hunlock := unlock_same (s := s) l k
    exact follows_same (hnone (by simp)) ⟨hunlock.alive, hunlock.state⟩
  | done => cases hs

theorem monitor_follows {l : Nat} (hc : s.calls i = some c) (hl : c.scanData = some l)
    (hs : monitorStep s i c l c.monitor = some t) : Follows s (.monitor i) t k := by
  have hnone : c.monitor ≠ .storing → stores s (.monitor i) = none := by
    intro hm
    rw [stores, hc, Option.bind_some, if_neg hm]
  cases hm : c.monitor with
  | absent => rw [hm] at hs; cases hs
  | polling =>
    rw [hm, monitorStep] at hs
    split at hs
    · cases hs
      exact follows_same (hnone (by simp [hm])) ⟨rfl, rfl⟩
    · cases hs
      exact follows_same (hnone (by simp [hm])) ⟨rfl, rfl⟩
  | loaded =>
    rw [hm, monitorStep] at hs
    split at hs
    · cases hs
      exact follows_same (hnone (by simp [hm])) ⟨rfl, rfl⟩
    · cases hs
      exact follows_same (hnone (by simp [hm])) ⟨rfl, rfl⟩
  | locking =>
    rw [hm] at hs
    simp only [monitorStep, Option.ite_none_right_eq_some] at hs
    obtain ⟨_, hs⟩ := hs
    cases hs
    have hlock := lock_same (s := s) l k
    exact follows_same (hnone (by simp [hm])) ⟨hlock.alive, hlock.state⟩
  | storing =>
    rw [hm] at hs
    cases hs
    have hstores : stores s (.monitor i) = some (l, .aborted) := by
      rw [stores, hc, Option.bind_some, if_pos hm, hl]
      rfl
    exact follows_store hstores rfl
  | unlocking =>
    rw [hm] at hs
    cases hs
    have hunlock := unlock_same (s := s) l k
    exact follows_same (hnone (by simp [hm])) ⟨hunlock.alive, hunlock.state⟩
  | done => rw [hm] at hs; cases hs

theorem step_follows (hk : k < s.contexts.next) (hleft : Left s e k) (hs : scannerStep s e = some t) :
    Follows s e t k := by
  cases e with
  | scan timeoutSec address custom =>
    cases hs
    exact follows_same rfl ⟨rfl, rfl⟩
  | check i =>
    obtain ⟨c, _, rfl⟩ := Option.map_eq_some_iff.mp hs
    refine follows_same rfl ?_
    unfold scanCheck
    split
    · exact ⟨rfl, rfl⟩
    · split
      · exact ⟨rfl, rfl⟩
      · exact ⟨rfl, rfl⟩
  | prepare i o =>
    obtain ⟨c, _, rfl⟩ := Option.map_eq_some_iff.mp hs
    have halloc : ∀ ctx, (alloc s.contexts ctx).cell k = s.contexts.cell k :=
      fun ctx => alloc_ne s.contexts ctx (Nat.ne_of_lt hk)
    refine follows_same rfl ?_
    cases o with
    | noMemory => exact ⟨rfl, rfl⟩
    | noFilter =>
      exact ⟨congrArg Option.isSome (halloc _),
        congrArg (fun x => (x.map ScanContext.state).getD .idle) (halloc _)⟩
    | complete =>
      exact ⟨congrArg Option.isSome (halloc _),
        congrArg (fun x => (x.map ScanContext.state).getD .idle) (halloc _)⟩
  | launch i starts =>
    obtain ⟨c, _, rfl⟩ := Option.map_eq_some_iff.mp hs
    cases starts with
    | true => exact follows_same rfl ⟨rfl, rfl⟩
    | false => exact follows_same rfl ⟨rfl, rfl⟩
  | announce i =>
    obtain ⟨c, _, rfl⟩ := Option.map_eq_some_iff.mp hs
    exact follows_same rfl ⟨rfl, rfl⟩
  | enable i stores =>
    obtain ⟨c, _, rfl⟩ := Option.map_eq_some_iff.mp hs
    exact follows_same rfl ⟨rfl, rfl⟩
  | enabled i ret =>
    obtain ⟨c, _, rfl⟩ := Option.map_eq_some_iff.mp hs
    refine follows_same rfl ?_
    unfold scanEnabled
    split
    · exact ⟨rfl, rfl⟩
    · exact ⟨rfl, rfl⟩
  | fail i =>
    obtain ⟨c, hc, rfl⟩ := Option.map_eq_some_iff.mp hs
    obtain ⟨hc, hpc⟩ := callAt_iff.mp hc
    refine follows_same rfl ?_
    unfold scanFail
    split
    · exact sameContext_refl s k
    · next l hl =>
      rw [enter_some _ i c hl]
      have hne : k ≠ l := by
        rintro rfl
        exact (hleft i c hc).1 hpc rfl hl
      have hother := store_other (s := s) hne .failed
      exact ⟨hother.alive, hother.state⟩
  | wait i expired =>
    obtain ⟨c, _, hs⟩ := Option.bind_eq_some_iff.mp hs
    rw [scanWait] at hs
    split at hs
    · cases hs
    · simp only [Option.ite_none_right_eq_some] at hs
      obtain ⟨_, hs⟩ := hs
      split at hs
      · cases hs
        exact follows_same rfl (enter_same false)
      · simp only [Option.ite_none_right_eq_some] at hs
        obtain ⟨_, hs⟩ := hs
        cases hs
        exact follows_same rfl (enter_same false)
  | shutdown i o =>
    obtain ⟨c, hc, hs⟩ := Option.bind_eq_some_iff.mp hs
    split at hs
    · next p l inCatch hpc =>
      have hne : k ≠ l := by
        rintro rfl
        exact (hleft i c hc).2 p inCatch hpc
      exact follows_same rfl (shutdown_follows hne hs)
    · cases hs
  | leave i =>
    obtain ⟨c, _, hs⟩ := Option.bind_eq_some_iff.mp hs
    split at hs
    · simp only [scanLeave, Option.ite_none_right_eq_some] at hs
      obtain ⟨_, hs⟩ := hs
      split at hs
      · cases hs
        exact follows_same rfl (enter_same true)
      · cases hs
        exact follows_same rfl ⟨rfl, rfl⟩
    · cases hs
  | monitor i =>
    obtain ⟨c, hc, hs⟩ := Option.bind_eq_some_iff.mp hs
    obtain ⟨l, hl, hs⟩ := Option.bind_eq_some_iff.mp hs
    exact monitor_follows hc hl hs
  | abortCheck =>
    cases hs
    refine follows_same rfl ?_
    split
    · exact ⟨rfl, rfl⟩
    · exact ⟨rfl, rfl⟩
  | abortStore =>
    simp only [scannerStep, Option.ite_none_right_eq_some] at hs
    obtain ⟨_, hs⟩ := hs
    cases hs
    exact follows_same rfl ⟨rfl, rfl⟩
  | discover =>
    simp only [scannerStep, Option.ite_none_right_eq_some] at hs
    obtain ⟨_, hs⟩ := hs
    cases hs
    exact follows_same rfl ⟨rfl, rfl⟩
  | discovery j adapterNull addr garbage =>
    obtain ⟨pc, hj, hs⟩ := Option.bind_eq_some_iff.mp hs
    exact discovery_follows hj hs

end

end Gattlib.TimedScans
