import Gattlib.ScanContexts

namespace Gattlib.ScanReturns

open Library.Memory Library.Maps Library.Transition Gattlib.State Gattlib.Scanner
open Gattlib.ScannerShutdown Gattlib.TimedScans

/-- The threads can take the scanner from the one state to the other. -/
def Continues (s t : Timed) : Prop := ∃ es, exec timedStep s es = some t

/-- Nobody holds the mutexes that the call is going to need, and the scan is running. -/
structure Free (s : Impl) (k : Nat) : Prop where
  context : canLock s k = true
  shutdown : s.shutdownMutex = false
  scanning : s.scanning = true

/-- What a part of `shutdown` relies on. -/
def Ready (s : Impl) (k : Nat) : ShutdownPc → Prop
  | .looking => Free s k ∧ stateOf s k ≠ .shuttingDown ∧ (s.contexts.cell k).isSome = true
  | .locking => s.shutdownMutex = false ∧ s.scanning = true ∧ (s.contexts.cell k).isSome = true
  | .marking => s.scanning = true ∧ (s.contexts.cell k).isSome = true
  | .testing | .disabling | .stopping | .cleaning =>
    s.scanning = true ∧ stateOf s k = .shuttingDown
  | .deleting => True
  | .clearing => s.contexts.cell k = none

/-- The parts that are left. -/
def remaining : ShutdownPc → Nat
  | .looking => 8
  | .locking => 7
  | .marking => 6
  | .testing => 5
  | .disabling => 4
  | .stopping => 3
  | .cleaning => 2
  | .deleting => 1
  | .clearing => 0

/-- The steps that a monitor has left when no scan is running. -/
def steps : MonitorPc → Nat
  | .loaded => 4
  | .locking => 3
  | .storing => 2
  | .polling => 1
  | .unlocking => 1
  | .absent => 0
  | .done => 0

section

variable {s t u : Timed} {i k : Nat} {c : Call} {e : ScannerEvent} {x : Impl}

theorem continues_refl (s : Timed) : Continues s s := ⟨[], rfl⟩

theorem continues_trans (h : Continues s t) (ht : Continues t u) : Continues s u := by
  obtain ⟨es, hs⟩ := h
  obtain ⟨fs, ht⟩ := ht
  exact ⟨es ++ fs, by rw [exec_append, hs, Option.bind_some, ht]⟩

theorem timed_enabled (htime : timely s e = true) (hs : scannerStep s.impl e = some x) :
    timedStep s (.step e) = some { s with impl := x } := by
  rw [timedStep, if_pos htime, hs, Option.map_some]

theorem continues_step (htime : timely s e = true) (hs : scannerStep s.impl e = some x) :
    Continues s { s with impl := x } :=
  ⟨[.step e], by rw [exec, timed_enabled htime hs, Option.bind_some, exec]⟩

theorem shutdown_enabled {s : Impl} {p : ShutdownPc} {o : ShutdownOutcome} (hc : s.calls i = some c)
    (hpc : c.pc = .shutdown p k false) :
    scannerStep s (.shutdown i o) = shutdownStep s i c k false o p := by
  simp only [scannerStep, hc, Option.bind_some, hpc]

/-- The next part of `shutdown` is ready for its turn. -/
theorem part_goes {s : Impl} {p : ShutdownPc} (hc : s.calls i = some c)
    (hpc : c.pc = .shutdown p k false) (hr : Ready s k p) (hp : p ≠ .clearing) :
    ∃ t q, scannerStep s (.shutdown i {}) = some t ∧
      t.calls i = some { c with pc := .shutdown q k false } ∧ Ready t k q ∧
      remaining q < remaining p := by
  rw [shutdown_enabled hc hpc]
  cases p with
  | looking =>
    obtain ⟨hfree, hstate, halive⟩ := hr
    rw [shutdownStep, if_pos hfree.context, if_neg hstate]
    exact ⟨_, .locking, rfl, Function.update_self .., ⟨hfree.shutdown, hfree.scanning, halive⟩,
      by decide⟩
  | locking =>
    obtain ⟨hmutex, hscan, halive⟩ := hr
    rw [shutdownStep, hmutex, if_neg Bool.false_ne_true]
    exact ⟨_, .marking, rfl, Function.update_self .., ⟨hscan, halive⟩, by decide⟩
  | marking =>
    obtain ⟨hscan, halive⟩ := hr
    exact ⟨_, .testing, rfl, Function.update_self .., ⟨hscan, (store_state halive _).2⟩, by decide⟩
  | testing =>
    rw [shutdownStep, if_pos hr.1]
    exact ⟨_, .disabling, rfl, Function.update_self .., hr, by decide⟩
  | disabling => exact ⟨_, .stopping, rfl, Function.update_self .., hr, by decide⟩
  | stopping => exact ⟨_, .cleaning, rfl, Function.update_self .., hr, by decide⟩
  | cleaning =>
    rw [shutdownStep, if_pos hr.2]
    exact ⟨_, .deleting, rfl, Function.update_self .., trivial, by decide⟩
  | deleting => exact ⟨_, .clearing, rfl, Function.update_self .., free_self .., by decide⟩
  | clearing => exact absurd rfl hp

/-- `shutdown` gets to its end. -/
theorem shuts_down {p : ShutdownPc} (hc : s.impl.calls i = some c)
    (hpc : c.pc = .shutdown p k false) (hr : Ready s.impl k p) :
    ∃ t, Continues s t ∧ t.impl.calls i = some { c with pc := .leaving false } ∧
      t.impl.scanning = false ∧ t.impl.contexts.cell k = none := by
  induction hn : remaining p using Nat.strongRecOn generalizing s c p with
  | ind n ih =>
    by_cases hp : p = .clearing
    · subst p
      have hs := shutdown_enabled (o := {}) hc hpc
      exact ⟨_, continues_step rfl hs, Function.update_self .., rfl, hr⟩
    · obtain ⟨x, q, hs, hx, hready, hless⟩ := part_goes hc hpc hr hp
      have hnext : Continues s { s with impl := x } := continues_step rfl hs
      obtain ⟨t, ht, hleft⟩ := ih (remaining q) (hn ▸ hless)
        (s := { s with impl := x }) hx rfl hready rfl
      exact ⟨t, continues_trans hnext ht, hleft⟩

theorem monitor_enabled {s : Impl} (hc : s.calls i = some c) (hk : c.scanData = some k) :
    scannerStep s (.monitor i) = monitorStep s i c k c.monitor := by
  simp only [scannerStep, hc, Option.bind_some, hk]

/-- A monitor that has lost its scan comes closer to its end. -/
theorem monitor_goes {s : Impl} (hc : s.calls i = some c) (hk : c.scanData = some k)
    (hscan : s.scanning = false) (hcell : s.contexts.cell k = none) (hm : steps c.monitor ≠ 0) :
    ∃ t m, scannerStep s (.monitor i) = some t ∧ t.calls i = some { c with monitor := m } ∧
      t.scanning = false ∧ t.contexts.cell k = none ∧ steps m < steps c.monitor := by
  rw [monitor_enabled hc hk]
  have hwrite : ∀ f, (writeContext s k f).contexts.cell k = none := by
    intro f
    simp [writeContext, hcell]
  cases hpc : c.monitor with
  | absent => exact absurd (by rw [hpc, steps]) hm
  | polling =>
    rw [monitorStep, hscan, if_neg Bool.false_ne_true]
    exact ⟨_, .done, rfl, Function.update_self .., hscan, hcell, by decide⟩
  | loaded =>
    rw [monitorStep]
    split
    · exact ⟨_, .locking, rfl, Function.update_self .., hscan, hcell, by decide⟩
    · exact ⟨_, .polling, rfl, Function.update_self .., hscan, hcell, by decide⟩
  | locking =>
    rw [monitorStep, if_pos (by rw [canLock, hcell]; rfl)]
    exact ⟨_, .storing, rfl, Function.update_self .., hscan, hwrite _, by decide⟩
  | storing => exact ⟨_, .unlocking, rfl, Function.update_self .., hscan, hwrite _, by decide⟩
  | unlocking => exact ⟨_, .done, rfl, Function.update_self .., hscan, hwrite _, by decide⟩
  | done => exact absurd (by rw [hpc, steps]) hm

theorem monitor_ends (hc : s.impl.calls i = some c) (hk : c.scanData = some k)
    (hscan : s.impl.scanning = false) (hcell : s.impl.contexts.cell k = none) :
    ∃ t m, Continues s t ∧ t.impl.calls i = some { c with monitor := m } ∧
      (m = .absent ∨ m = .done) := by
  induction hn : steps c.monitor using Nat.strongRecOn generalizing s c with
  | ind n ih =>
    by_cases hm : steps c.monitor = 0
    · refine ⟨s, c.monitor, continues_refl s, hc, ?_⟩
      cases hpc : c.monitor <;> simp_all [steps]
    · obtain ⟨x, m, hs, hx, hscan, hcell, hless⟩ := monitor_goes hc hk hscan hcell hm
      have hnext : Continues s { s with impl := x } := continues_step rfl hs
      obtain ⟨t, m, ht, hends⟩ := ih (steps m) (hn ▸ hless) (s := { s with impl := x })
        hx hk hscan hcell rfl
      exact ⟨t, m, continues_trans hnext ht, hends⟩

/-- What the wait of a call has found, or GATTLIB_TIMEOUT. -/
def found (s : Impl) (k : Nat) : Ret :=
  if finished (stateOf s k) then returnCodeOf (stateOf s k) else gattlibTimeout

/-- The last look at the state of the context ends the wait. -/
theorem wait_ends {s : Impl} (hc : s.calls i = some c) (hpc : c.pc = .waiting)
    (hk : c.scanData = some k) (hlock : canLock s k = true) :
    scannerStep s (.wait i true) = some (setCall s i
      { c with pc := .shutdown .looking k false, scanReturnCode := found s k }) := by
  rw [scannerStep, callAt_iff.mpr ⟨hc, hpc⟩, Option.bind_some, scanWait]
  split
  · next hnone =>
    rw [hk] at hnone
    cases hnone
  · next l hl =>
    obtain rfl := Option.some.inj (hl.symm.trans hk)
    rw [if_pos hlock, found]
    split
    · exact congrArg some (enter_some s i { c with scanReturnCode := returnCodeOf (stateOf s l) } hk _)
    · exact congrArg some (enter_some s i { c with scanReturnCode := gattlibTimeout } hk _)

/-- A call that waits returns: its time is up in the end, and nothing else stops it. -/
theorem waiting_returns (hc : s.impl.calls i = some c) (hpc : c.pc = .waiting)
    (hk : c.scanData = some k) (hfree : Free s.impl k) (hstate : stateOf s.impl k ≠ .shuttingDown)
    (halive : (s.impl.contexts.cell k).isSome = true) :
    ∃ t d, Continues s t ∧ t.impl.calls i = some d ∧ d.pc = .ended ∧
      d.result = some (.returned (found s.impl k)) := by
  let late : Timed := { s with expired := Function.update s.expired i true }
  let c' : Call := { c with pc := .shutdown .looking k false, scanReturnCode := found s.impl k }
  have hlate : Continues s late := by
    refine ⟨[.deadline i], ?_⟩
    rw [exec, timedStep, callAt_iff.mpr ⟨hc, hpc⟩]
    rfl
  have hwait : scannerStep s.impl (.wait i true) = some (setCall s.impl i c') :=
    wait_ends hc hpc hk hfree.context
  have htime : timely late (.wait i true) = true := by
    simp [timely, late]
  have hwaited : Continues late { late with impl := setCall s.impl i c' } :=
    continues_step htime hwait
  obtain ⟨u, hu, hleaving, hscan, hcell⟩ := shuts_down
    (s := { late with impl := setCall s.impl i c' }) (Function.update_self ..) rfl
    ⟨⟨hfree.context, hfree.shutdown, hfree.scanning⟩, hstate, halive⟩
  obtain ⟨v, m, hv, hjoined, hm⟩ := monitor_ends hleaving hk hscan hcell
  have hleave : scannerStep v.impl (.leave i) = some (setCall v.impl i
      { c' with pc := .ended, monitor := m, result := some (.returned (found s.impl k)) }) := by
    simp only [scannerStep, hjoined, Option.bind_some, scanLeave, if_pos hm]
    rfl
  refine ⟨_, _, continues_trans hlate (continues_trans hwaited (continues_trans hu
    (continues_trans hv (continues_step rfl hleave)))), Function.update_self .., rfl, rfl⟩

end

end Gattlib.ScanReturns
