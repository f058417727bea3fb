import Gattlib.ScannerExclusion

namespace Gattlib.OwningScanner

open Library.Transition Gattlib.State Gattlib.Scanner

/-- How far the destructor has got. -/
inductive Life
  | alive | aborting | waiting | over
  deriving DecidableEq

/-- A scanner with the adapter and the main loop it uses. -/
structure Owner where
  impl : Impl := {}
  /-- `m_adapterPtr` -/
  adapterPtr : Option Nat
  /-- `m_adapterOwned` -/
  adapterOwned : Bool := false
  /-- `m_isRunning` of `m_gmainLoopManager` -/
  running : Bool
  life : Life := .alive
  /-- calls of `adapterClose`, by adapter -/
  closes : Nat → Nat := fun _ => 0

/-- The constructor that opens its own adapter throws if the main loop does not start
or the adapter cannot be opened. -/
def construct (starts : Bool) (ret : Ret) (opened : Option Nat) : Option Owner :=
  if starts then
    if ret ≠ gattlibSuccess ∨ opened = none then none
    else some { adapterPtr := opened, running := true }
  else none

/-- The part of `shutdown` between the end of the scan and `cleanup`. -/
def closeAdapter (s : Owner) : Owner :=
  match s.adapterOwned, s.adapterPtr with
  | true, some a =>
    { s with adapterPtr := none, closes := Function.update s.closes a (s.closes a + 1) }
  | _, _ => s

/-- `GMainLoopManager::stop` clears `m_isRunning` first, and may throw later. -/
def stop (s : Owner) : Owner := { s with running := false }

/-- The step of `shutdown` that closes an adapter and stops the main loop. -/
def stopping (s : Owner) : ScannerEvent → Bool
  | .shutdown i _ =>
    match (s.impl.calls i).map Call.pc with
    | some (.shutdown .stopping _ _) => true
    | _ => false
  | _ => false

inductive OwnerEvent
  | scanner (e : ScannerEvent)
  | destroyCheck
  | destroyAbort
  | destroyWait

def stopsLoop (s : Owner) : OwnerEvent → Bool
  | .scanner e => stopping s e
  | _ => false

/-- The destructor calls `abort`, and then the main loop manager stops the loop. -/
def ownerStep (s : Owner) : OwnerEvent → Option Owner
  | .scanner e =>
    if s.life = .over then none
    else (scannerStep s.impl e).map (fun t =>
      if stopping s e then stop (closeAdapter { s with impl := t }) else { s with impl := t })
  | .destroyCheck =>
    if s.life = .alive then
      if s.impl.scanning then some { s with life := .aborting }
      else some (stop { s with life := .over })
    else none
  | .destroyAbort =>
    if s.life = .aborting then
      some { s with impl := { s.impl with abort := true }, life := .waiting }
    else none
  | .destroyWait =>
    if s.life = .waiting ∧ s.impl.scanning = false then some (stop { s with life := .over })
    else none

/-- A scanner whose constructor has opened the adapter `a`. -/
def Built (a : Nat) (s : Owner) : Prop :=
  ∃ starts ret, construct starts ret (some a) = some s

/-- The places of a call from the store of `m_scanning` to the end of `adapterWaitScanStopped`. -/
def scans : CallPc → Bool
  | .enabling | .enabled | .failing | .waiting => true
  | .shutdown p _ _ =>
    match p with
    | .looking | .locking | .marking | .testing | .disabling => true
    | .stopping | .cleaning | .deleting | .clearing => false
  | _ => false

/-- The main loop runs during every scan, a scan is enabled on an adapter that has not been
closed, and by the end of the destructor `a` has been closed once. -/
structure Serves (a : Nat) (tr : List (Owner × OwnerEvent × Owner)) (s : Owner) : Prop where
  loop : ∀ x ∈ tr, ∀ i c, x.2.2.impl.calls i = some c → c.announced = true →
    scans c.pc = true → x.2.2.running = true
  adapter : ∀ x ∈ tr, ∀ i stores, x.2.1 = .scanner (.enable i stores) →
    x.1.adapterPtr = some a ∧ x.1.closes a = 0
  closed : s.life = .over → s.closes a = 1

section

variable {s t : Owner} {a : Nat} {e : OwnerEvent} {tr : List (Owner × OwnerEvent × Owner)}

/-- What every step leaves alone: nothing makes the scanner the owner of its adapter. -/
structure Unowned (a : Nat) (s : Owner) : Prop where
  owned : s.adapterOwned = false
  ptr : s.adapterPtr = some a
  closes : s.closes = fun _ => 0

theorem closeAdapter_unowned (h : s.adapterOwned = false) : closeAdapter s = s := by
  rw [closeAdapter, h]

theorem built_unowned (h : Built a s) : Unowned a s ∧ s.running = true ∧ s.life = .alive := by
  obtain ⟨starts, ret, h⟩ := h
  simp only [construct, Option.ite_none_right_eq_some, Option.ite_none_left_eq_some] at h
  obtain ⟨_, _, h⟩ := h
  cases h
  exact ⟨⟨rfl, rfl, rfl⟩, rfl, rfl⟩

/-- A step of the scanner's own members, with what it does to the adapter and the loop. -/
theorem scanner_step {e : ScannerEvent} (h : s.adapterOwned = false)
    (hs : ownerStep s (.scanner e) = some t) : s.life ≠ .over ∧ ∃ u,
      scannerStep s.impl e = some u ∧
      t = { s with impl := u, running := s.running && !stopping s e } := by
  simp only [ownerStep, Option.ite_none_left_eq_some] at hs
  obtain ⟨hlife, hs⟩ := hs
  obtain ⟨u, hu, rfl⟩ := Option.map_eq_some_iff.mp hs
  refine ⟨hlife, u, hu, ?_⟩
  split
  · next hstop =>
    have hclose : closeAdapter { s with impl := u } = { s with impl := u } := closeAdapter_unowned h
    rw [hclose, hstop, Bool.not_true, Bool.and_false]
    rfl
  · next hstop =>
    rw [(Bool.not_eq_true _).mp hstop, Bool.not_false, Bool.and_true]

theorem unowned_step (h : Unowned a s) (hs : ownerStep s e = some t) : Unowned a t := by
  cases e with
  | scanner e =>
    obtain ⟨_, u, _, rfl⟩ := scanner_step h.owned hs
    exact ⟨h.owned, h.ptr, h.closes⟩
  | destroyCheck =>
    simp only [ownerStep, Option.ite_none_right_eq_some] at hs
    obtain ⟨_, hs⟩ := hs
    split at hs
    · cases hs
      exact ⟨h.owned, h.ptr, h.closes⟩
    · cases hs
      exact ⟨h.owned, h.ptr, h.closes⟩
  | destroyAbort =>
    simp only [ownerStep, Option.ite_none_right_eq_some] at hs
    obtain ⟨_, hs⟩ := hs
    cases hs
    exact ⟨h.owned, h.ptr, h.closes⟩
  | destroyWait =>
    simp only [ownerStep, Option.ite_none_right_eq_some] at hs
    obtain ⟨_, hs⟩ := hs
    cases hs
    exact ⟨h.owned, h.ptr, h.closes⟩

theorem run_unowned (h : Run ownerStep (Built a) tr s) :
    Unowned a s ∧ ∀ x ∈ tr, Unowned a x.1 ∧ ownerStep x.1 x.2.1 = some x.2.2 := by
  have hstep : Preserves ownerStep AnyStep (Unowned a) := fun _ _ _ ho _ hs => unowned_step ho hs
  exact run_steps (fun _ hb => (built_unowned hb).1) hstep h (fun _ _ => trivial)

/-- A step leaves the main loop running unless a shutdown or the destructor stops it. -/
theorem running_step (h : Unowned a s) (hs : ownerStep s e = some t) :
    (t.running = true ↔ s.running = true ∧ stopsLoop s e = false ∧ t.life ≠ .over) ∧
      s.life ≠ .over := by
  cases e with
  | scanner e =>
    obtain ⟨hlife, u, _, rfl⟩ := scanner_step h.owned hs
    refine ⟨?_, hlife⟩
    rw [Bool.and_eq_true, Bool.not_eq_true']
    exact ⟨fun hr => ⟨hr.1, hr.2, hlife⟩, fun hr => ⟨hr.1, hr.2.1⟩⟩
  | destroyCheck =>
    simp only [ownerStep, Option.ite_none_right_eq_some] at hs
    obtain ⟨hlife, hs⟩ := hs
    have halive : s.life ≠ .over := by
      rw [hlife]
      exact fun he => Life.noConfusion he
    split at hs
    · cases hs
      exact ⟨⟨fun hr => ⟨hr, rfl, fun he => Life.noConfusion he⟩, fun hr => hr.1⟩, halive⟩
    · cases hs
      exact ⟨⟨fun hr => Bool.noConfusion hr, fun hr => absurd rfl hr.2.2⟩, halive⟩
  | destroyAbort =>
    simp only [ownerStep, Option.ite_none_right_eq_some] at hs
    obtain ⟨hlife, hs⟩ := hs
    cases hs
    refine ⟨⟨fun hr => ⟨hr, rfl, fun he => Life.noConfusion he⟩, fun hr => hr.1⟩, fun he => ?_⟩
    rw [hlife] at he
    cases he
  | destroyWait =>
    simp only [ownerStep, Option.ite_none_right_eq_some] at hs
    obtain ⟨⟨hlife, _⟩, hs⟩ := hs
    cases hs
    refine ⟨⟨fun hr => Bool.noConfusion hr, fun hr => absurd rfl hr.2.2⟩, fun he => ?_⟩
    rw [hlife] at he
    cases he

/-- The main loop runs until the first shutdown stops it, and no later scan starts it again. -/
theorem running_iff (h : Run ownerStep (Built a) tr s) :
    s.running = true ↔ s.life ≠ .over ∧ ∀ x ∈ tr, stopsLoop x.1 x.2.1 = false := by
  induction h with
  | start h =>
    obtain ⟨_, hrun, hlife⟩ := built_unowned h
    refine ⟨fun _ => ⟨fun he => ?_, fun x hx => absurd hx List.not_mem_nil⟩, fun _ => hrun⟩
    rw [hlife] at he
    cases he
  | next h hs ih =>
    obtain ⟨hstep, hlife⟩ := running_step (run_unowned h).1 hs
    rw [hstep, ih, List.forall_mem_cons]
    exact ⟨fun hr => ⟨hr.2.2, hr.2.1, hr.1.2⟩, fun hr => ⟨⟨hlife, hr.2.2⟩, hr.2.1, hr.1⟩⟩

/-- A scan that is enabled after the shutdown of another one has no main loop. -/
theorem enabled_without_loop (h : Run ownerStep (Built a) tr s)
    (hstop : ∃ x ∈ tr, stopsLoop x.1 x.2.1 = true) : s.running = false := by
  by_contra hrun
  obtain ⟨x, hx, hstop⟩ := hstop
  have hnone := ((running_iff h).mp ((Bool.not_eq_false _).mp hrun)).2 x hx
  rw [hstop] at hnone
  cases hnone

end

/-- By the end of the destructor the adapter has not been closed, whatever was scanned. -/
theorem never_serves {a : Nat} {tr : List (Owner × OwnerEvent × Owner)} {s : Owner}
    (h : Run ownerStep (Built a) tr s) (hover : s.life = .over) : ¬Serves a tr s := by
  intro hserves
  have hclosed := hserves.closed hover
  rw [(run_unowned h).1.closes] at hclosed
  cases hclosed

/-- A call of `scan` that expires, with the monitor it has started. -/
def expiringScan (i : Nat) : List ScannerEvent :=
  [.scan 5 none false, .check i, .prepare i .complete, .launch i true, .announce i,
    .enable i true, .enabled i gattlibSuccess, .wait i true] ++
  List.replicate 9 (.shutdown i {}) ++ [.monitor i, .leave i]

/-- Two scans, one after the other, and the end of the scanner. -/
def scannedTwice : List OwnerEvent :=
  (expiringScan 0 ++ expiringScan 1).map .scanner ++ [.destroyCheck]

theorem adapter_left_open : ¬∀ (a : Nat) (tr : List (Owner × OwnerEvent × Owner)) (s : Owner),
    Run ownerStep (Built a) tr s → Serves a tr s := by
  intro h
  have hstart : Run ownerStep (Built 0) [] { adapterPtr := some 0, running := true } :=
    .start ⟨true, gattlibSuccess, rfl⟩
  obtain ⟨tr, hrun, _⟩ := run_exec hstart scannedTwice rfl
  have hclosed := (h 0 _ _ hrun).closed rfl
  cases hclosed

/-- The same for a scanner that is destroyed after one scan. -/
theorem never_serves_once : ∃ tr s, Run ownerStep (Built 7) tr s ∧ s.life = .over ∧
    ¬Serves 7 tr s := by
  have hstart : Run ownerStep (Built 7) [] { adapterPtr := some 7, running := true } :=
    .start ⟨true, gattlibSuccess, rfl⟩
  obtain ⟨tr, hrun, _⟩ := run_exec hstart ((expiringScan 0).map .scanner ++ [.destroyCheck]) rfl
  exact ⟨_, _, hrun, rfl, never_serves hrun rfl⟩

end Gattlib.OwningScanner
