import Gattlib.HandlerFrames

namespace Gattlib.FailedStarts

open Library.Memory Library.Resources Library.Transition Gattlib.State Gattlib.Registry
open Gattlib.RegistryFacts Gattlib.Connection Gattlib.Events Gattlib.Changes Gattlib.Effects
open Gattlib.Scan Gattlib.Adapters Gattlib.StepOutcomes Gattlib.Frames Gattlib.SystemInvariants
open Gattlib.ScanFacts Gattlib.Discoveries Gattlib.HandlerFrames

/-- The signals a scan connects a handler to. -/
def signals : List ScanResource := [.objectAdded, .objectRemoved, .interfaceProxyPropertiesChanged]

/-- The call fails once it has connected its handlers: discovery does not start, or there
is no thread. -/
def failsLate (w : World) (a : Nat) (request : ScanRequest) (o : EnableOutcome) : Bool :=
  stores w a request o && (o.startError.isSome || !o.thread)

/-- What a failed call leaves is what it has found, and no scan. -/
structure NothingLeft (a : Nat) (w w' : World) : Prop where
  handlers : ∀ r ∈ w'.scanLedger.acquired, w.scanLedger.next ≤ r.id →
    r.id ∈ w'.scanLedger.released
  scanning : (scanOf w' a).isScanning = false
  callback : discoveredCallbackOf w' a = discoveredCallbackOf w a

/-- No scan of the adapter is in progress, and no handler of one is connected. -/
structure Idle (w : World) (a : Nat) : Prop where
  scanning : (scanOf w a).isScanning = false
  handlers : ∀ k ∈ signals, liveCount w.scanLedger a k = 0

/-- The steps between two scans: starts that fail, and what the devices do meanwhile. -/
def Between (a : Nat) (w : World) : SystemEvent → Prop
  | .device _ => True
  | .scan (.scanEnable b blocking request o) =>
      b = a ∧ (gattlibAdapterScanEnableWithFilter w a blocking request o).1 ≠ gattlibSuccess
  | _ => False

def LeavesNothing (a : Nat) (w : World) : SystemEvent → World → Prop
  | .scan (.scanEnable _ _ _ _), w' => NothingLeft a w w'
  | _, _ => True

def lateStart (a : Nat) (w : World) : SystemEvent → Bool
  | .scan (.scanEnable _ _ request o) => failsLate w a request o
  | _ => false

/-- The numbers the structure of a scan holds. -/
def slotsOf (s : BleScan) : List Nat :=
  [s.addedSignalId, s.removedSignalId, s.changedSignalId, s.bleScanTimeoutId]

/-- Only numbers that have been given out are held and released. -/
structure Known (w : World) : Prop where
  released : ∀ i ∈ w.scanLedger.released, i < w.scanLedger.next
  slots : ∀ a, ∀ i ∈ slotsOf (scanOf w a), i < w.scanLedger.next
  firing : ∀ p ∈ w.scanTimersFiring, p.1 < w.scanLedger.next

structure Numbered (w : World) : Prop where
  sound : SystemSound w
  known : Known w

section

variable {w w' : World} {a t : Nat} {th : ScanThread}

theorem known_outside (h : Known w) (ho : OutsideScans w w') : Known w' := by
  refine ⟨?_, fun b => ?_, ?_⟩
  · rw [ho.ledger]
    exact h.released
  · rw [ho.ledger]
    obtain hnone | hsame := ho.scans b
    · rw [hnone]
      intro i hi
      have hzero : i = 0 := by simpa [slotsOf] using hi
      rw [hzero]
      exact w.scanLedger.positive
    · rw [hsame]
      exact h.slots b
  · rw [ho.firing, ho.ledger]
    exact h.firing

/-- A step on the scan of one adapter. -/
theorem known_at (h : Known w) (hat : OnlyAt a w w')
    (hn : w.scanLedger.next ≤ w'.scanLedger.next)
    (hr : ∀ i ∈ w'.scanLedger.released, i < w'.scanLedger.next)
    (hs : ∀ i ∈ slotsOf (scanOf w' a), i < w'.scanLedger.next)
    (hf : w'.scanTimersFiring = w.scanTimersFiring) : Known w' := by
  refine ⟨hr, fun b => ?_, fun p hp => ?_⟩
  · by_cases hb : b = a
    · subst b
      exact hs
    · rw [scanOf_of_cell (hat.cells b hb)]
      exact fun i hi => Nat.lt_of_lt_of_le (h.slots b i hi) hn
  · rw [hf] at hp
    exact Nat.lt_of_lt_of_le (h.firing p hp) hn

theorem mem_slotsOf {i : Nat} {s : BleScan} (hi : i ∈ slotsOf s) :
    i = s.addedSignalId ∨ i = s.removedSignalId ∨ i = s.changedSignalId ∨
      i = s.bleScanTimeoutId := by
  simpa [slotsOf] using hi

theorem known_enabled (h : Known w) (he : Enabled w a w') : Known w' := by
  have hnext : w'.scanLedger.next = w.scanLedger.next + 3 := by rw [he.ledger]; rfl
  apply known_at h he.cells
  · omega
  · intro i hi
    rw [he.ledger] at hi
    have hold := h.released i hi
    omega
  · intro i hi
    have hadded := he.added
    have hremoved := he.removed
    have hchanged := he.changed
    have htimer := he.timer
    obtain hi | hi | hi | hi := mem_slotsOf hi
    · omega
    · omega
    · omega
    · omega
  · exact he.firing

theorem known_enable (h : Known w) (hw : WellFormed w) (a : Nat) (blocking : Bool)
    (request : ScanRequest) (o : EnableOutcome) :
    Known (gattlibAdapterScanEnableWithFilter w a blocking request o).2 := by
  have hr := enable_result hw a blocking request o
  generalize (gattlibAdapterScanEnableWithFilter w a blocking request o).2 = x at hr ⊢
  cases hr with
  | unprepared => exact h
  | failed hp he => exact known_enabled h he
  | started hp he =>
    have hy := known_enabled h he
    exact ⟨hy.released, hy.slots, hy.firing⟩

theorem known_loopStart (h : Known w) (hw : WellFormed w) (t : Nat) (th : ScanThread) :
    Known (scanLoopStart w t th) := by
  cases hv : gattlibAdapterIsValid w th.adapter with
  | false =>
    rw [scanLoopStart, if_pos hv]
    exact ⟨h.released, h.slots, h.firing⟩
  | true =>
    have hl := live_of_valid hw hv
    have hledger := loopStart_ledger hl t
    have hold := h.slots th.adapter
    have hn : w.scanLedger.next ≤ (scanLoopStart w t th).scanLedger.next := by
      rw [hledger]
      split
      · exact Nat.le_succ _
      · exact Nat.le_refl _
    apply known_at h (loopStart_at w t th) hn
    · intro i hi
      have hreleased : (scanLoopStart w t th).scanLedger.released = w.scanLedger.released := by
        rw [hledger]
        split
        · rfl
        · rfl
      rw [hreleased] at hi
      exact Nat.lt_of_lt_of_le (h.released i hi) hn
    · rw [loopStart_scan hl]
      intro i hi
      obtain hi | hi | hi | hi := mem_slotsOf hi
      · exact Nat.lt_of_lt_of_le (hold i (by simp [slotsOf, hi])) hn
      · exact Nat.lt_of_lt_of_le (hold i (by simp [slotsOf, hi])) hn
      · exact Nat.lt_of_lt_of_le (hold i (by simp [slotsOf, hi])) hn
      · dsimp only at hi
        rw [hledger]
        split at hi
        · next ht =>
          rw [if_pos ht, hi]
          exact Nat.lt_succ_self _
        · next ht =>
          rw [if_neg ht]
          exact hold i (by simp [slotsOf, hi])
    · exact (loopStart_fields w t th).2

/-- The call stops the scan or leaves it, and releases nothing but its timer. -/
theorem known_disable (h : Known w) (hlive : gattlibAdapterIsValid w a = true → Live w a)
    (discovering : Bool) (stop : Option GError) :
    Known (gattlibAdapterScanDisable w a discovering stop).2 := by
  cases hv : gattlibAdapterIsValid w a with
  | false =>
    rw [gattlibAdapterScanDisable, if_pos hv]
    exact h
  | true =>
    have hl := hlive hv
    have hd := disable_disabled hl discovering stop
    generalize (gattlibAdapterScanDisable w a discovering stop).2 = x at hd ⊢
    have hslots : ∀ i ∈ slotsOf (scanOf x a), i < w.scanLedger.next := by
      cases hd with
      | skipped => exact h.slots a
      | unstarted => exact h.slots a
      | stopped =>
        rw [scanStop_scan (live_requested hl)]
        intro i hi
        obtain hi | hi | hi | hi := mem_slotsOf hi
        · exact h.slots a i (by simp [slotsOf, hi, requested, scanOf])
        · exact h.slots a i (by simp [slotsOf, hi, requested, scanOf])
        · exact h.slots a i (by simp [slotsOf, hi, requested, scanOf])
        · rw [hi]
          exact w.scanLedger.positive
    obtain hledger | ⟨_, hledger⟩ := disabled_ledger hl hd
    · apply known_at h (disabled_at hd)
      · exact Nat.le_of_eq (congrArg Ledger.next hledger).symm
      · rw [hledger]
        exact h.released
      · rw [hledger]
        exact hslots
      · exact disabled_firing hd
    · apply known_at h (disabled_at hd)
      · exact Nat.le_of_eq (congrArg Ledger.next hledger).symm
      · rw [hledger]
        exact List.forall_mem_cons.mpr ⟨h.slots a _ (by simp [slotsOf]), h.released⟩
      · rw [hledger]
        exact hslots
      · exact disabled_firing hd

theorem disconnectSignal_next (l : Ledger ScanResource) (i : Nat) :
    (disconnectSignal l i).next = l.next := by
  unfold disconnectSignal
  split
  · rfl
  · rfl

theorem disconnectSignal_known {l : Ledger ScanResource} (hl : ∀ j ∈ l.released, j < l.next)
    {i : Nat} (hi : i < l.next) :
    ∀ j ∈ (disconnectSignal l i).released, j < (disconnectSignal l i).next := by
  rw [disconnectSignal_next]
  unfold disconnectSignal
  split
  · exact hl
  · exact List.forall_mem_cons.mpr ⟨hi, hl⟩

theorem known_disconnect (h : Known w) (a : Nat) : Known (disconnectSignals w a) := by
  have hslots := h.slots a
  have hnext : (disconnectSignals w a).scanLedger.next = w.scanLedger.next := by
    unfold disconnectSignals
    rw [disconnectSignal_next, disconnectSignal_next, disconnectSignal_next]
  refine known_at h (onlyAt_fields (onlyAt_refl a w) _ _ _ _ _) (Nat.le_of_eq hnext.symm) ?_ ?_ rfl
  · have hadded := disconnectSignal_known (i := (scanOf w a).addedSignalId) h.released
      (hslots _ (by simp [slotsOf]))
    have hremoved := disconnectSignal_known (i := (scanOf w a).removedSignalId) hadded
      (by rw [disconnectSignal_next]; exact hslots _ (by simp [slotsOf]))
    exact disconnectSignal_known (i := (scanOf w a).changedSignalId) hremoved
      (by rw [disconnectSignal_next, disconnectSignal_next]; exact hslots _ (by simp [slotsOf]))
  · rw [hnext]
    exact hslots

theorem known_loopFinish (h : Known w) (hw : WellFormed w) (t : Nat) (th : ScanThread)
    (discovering : Bool) (stop : Option GError) :
    Known (scanLoopFinish w t th discovering stop) := by
  unfold scanLoopFinish
  split
  · exact ⟨h.released, h.slots, h.firing⟩
  · have hx := known_disable (known_disconnect h th.adapter) (live_disconnected hw)
      discovering stop
    exact ⟨hx.released, hx.slots, hx.firing⟩

theorem known_timer (h : Known w) (hw : WellFormed w) (hr : TimerRun w t a w') : Known w' := by
  refine ⟨fun i hi => ?_, fun b => ?_, fun p hp => ?_⟩
  · rw [hr.given]
    obtain hold | rfl := hr.released i hi
    · exact h.released i hold
    · exact h.firing _ hr.fires
  · rw [hr.given]
    by_cases hb : b = a
    · subst b
      cases hv : gattlibAdapterIsValid w a with
      | false =>
        rw [hr.stale hv]
        exact h.slots a
      | true =>
        rw [hr.scan (live_of_valid hw hv)]
        intro i hi
        obtain hi | hi | hi | hi := mem_slotsOf hi
        · exact h.slots a i (by simp [slotsOf, hi])
        · exact h.slots a i (by simp [slotsOf, hi])
        · exact h.slots a i (by simp [slotsOf, hi])
        · rw [hi]
          exact w.scanLedger.positive
    · rw [scanOf_of_cell (hr.only.cells b hb)]
      exact h.slots b
  · rw [hr.given]
    exact h.firing p (hr.firing p hp)

theorem known_scanStep (h : Known w) (hw : WellFormed w) {e : ScanEvent}
    (hs : scanStep w e = some w') : Known w' := by
  cases scanStep_outcome hs with
  | stays => exact h
  | enabled a blocking request o => exact known_enable h hw a blocking request o
  | @started t th _ => exact known_loopStart h hw t th
  | checked | called => exact ⟨h.released, h.slots, h.firing⟩
  | @finished t th discovering stop _ => exact known_loopFinish h hw t th discovering stop
  | fired hl =>
    exact ⟨h.released, h.slots, List.forall_mem_cons.mpr ⟨w.scanLedger.bounded _ hl.1, h.firing⟩⟩
  | timedOut hrun => exact known_timer h hw (timer_run hrun)
  | disabled a discovering stop => exact known_disable h (live_of_valid hw) discovering stop

theorem numbered_effect (h : Numbered w) (he : AdapterEffect w w') : Numbered w' := by
  refine ⟨systemSound_effect h.sound he, ?_⟩
  obtain hout | ⟨a, discovering, stop, _, rfl⟩ := effect_outside he
  · exact known_outside h.known hout
  · exact known_disable h.known (live_of_valid h.sound.sound.wellFormed) discovering stop

theorem numbered_step {e : SystemEvent} (h : Numbered w) (hs : systemStep w e = some w') :
    Numbered w' := by
  have hw := h.sound.sound.wellFormed
  have hsound := systemStep_sound h.sound hs
  cases e with
  | device e => exact ⟨hsound, known_outside h.known (outside_device (deviceStep_frame hw hs))⟩
  | scan e => exact ⟨hsound, known_scanStep h.known hw hs⟩
  | adapter e =>
    cases adapterStep_outcome hs with
    | appended name proxy => exact ⟨hsound, known_outside h.known (outside_append w name proxy)⟩
    | effects he => exact effects_keep h he numbered_effect

theorem started_numbered (h : Started w) : Numbered w := by
  refine ⟨started_sound h, ?_⟩
  cases h
  refine ⟨fun i hi => absurd hi List.not_mem_nil, fun a i hi => ?_,
    fun p hp => absurd hp List.not_mem_nil⟩
  have hzero : i = 0 := by simpa [slotsOf, scanOf, Library.Memory.empty] using hi
  rw [hzero]
  exact Library.Resources.empty.positive

theorem numbered_preserved : Preserves systemStep AnyStep Numbered :=
  fun _ _ _ h _ hs => numbered_step h hs

theorem numbered_run {past : List (World × SystemEvent × World)}
    (h : Run systemStep Started past w) : Numbered w :=
  (run_steps (fun _ => started_numbered) numbered_preserved h (fun _ _ => trivial)).1

/-! One call -/

theorem prepare_error {request : ScanRequest} {o : EnableOutcome} {ret : Ret}
    (h : scanPrepare w a request o = .error ret) : ret ≠ gattlibSuccess := by
  unfold scanPrepare at h
  split at h
  · cases h
    decide
  · split at h
    · cases h
      decide
    · split at h
      · cases h
        decide
      · split at h
        · next e _ =>
          cases h
          exact dbusError_ne_success e
        · split at h
          · cases h
            exact proxyError_ne_success o.managerError
          · cases h

theorem createThread_success (w : World) (a : Nat) (blocking thread : Bool) :
    (scanCreateThread w a blocking thread).1 = gattlibSuccess ↔ thread = true := by
  cases thread with
  | false =>
    have hinternal : gattlibErrorInternal ≠ gattlibSuccess := by decide
    exact iff_of_false hinternal Bool.false_ne_true
  | true => exact iff_of_true rfl rfl

/-- A call returns success if it comes to its end. -/
theorem enable_success (w : World) (a : Nat) (blocking : Bool) (request : ScanRequest)
    (o : EnableOutcome) :
    (gattlibAdapterScanEnableWithFilter w a blocking request o).1 = gattlibSuccess ↔
      stores w a request o = true ∧ o.startError = none ∧ o.thread = true := by
  unfold gattlibAdapterScanEnableWithFilter stores
  cases hv : gattlibAdapterIsValid w a with
  | false =>
    have hclose : gattlibAdapterClose ≠ gattlibSuccess := by decide
    exact iff_of_false hclose (fun h => Bool.false_ne_true h.1)
  | true =>
    rw [if_neg (by decide), Bool.true_and]
    cases hp : scanPrepare w a request o with
    | error ret => exact iff_of_false (prepare_error hp) (fun h => Bool.false_ne_true h.1)
    | ok x =>
      dsimp only [scanStart]
      cases o.startError with
      | some error =>
        rw [if_pos (dbusError_ne_success error)]
        exact iff_of_false (dbusError_ne_success error) (fun h => by cases h.2.1)
      | none =>
        rw [if_neg (fun h => h rfl), createThread_success]
        exact ⟨fun h => ⟨rfl, rfl, h⟩, fun h => h.2.2⟩

/-- The ledger once the handlers are connected. -/
def connected (l : Ledger ScanResource) (a : Nat) : Ledger ScanResource :=
  acquire (acquire (acquire l .objectAdded a) .objectRemoved a) .interfaceProxyPropertiesChanged a

theorem createThread_ledger (w : World) (a : Nat) (blocking thread : Bool) :
    (scanCreateThread w a blocking thread).2.scanLedger = w.scanLedger := by
  unfold scanCreateThread
  split
  · rfl
  · rfl

theorem start_ledger (w : World) (a : Nat) (request : ScanRequest) (o : EnableOutcome) :
    (scanStart w a request o).2.scanLedger = connected w.scanLedger a := by
  unfold scanStart
  cases o.startError with
  | none => rfl
  | some error => rfl

theorem enable_ledger {request : ScanRequest} {o : EnableOutcome}
    (hs : stores w a request o = true) (blocking : Bool) :
    (gattlibAdapterScanEnableWithFilter w a blocking request o).2.scanLedger =
      connected w.scanLedger a := by
  unfold stores at hs
  rw [Bool.and_eq_true] at hs
  unfold gattlibAdapterScanEnableWithFilter
  rw [hs.1, if_neg (by decide)]
  cases hp : scanPrepare w a request o with
  | error ret =>
    rw [hp] at hs
    cases hs.2
  | ok x =>
    have hx : x.scanLedger = w.scanLedger := by
      obtain ⟨adapters, hm, _⟩ := managed_frame w a o.manager
      rw [prepare_managed hp, hm]
    have hstart := start_ledger x a request o
    rw [hx] at hstart
    dsimp only
    split
    · exact hstart
    · rw [createThread_ledger]
      split
      · exact hstart
      · exact hstart

/-- Each signal has one handler more. -/
theorem connected_count {l : Ledger ScanResource} (hl : ∀ i ∈ l.released, i < l.next) (a : Nat)
    {k : ScanResource} (hk : k ∈ signals) :
    liveCount (connected l a) a k = liveCount l a k + 1 := by
  have hl₁ : ∀ i ∈ (acquire l .objectAdded a).released, i < (acquire l .objectAdded a).next :=
    fun i hi => Nat.lt_succ_of_lt (hl i hi)
  have hl₂ : ∀ i ∈ (acquire (acquire l .objectAdded a) .objectRemoved a).released,
      i < (acquire (acquire l .objectAdded a) .objectRemoved a).next :=
    fun i hi => Nat.lt_succ_of_lt (hl₁ i hi)
  unfold connected
  rw [liveCount_acquire hl₂, liveCount_acquire hl₁, liveCount_acquire hl]
  simp only [signals, List.mem_cons, List.not_mem_nil, or_false] at hk
  obtain rfl | rfl | rfl := hk
  · simp
  · simp
  · simp

theorem late_stores {request : ScanRequest} {o : EnableOutcome}
    (hl : failsLate w a request o = true) : stores w a request o = true :=
  (Bool.and_eq_true_iff.mp hl).1

/-- A call that fails before it has connected anything leaves the world alone. -/
theorem early_failure {blocking : Bool} {request : ScanRequest} {o : EnableOutcome}
    (hf : (gattlibAdapterScanEnableWithFilter w a blocking request o).1 ≠ gattlibSuccess)
    (hl : failsLate w a request o = false) :
    (gattlibAdapterScanEnableWithFilter w a blocking request o).2 = w := by
  cases hs : stores w a request o with
  | false => exact enable_unstored hs blocking
  | true =>
    rw [failsLate, hs, Bool.true_and, Bool.or_eq_false_iff, Option.isSome_eq_false_iff,
      Option.isNone_iff_eq_none, Bool.not_eq_false'] at hl
    exact absurd ((enable_success w a blocking request o).mpr ⟨hs, hl⟩) hf

/-- A call that fails later leaves its handlers. -/
theorem late_failure (h : Known w) {request : ScanRequest} {o : EnableOutcome}
    (hl : failsLate w a request o = true) (blocking : Bool) :
    ¬NothingLeft a w (gattlibAdapterScanEnableWithFilter w a blocking request o).2 := by
  intro hn
  have hledger := enable_ledger (late_stores hl) blocking
  have hgone := hn.handlers ⟨w.scanLedger.next, .objectAdded, a⟩
    (by rw [hledger]; simp [connected]) (Nat.le_refl _)
  rw [hledger] at hgone
  exact Nat.lt_irrefl _ (h.released _ hgone)

theorem nothingLeft_same (hi : Idle w a) : NothingLeft a w w :=
  ⟨fun r hr hid => absurd (w.scanLedger.bounded r hr) (Nat.not_lt.mpr hid), hi.scanning, rfl⟩

theorem idle_device {e : DeviceEvent} (h : Numbered w) (hi : Idle w a)
    (hs : systemStep w (.device e) = some w') : Idle w' a := by
  have hf := deviceStep_frame h.sound.sound.wellFormed hs
  have hledger := (outside_device hf).ledger
  refine ⟨?_, ?_⟩
  · rw [deviceFrame_scan hf]
    exact hi.scanning
  · rw [hledger]
    exact hi.handlers

/-- A step between two scans that does not fail late leaves the adapter idle. -/
theorem between_step {e : SystemEvent} (h : Numbered w) (hi : Idle w a) (hb : Between a w e)
    (hl : lateStart a w e = false) (hs : systemStep w e = some w') :
    Idle w' a ∧ LeavesNothing a w e w' := by
  cases e with
  | device e => exact ⟨idle_device h hi hs, trivial⟩
  | adapter e => exact hb.elim
  | scan e =>
    cases e with
    | scanEnable b blocking request o =>
      obtain ⟨rfl, hf⟩ := hb
      have hsame := early_failure hf hl
      have hw : w' = w := (Option.some.inj hs).symm.trans hsame
      rw [hw]
      exact ⟨hi, nothingLeft_same hi⟩
    | loopStart | loopCheck | loopFinish | callerCheck | callerReturn | timerFires | timeout
    | scanDisable => exact hb.elim

end

/-- Failed starts leave nothing, and a scan that follows them has one handler for each signal,
exactly if none of them fails after its handlers are connected. -/
theorem starts_leave_nothing {past tr : List (World × SystemEvent × World)} {w₀ w : World}
    {a : Nat} (h₀ : Run systemStep Started past w₀) (hidle : Idle w₀ a)
    (h : Run systemStep (· = w₀) tr w) (hb : ∀ x ∈ tr, Between a x.1 x.2.1) :
    ((∀ x ∈ tr, LeavesNothing a x.1 x.2.1 x.2.2) ∧ ∀ blocking request o,
      (gattlibAdapterScanEnableWithFilter w a blocking request o).1 = gattlibSuccess →
      ∀ k ∈ signals, liveCount
        (gattlibAdapterScanEnableWithFilter w a blocking request o).2.scanLedger a k = 1) ↔
      ∀ x ∈ tr, lateStart a x.1 x.2.1 = false := by
  have hstart : ∀ s, s = w₀ → Numbered s := by
    rintro s rfl
    exact numbered_run h₀
  obtain ⟨hlast, hsteps⟩ := run_steps hstart numbered_preserved h (fun _ _ => trivial)
  constructor
  · rintro ⟨hnothing, _⟩ ⟨v, e, v'⟩ hx
    obtain ⟨hnumbered, hs⟩ := hsteps _ hx
    have hbetween := hb _ hx
    have hleft := hnothing _ hx
    cases e with
    | device e => rfl
    | adapter e => exact hbetween.elim
    | scan e =>
      cases e with
      | scanEnable b blocking request o =>
        obtain ⟨rfl, _⟩ := hbetween
        have hv : (gattlibAdapterScanEnableWithFilter v b blocking request o).2 = v' :=
          Option.some.inj hs
        by_contra hlate
        apply late_failure hnumbered.known ((Bool.not_eq_false _).mp hlate) blocking
        rw [hv]
        exact hleft
      | loopStart | loopCheck | loopFinish | callerCheck | callerReturn | timerFires | timeout
      | scanDisable => exact hbetween.elim
  · intro hearly
    have hpres : Preserves systemStep (fun v e => Between a v e ∧ lateStart a v e = false)
        (fun v => Numbered v ∧ Idle v a) := by
      rintro v e v' ⟨hn, hi⟩ ⟨hbetween, hl⟩ hs
      exact ⟨numbered_step hn hs, (between_step hn hi hbetween hl hs).1⟩
    have hinit : ∀ s, s = w₀ → Numbered s ∧ Idle s a := by
      rintro s rfl
      exact ⟨numbered_run h₀, hidle⟩
    obtain ⟨hend, hkeep⟩ := run_steps hinit hpres h (fun x hx => ⟨hb x hx, hearly x hx⟩)
    refine ⟨fun x hx => ?_, fun blocking request o hs k hk => ?_⟩
    · obtain ⟨⟨hn, hi⟩, hstep⟩ := hkeep x hx
      exact (between_step hn hi (hb x hx) (hearly x hx) hstep).2
    · have hstores := ((enable_success w a blocking request o).mp hs).1
      rw [enable_ledger hstores, connected_count hlast.known.released a hk,
        hend.2.handlers k hk]

/-- The default adapter, just opened. -/
def openedWorld : World := gattlibAdapterOpenAppend { pendingOpens := [hci0] } hci0 1

theorem opened_idle : Idle openedWorld 0 := ⟨rfl, fun _ _ => rfl⟩

def dbusError : GError := ⟨238, 1, []⟩

/-- One start of the adapter. -/
theorem start_run (o : EnableOutcome) : Run systemStep (· = openedWorld)
    [(openedWorld, .scan (.scanEnable 0 true scanRequest o),
      (gattlibAdapterScanEnableWithFilter openedWorld 0 true scanRequest o).2)]
    (gattlibAdapterScanEnableWithFilter openedWorld 0 true scanRequest o).2 :=
  .next (.start rfl) rfl

theorem start_between {o : EnableOutcome} (ho : ¬(o.startError = none ∧ o.thread = true) ∨
    stores openedWorld 0 scanRequest o = false) :
    Between 0 openedWorld (.scan (.scanEnable 0 true scanRequest o)) := by
  refine ⟨rfl, fun hs => ?_⟩
  obtain ⟨hstores, hrest⟩ := (enable_success openedWorld 0 true scanRequest o).mp hs
  obtain hlate | hearly := ho
  · exact hlate hrest
  · rw [hearly] at hstores
    cases hstores

def filterRejected : EnableOutcome where
  filterError := some dbusError
  manager := some 1
  thread := true

def discoveryRefused : EnableOutcome where
  manager := some 1
  startError := some dbusError
  thread := true

/-- BlueZ rejects the filter of a first scan. -/
theorem starts_leave_nothing_rejected : ∃ tr w, Run systemStep (· = openedWorld) tr w ∧
    tr.length = 1 ∧ (∀ x ∈ tr, LeavesNothing 0 x.1 x.2.1 x.2.2) ∧ ∀ blocking request o,
      (gattlibAdapterScanEnableWithFilter w 0 blocking request o).1 = gattlibSuccess →
      ∀ k ∈ signals, liveCount
        (gattlibAdapterScanEnableWithFilter w 0 blocking request o).2.scanLedger 0 k = 1 := by
  have hrun := start_run filterRejected
  exact ⟨_, _, hrun, rfl, (starts_leave_nothing opened_run opened_idle hrun
    (List.forall_mem_singleton.mpr (start_between (Or.inr rfl)))).mpr
    (List.forall_mem_singleton.mpr rfl)⟩

/-- Discovery does not start the first time, and three handlers are left. -/
theorem handlers_left : ¬∀ (past tr : List (World × SystemEvent × World)) (w₀ w : World) (a : Nat),
    Run systemStep Started past w₀ → Idle w₀ a → Run systemStep (· = w₀) tr w →
    (∀ x ∈ tr, Between a x.1 x.2.1) →
    (∀ x ∈ tr, LeavesNothing a x.1 x.2.1 x.2.2) ∧ ∀ blocking request o,
      (gattlibAdapterScanEnableWithFilter w a blocking request o).1 = gattlibSuccess →
      ∀ k ∈ signals, liveCount
        (gattlibAdapterScanEnableWithFilter w a blocking request o).2.scanLedger a k = 1 := by
  intro h
  have hbetween := start_between (o := discoveryRefused) (Or.inl (by decide))
  obtain ⟨_, hone⟩ := h _ _ _ _ 0 opened_run opened_idle (start_run discoveryRefused)
    (List.forall_mem_singleton.mpr hbetween)
  have htwo := hone true scanRequest scanAnswer
    ((enable_success _ 0 true scanRequest scanAnswer).mpr ⟨rfl, rfl, rfl⟩) .objectAdded
    (by decide)
  cases htwo.symm.trans (rfl : _ = 2)

end Gattlib.FailedStarts
