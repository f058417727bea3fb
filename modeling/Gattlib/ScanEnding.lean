import Gattlib.ScanFinality

namespace Gattlib.ScanEnding

open Library.Memory Library.Resources Library.Transition Gattlib.Strings Gattlib.State
open Gattlib.Registry Gattlib.RegistryFacts Gattlib.Connection Gattlib.Events Gattlib.Scan
open Gattlib.Adapters Gattlib.StepOutcomes Gattlib.Frames Gattlib.SystemInvariants
open Gattlib.ScanFacts Gattlib.ScanFinality

/-- The signal handlers a loop thread has to disconnect. -/
def handlersOf (th : ScanThread) : List (ScanResource × Nat) :=
  [(.objectAdded, th.added), (.objectRemoved, th.removed),
    (.interfaceProxyPropertiesChanged, th.changed)]

def callbackOf (w : World) (a : Nat) : Option Nat := (discoveredCallbackOf w a).callback

/-- The scan of a thread is stopped: a request has been made and the callback is gone. -/
def Stopped (w : World) (th : ScanThread) : Prop :=
  th.stopsBefore < w.stopRequests th.adapter ∧ callbackOf w th.adapter = none

instance (w : World) (th : ScanThread) : Decidable (Stopped w th) :=
  inferInstanceAs (Decidable (_ ∧ _))

/-- When the thread of a scan returns, its scan is stopped and its handlers have
been disconnected once. -/
def Ended (w : World) (e : SystemEvent) (w' : World) : Prop :=
  ∀ thread discovering stop th, e = .scan (.loopFinish thread discovering stop) →
    threadAt w thread .leaving = some th → gattlibAdapterIsValid w th.adapter = true →
    Stopped w' th ∧ ∀ h ∈ handlersOf th, w'.scanLedger.released.count h.2 = 1

/-- The loop threads of an adapter that have not returned. -/
def loopThreads (w : World) (a : Nat) : List ScanThread :=
  (List.range w.nextThread).filterMap (fun t =>
    (w.scanThreads t).filter (fun th => th.adapter = a ∧ th.pc ≠ .returned))

def prepares (w : World) (a : Nat) (request : ScanRequest) (o : EnableOutcome) : Bool :=
  match scanPrepare w a request o with
  | .ok _ => true
  | .error _ => false

/-- No scan is enabled while a loop thread of the adapter has not returned, and the
timeout clears `is_scanning` only of a scan that is stopped otherwise. -/
def LeavesScan (w : World) : SystemEvent → Prop
  | .scan (.scanEnable a _ request o) => prepares w a request o = true →
      (loopThreads w a).isEmpty = true
  | .scan (.timeout _ a) => gattlibAdapterIsValid w a = true → (scanOf w a).isScanning = true →
      ∀ th ∈ loopThreads w a, th.pc = .waiting → Stopped w th
  | _ => True

instance (w : World) : (e : SystemEvent) → Decidable (LeavesScan w e)
  | .scan (.scanEnable _ _ _ _) => inferInstanceAs (Decidable (_ → _))
  | .scan (.timeout _ a) => inferInstanceAs (Decidable (_ → _ → ∀ th ∈ loopThreads w a, _ → _))
  | .device _ | .adapter _ | .scan (.loopStart _) | .scan (.loopCheck _)
  | .scan (.loopFinish _ _ _) | .scan (.callerCheck _) | .scan (.callerReturn _)
  | .scan (.timerFires _) | .scan (.scanDisable _ _ _) => instDecidableTrue

/-- What a scan whose loop thread has not returned has in hand. -/
structure Tended (w : World) (th : ScanThread) : Prop where
  added : (scanOf w th.adapter).addedSignalId = th.added
  removed : (scanOf w th.adapter).removedSignalId = th.removed
  changed : (scanOf w th.adapter).changedSignalId = th.changed
  held : ∀ h ∈ handlersOf th, h.2 ≠ 0 ∧ ⟨h.2, h.1, th.adapter⟩ ∈ w.scanLedger.acquired ∧
    h.2 ∉ w.scanLedger.released
  behind : th.stopsBefore ≤ w.stopRequests th.adapter
  stopped : (th.pc = .waiting ∧ (scanOf w th.adapter).isScanning = false) ∨ th.pc = .leaving →
    Stopped w th

/-- The thread has not returned and its adapter is listed. -/
structure Running (w : World) (t : Nat) (th : ScanThread) : Prop where
  thread : w.scanThreads t = some th
  running : th.pc ≠ .returned
  listed : th.adapter ∈ w.adapterList

/-- The books of the scans. -/
structure Attended (w : World) : Prop where
  threaded : Threaded w
  tended : ∀ t th, Running w t th → Tended w th
  unique : ∀ t u th uh, Running w t th → Running w u uh → th.adapter = uh.adapter → t = u
  known : ∀ i ∈ w.scanLedger.released, i < w.scanLedger.next
  timer : ∀ a, (scanOf w a).bleScanTimeoutId ≠ 0 →
    ⟨(scanOf w a).bleScanTimeoutId, .scanTimer, a⟩ ∈ w.scanLedger.acquired
  firing : ∀ p ∈ w.scanTimersFiring, ⟨p.1, .scanTimer, p.2⟩ ∈ w.scanLedger.acquired
  bound : ∀ t th, w.scanThreads t = some th → th.adapter < w.adapters.next

section

variable {w w' : World} {a b t : Nat} {th : ScanThread} {e : SystemEvent}
  {r : ScanRequest} {o : EnableOutcome}

theorem mem_loopThreads (h : Threaded w) :
    th ∈ loopThreads w a ↔ (∃ t, w.scanThreads t = some th) ∧ th.adapter = a ∧
      th.pc ≠ .returned := by
  unfold loopThreads
  rw [List.mem_filterMap]
  constructor
  · rintro ⟨t, _, ht⟩
    rw [Option.filter_eq_some_iff, decide_eq_true_iff] at ht
    exact ⟨⟨t, ht.1⟩, ht.2⟩
  · rintro ⟨⟨t, ht⟩, hp⟩
    refine ⟨t, ?_, ?_⟩
    · rw [List.mem_range]
      by_contra hge
      rw [h.fresh t (by omega)] at ht
      cases ht
    · rw [Option.filter_eq_some_iff, decide_eq_true_iff]
      exact ⟨ht, hp⟩

/-- A timer is not one of the handlers. -/
theorem timer_not_held (h : Tended w th) {i o : Nat}
    (hi : ⟨i, .scanTimer, o⟩ ∈ w.scanLedger.acquired) : ∀ h ∈ handlersOf th, h.2 ≠ i := by
  rintro ⟨k, j⟩ hj rfl
  have he := entry_ext (h.held _ hj).2.1 hi rfl
  obtain ⟨_, hk, _⟩ := Entry.mk.inj he
  simp only [handlersOf, List.mem_cons, Prod.mk.injEq, List.not_mem_nil, or_false] at hj
  rcases hj with ⟨rfl, _⟩ | ⟨rfl, _⟩ | ⟨rfl, _⟩
  · cases hk
  · cases hk
  · cases hk

/-- A thread keeps what it has in hand as long as its handlers stay connected, its
ids stay in the structure and its scan is not stopped behind its back. -/
theorem tended_mono (h : Tended w th)
    (hadded : (scanOf w' th.adapter).addedSignalId = (scanOf w th.adapter).addedSignalId)
    (hremoved : (scanOf w' th.adapter).removedSignalId = (scanOf w th.adapter).removedSignalId)
    (hchanged : (scanOf w' th.adapter).changedSignalId = (scanOf w th.adapter).changedSignalId)
    (hacq : ∀ x ∈ w.scanLedger.acquired, x ∈ w'.scanLedger.acquired)
    (hrel : ∀ h ∈ handlersOf th, h.2 ∈ w'.scanLedger.released → h.2 ∈ w.scanLedger.released)
    (hstops : w.stopRequests th.adapter ≤ w'.stopRequests th.adapter)
    (hcallback : callbackOf w th.adapter = none → callbackOf w' th.adapter = none)
    (hscanning : th.pc = .waiting → (scanOf w' th.adapter).isScanning = false →
      (scanOf w th.adapter).isScanning = false ∨ Stopped w' th) : Tended w' th := by
  refine ⟨hadded.trans h.added, hremoved.trans h.removed, hchanged.trans h.changed,
    fun x hx => ?_, Nat.le_trans h.behind hstops, fun hpc => ?_⟩
  · obtain ⟨hne, hmem, hnot⟩ := h.held x hx
    exact ⟨hne, hacq _ hmem, fun hr => hnot (hrel x hx hr)⟩
  · have hkeep : Stopped w th → Stopped w' th :=
      fun hs => ⟨Nat.lt_of_lt_of_le hs.1 hstops, hcallback hs.2⟩
    rcases hpc with ⟨hw, hf⟩ | hl
    · rcases hscanning hw hf with hold | hnew
      · exact hkeep (h.stopped (Or.inl ⟨hw, hold⟩))
      · exact hnew
    · exact hkeep (h.stopped (Or.inr hl))

theorem callbackOf_of_cell (h : w'.adapters.cell a = w.adapters.cell a) :
    callbackOf w' a = callbackOf w a := by
  rw [callbackOf, callback_of_cell h, callbackOf]

/-- The scan of a thread on an adapter that is left alone. -/
theorem tended_other (h : Tended w th) (hat : OnlyAt a w w') (hne : th.adapter ≠ a)
    (hacq : ∀ x ∈ w.scanLedger.acquired, x ∈ w'.scanLedger.acquired)
    (hrel : ∀ h ∈ handlersOf th, h.2 ∈ w'.scanLedger.released → h.2 ∈ w.scanLedger.released) :
    Tended w' th := by
  have hscan := scanOf_of_cell (hat.cells _ hne)
  have hcb := callbackOf_of_cell (hat.cells _ hne)
  apply tended_mono h _ _ _ hacq hrel
  · exact Nat.le_of_eq (hat.stops _ hne).symm
  · intro hn
    rw [hcb, hn]
  · intro _ hf
    rw [hscan] at hf
    exact Or.inl hf
  · rw [hscan]
  · rw [hscan]
  · rw [hscan]

/-- A step that leaves the threads and the scans of the listed adapters alone. -/
structure SameScans (w w' : World) : Prop where
  threads : SameThreads w w'
  ledger : w'.scanLedger = w.scanLedger
  firing : ∀ p ∈ w'.scanTimersFiring, p ∈ w.scanTimersFiring ∨
    ⟨p.1, .scanTimer, p.2⟩ ∈ w.scanLedger.acquired
  stops : w'.stopRequests = w.stopRequests
  next : w.adapters.next ≤ w'.adapters.next
  listed : ∀ a, a < w.adapters.next → a ∈ w'.adapterList →
    a ∈ w.adapterList ∧ scanOf w' a = scanOf w a ∧ callbackOf w' a = callbackOf w a
  timer : ∀ a, (scanOf w' a).bleScanTimeoutId ≠ 0 →
    (scanOf w' a).bleScanTimeoutId = (scanOf w a).bleScanTimeoutId

theorem attended_same (h : Attended w) (ht : Threaded w') (hs : SameScans w w') : Attended w' := by
  have hrunning : ∀ t th, Running w' t th → Running w t th ∧
      scanOf w' th.adapter = scanOf w th.adapter ∧
      callbackOf w' th.adapter = callbackOf w th.adapter := by
    intro t th hr
    have hthread : w.scanThreads t = some th := by
      rw [← hs.threads.threads]
      exact hr.thread
    obtain ⟨hl, hscan, hcb⟩ := hs.listed th.adapter (h.bound t th hthread) hr.listed
    exact ⟨⟨hthread, hr.running, hl⟩, hscan, hcb⟩
  refine ⟨ht, fun t th hr => ?_, fun t u th uh hr hu he => ?_, ?_, fun a ha => ?_, ?_,
    fun t th hth => ?_⟩
  · obtain ⟨hr', hscan, hcb⟩ := hrunning t th hr
    apply tended_mono (h.tended t th hr')
    · rw [hscan]
    · rw [hscan]
    · rw [hscan]
    · rw [hs.ledger]
      exact fun _ hx => hx
    · rw [hs.ledger]
      exact fun _ _ hx => hx
    · exact Nat.le_of_eq (congrFun hs.stops th.adapter).symm
    · rw [hcb]
      exact fun hn => hn
    · rw [hscan]
      exact fun _ hf => Or.inl hf
  · exact h.unique t u th uh (hrunning t th hr).1 (hrunning u uh hu).1 he
  · rw [hs.ledger]
    exact h.known
  · have hold := hs.timer a ha
    rw [hold] at ha ⊢
    rw [hs.ledger]
    exact h.timer a ha
  · intro p hp
    rw [hs.ledger]
    rcases hs.firing p hp with hold | hnew
    · exact h.firing p hold
    · exact hnew
  · rw [hs.threads.threads] at hth
    exact Nat.lt_of_lt_of_le (h.bound t th hth) hs.next

/-- A step on the scan of one adapter. -/
structure ScanAt (a : Nat) (w w' : World) : Prop where
  only : OnlyAt a w w'
  list : w'.adapterList = w.adapterList
  next : w'.adapters.next = w.adapters.next
  acquired : ∀ x ∈ w.scanLedger.acquired, x ∈ w'.scanLedger.acquired
  given : w.scanLedger.next ≤ w'.scanLedger.next
  released : ∀ i ∈ w'.scanLedger.released, i ∈ w.scanLedger.released ∨
    ∃ k o, ⟨i, k, o⟩ ∈ w.scanLedger.acquired ∧ (k = .scanTimer ∨ o = a)

theorem scanAt_released (h : Tended w th) (hs : ScanAt a w w') (hne : th.adapter ≠ a) :
    ∀ x ∈ handlersOf th, x.2 ∈ w'.scanLedger.released → x.2 ∈ w.scanLedger.released := by
  intro x hx hr
  rcases hs.released _ hr with hold | ⟨k, o, hm, hk | ho⟩
  · exact hold
  · subst k
    exact absurd rfl (timer_not_held h hm x hx)
  · have he := entry_ext (h.held x hx).2.1 hm rfl
    obtain ⟨_, _, howner⟩ := Entry.mk.inj he
    exact absurd (howner.trans ho) hne

theorem attended_at (h : Attended w) (ht : Threaded w') (hs : ScanAt a w w')
    (hothers : ∀ t th, Running w' t th → th.adapter ≠ a → Running w t th)
    (hself : ∀ t th, Running w' t th → th.adapter = a → Tended w' th)
    (hunique : ∀ t u th uh, Running w' t th → Running w' u uh → th.adapter = a →
      uh.adapter = a → t = u)
    (htimer : (scanOf w' a).bleScanTimeoutId ≠ 0 →
      ⟨(scanOf w' a).bleScanTimeoutId, .scanTimer, a⟩ ∈ w'.scanLedger.acquired)
    (hfiring : ∀ p ∈ w'.scanTimersFiring, ⟨p.1, .scanTimer, p.2⟩ ∈ w'.scanLedger.acquired)
    (hbound : ∀ t th, w'.scanThreads t = some th → th.adapter < w.adapters.next) :
    Attended w' := by
  refine ⟨ht, fun t th hr => ?_, fun t u th uh hr hu he => ?_, fun i hi => ?_, fun b hb => ?_,
    hfiring, fun t th hth => ?_⟩
  · by_cases ha : th.adapter = a
    · exact hself t th hr ha
    · have hold := h.tended t th (hothers t th hr ha)
      exact tended_other hold hs.only ha hs.acquired (scanAt_released hold hs ha)
  · by_cases ha : th.adapter = a
    · exact hunique t u th uh hr hu ha (he ▸ ha)
    · exact h.unique t u th uh (hothers t th hr ha) (hothers u uh hu (he ▸ ha)) he
  · rcases hs.released i hi with hold | ⟨k, o, hm, _⟩
    · exact Nat.lt_of_lt_of_le (h.known i hold) hs.given
    · exact Nat.lt_of_lt_of_le (w.scanLedger.bounded _ hm) hs.given
  · by_cases ha : b = a
    · subst b
      exact htimer hb
    · rw [scanOf_of_cell (hs.only.cells b ha)] at hb ⊢
      exact hs.acquired _ (h.timer b hb)
  · rw [hs.next]
    exact hbound t th hth

theorem threaded_scan (h : Threaded w) (hf : ScanFrame w w') (hs : SameThreads w w') :
    Threaded w' := by
  refine ⟨systemSound_scan h.sound hf, fun t ht => ?_⟩
  rw [hs.threads]
  rw [hs.next] at ht
  exact h.fresh t ht

/-! `gattlib_adapter_scan_disable` -/

theorem scanAt_disable (h : Attended w) (hl : Live w a) (discovering : Bool)
    (stop : Option GError) :
    ScanAt a w (gattlibAdapterScanDisable w a discovering stop).2 := by
  have hd := disable_disabled hl discovering stop
  have hframe := scanFrame_disable (scanFrame_refl w) a discovering stop
  have hlist := congrArg World.adapterList hframe.outside
  rcases disabled_ledger hl hd with hledger | ⟨htimer, hledger⟩
  · refine ⟨disabled_at hd, hlist, hframe.next, ?_, ?_, ?_⟩
    · rw [hledger]
      exact fun _ hx => hx
    · exact Nat.le_of_eq (congrArg Ledger.next hledger).symm
    · rw [hledger]
      exact fun _ hi => Or.inl hi
  · refine ⟨disabled_at hd, hlist, hframe.next, ?_, ?_, ?_⟩
    · rw [hledger]
      exact fun _ hx => hx
    · exact Nat.le_of_eq (congrArg Ledger.next hledger).symm
    · rw [hledger]
      intro i hi
      rcases List.mem_cons.mp hi with rfl | hi
      · exact Or.inr ⟨.scanTimer, a, h.timer a htimer, Or.inl rfl⟩
      · exact Or.inl hi

theorem running_same (ht : SameThreads w w') (hl : w'.adapterList = w.adapterList)
    (hr : Running w' t th) : Running w t th := by
  refine ⟨?_, hr.running, ?_⟩
  · rw [← ht.threads]
    exact hr.thread
  · rw [← hl]
    exact hr.listed

theorem requested_stops (w : World) (a : Nat) :
    (requested w a).stopRequests a = w.stopRequests a + 1 :=
  Function.update_self ..

theorem tended_disabled (h : Tended w th) (hl : Live w th.adapter)
    (hs : ScanAt th.adapter w w')
    (hrel : ∀ x ∈ handlersOf th, x.2 ∈ w'.scanLedger.released → x.2 ∈ w.scanLedger.released)
    {discovering : Bool} {stop : Option GError}
    (hd : Disabled w th.adapter discovering stop w') : Tended w' th := by
  cases hd with
  | skipped hd => exact h
  | unstarted hscan hn =>
    apply tended_mono h _ _ _ hs.acquired hrel
    · rw [requested_stops]
      exact Nat.le_succ _
    · exact fun hn => hn
    · exact fun _ hf => Or.inl hf
    · rfl
    · rfl
    · rfl
  | stopped hdis hscan hn =>
    have hstop : scanOf (scanStop (requested w th.adapter) th.adapter) th.adapter =
        { scanOf w th.adapter with isScanning := false, bleScanTimeoutId := 0 } :=
      scanStop_scan (live_requested hl)
    have hcount : (scanStop (requested w th.adapter) th.adapter).stopRequests th.adapter =
        w.stopRequests th.adapter + 1 := by
      rw [(scanStop_fields _ _).1, requested_stops]
    have hcallback := scanStop_callback (requested w th.adapter) th.adapter
    apply tended_mono h _ _ _ hs.acquired hrel
    · rw [hcount]
      exact Nat.le_succ _
    · exact fun _ => hcallback
    · intro _ _
      refine Or.inr ⟨?_, hcallback⟩
      rw [hcount]
      exact Nat.lt_succ_of_le h.behind
    · rw [hstop]
    · rw [hstop]
    · rw [hstop]

theorem disabled_timer (hl : Live w a) {discovering : Bool} {stop : Option GError}
    (hd : Disabled w a discovering stop w') (ht : (scanOf w' a).bleScanTimeoutId ≠ 0) :
    (scanOf w' a).bleScanTimeoutId = (scanOf w a).bleScanTimeoutId := by
  cases hd with
  | skipped hd => rfl
  | unstarted hscan hn => rfl
  | stopped hdis hscan hn =>
    rw [scanStop_scan (live_requested hl)] at ht
    exact absurd rfl ht

theorem attended_disable (h : Attended w) (hl : Live w a) (discovering : Bool)
    (stop : Option GError) :
    Attended (gattlibAdapterScanDisable w a discovering stop).2 := by
  have hs := scanAt_disable h hl discovering stop
  have hd := disable_disabled hl discovering stop
  have hthreads := disable_threads w a discovering stop
  have hth := threaded_scan h.threaded
    (scanFrame_disable (scanFrame_refl w) a discovering stop) hthreads
  apply attended_at h hth hs
  · intro t th hr _
    exact running_same hthreads hs.list hr
  · intro t th hr ha
    subst ha
    have htended := h.tended t th (running_same hthreads hs.list hr)
    refine tended_disabled htended hl hs (fun x hx hrel => ?_) hd
    rcases disabled_ledger hl hd with hledger | ⟨htimer, hledger⟩
    · rw [hledger] at hrel
      exact hrel
    · rw [hledger] at hrel
      rcases List.mem_cons.mp hrel with he | hrel
      · exact absurd he (timer_not_held htended (h.timer _ htimer) x hx)
      · exact hrel
  · intro t u th uh hr hu ha hb
    exact h.unique t u th uh (running_same hthreads hs.list hr)
      (running_same hthreads hs.list hu) (ha.trans hb.symm)
  · intro ht
    have hold := disabled_timer hl hd ht
    rw [hold] at ht ⊢
    exact hs.acquired _ (h.timer a ht)
  · intro p hp
    rw [disabled_firing hd] at hp
    exact hs.acquired _ (h.firing p hp)
  · intro t th ht
    rw [hthreads.threads] at ht
    exact h.bound t th ht

/-! The loop thread -/

theorem running_moved {pc : ScanPc} (hm : w'.scanThreads =
      Function.update w.scanThreads t (some { th with pc := pc }))
    (hl : w'.adapterList = w.adapterList) {u : Nat} {uh : ScanThread} (hr : Running w' u uh)
    (hu : u ≠ t) : Running w u uh := by
  refine ⟨?_, hr.running, ?_⟩
  · have hthread := hr.thread
    rw [hm, Function.update_of_ne hu] at hthread
    exact hthread
  · rw [← hl]
    exact hr.listed

theorem moved_thread {pc : ScanPc} (hm : w'.scanThreads =
      Function.update w.scanThreads t (some { th with pc := pc })) {uh : ScanThread}
    (hr : Running w' t uh) : uh = { th with pc := pc } := by
  have hthread := hr.thread
  rw [hm, Function.update_self] at hthread
  exact (Option.some.inj hthread).symm

/-- A thread takes a step: what it has in hand after the step is all there is to show. -/
theorem attended_moved (h : Attended w) (ht : Threaded w') (hthread : w.scanThreads t = some th)
    (hpc : th.pc ≠ .returned) {pc : ScanPc} (hm : w'.scanThreads =
      Function.update w.scanThreads t (some { th with pc := pc }))
    (hs : ScanAt th.adapter w w')
    (htended : th.adapter ∈ w.adapterList → pc ≠ .returned → Tended w' { th with pc := pc })
    (htimer : (scanOf w' th.adapter).bleScanTimeoutId ≠ 0 →
      ⟨(scanOf w' th.adapter).bleScanTimeoutId, .scanTimer, th.adapter⟩ ∈ w'.scanLedger.acquired)
    (hfiring : w'.scanTimersFiring = w.scanTimersFiring) : Attended w' := by
  have hself : ∀ u uh, Running w' u uh → uh.adapter = th.adapter → u = t := by
    intro u uh hr ha
    by_contra hne
    have hold := running_moved hm hs.list hr hne
    exact hne (h.unique u t uh th hold ⟨hthread, hpc, ha ▸ hold.listed⟩ ha)
  apply attended_at h ht hs
  · intro u uh hr ha
    apply running_moved hm hs.list hr
    rintro rfl
    rw [moved_thread hm hr] at ha
    exact ha rfl
  · intro u uh hr ha
    have hu := hself u uh hr ha
    subst u
    have he := moved_thread hm hr
    subst he
    have hlisted := hr.listed
    rw [hs.list] at hlisted
    exact htended hlisted hr.running
  · intro u v uh vh hr hv ha hb
    exact (hself u uh hr ha).trans (hself v vh hv hb).symm
  · exact htimer
  · intro p hp
    rw [hfiring] at hp
    exact hs.acquired _ (h.firing p hp)
  · intro u uh hu
    rw [hm] at hu
    by_cases hne : u = t
    · subst u
      rw [Function.update_self, Option.some.injEq] at hu
      subst hu
      exact h.bound t th hthread
    · rw [Function.update_of_ne hne] at hu
      exact h.bound u uh hu

theorem tended_pc (h : Tended w th) (pc : ScanPc)
    (hs : (pc = .waiting ∧ (scanOf w th.adapter).isScanning = false) ∨ pc = .leaving →
      Stopped w th) : Tended w { th with pc := pc } :=
  ⟨h.added, h.removed, h.changed, h.held, h.behind, hs⟩

theorem scanAt_pc (w : World) (t : Nat) (th : ScanThread) (pc : ScanPc) (a : Nat) :
    ScanAt a w (setScanPc w t th pc) :=
  ⟨onlyAt_pc (onlyAt_refl a w) _ _ _, rfl, rfl, fun _ hx => hx, Nat.le_refl _,
    fun _ hi => Or.inl hi⟩

/-- A step that changes nothing but the place of a thread. -/
theorem attended_pc (h : Attended w) (hthread : w.scanThreads t = some th)
    (hpc : th.pc ≠ .returned) (pc : ScanPc) (ht : Threaded (setScanPc w t th pc))
    (hs : th.adapter ∈ w.adapterList →
      (pc = .waiting ∧ (scanOf w th.adapter).isScanning = false) ∨ pc = .leaving →
      Stopped w th) : Attended (setScanPc w t th pc) := by
  apply attended_moved h ht hthread hpc rfl (scanAt_pc w t th pc th.adapter)
  · intro hl hne
    have hold := tended_pc (h.tended t th ⟨hthread, hpc, hl⟩) pc (hs hl)
    exact ⟨hold.added, hold.removed, hold.changed, hold.held, hold.behind, hold.stopped⟩
  · exact h.timer th.adapter
  · rfl

theorem threadAt_running {pc : ScanPc} (hth : threadAt w t pc = some th) (hne : pc ≠ .returned) :
    th.pc ≠ .returned := by
  rw [(threadAt_iff.mp hth).2]
  exact hne

/-- A thread whose adapter is gone returns and does nothing else. -/
theorem attended_returned (h : Attended w) (hthread : w.scanThreads t = some th)
    (hpc : th.pc ≠ .returned) (ht : Threaded (setScanPc w t th .returned)) :
    Attended (setScanPc w t th .returned) := by
  apply attended_pc h hthread hpc .returned ht
  rintro _ (⟨hw, _⟩ | hl)
  · cases hw
  · cases hl

theorem loopStart_moves (hv : gattlibAdapterIsValid w th.adapter = true) (t : Nat) :
    (scanLoopStart w t th).scanThreads =
      Function.update w.scanThreads t (some { th with pc := .waiting }) := by
  unfold scanLoopStart
  rw [hv, if_neg (by decide)]
  dsimp only
  split
  · rfl
  · rfl

theorem scanAt_loopStart (hl : Live w th.adapter) (t : Nat) :
    ScanAt th.adapter w (scanLoopStart w t th) := by
  have hledger := loopStart_ledger hl t
  have hframe := scanFrame_loopStart w t th
  have hlist := congrArg World.adapterList hframe.outside
  refine ⟨loopStart_at w t th, hlist, hframe.next, ?_, ?_, ?_⟩
  · rw [hledger]
    split
    · exact fun _ hx => List.mem_cons_of_mem _ hx
    · exact fun _ hx => hx
  · rw [hledger]
    split
    · exact Nat.le_succ _
    · exact Nat.le_refl _
  · rw [hledger]
    split
    · exact fun _ hi => Or.inl hi
    · exact fun _ hi => Or.inl hi

theorem tended_loopStart (hl : Live w th.adapter) (hpc : th.pc = .created) (h : Tended w th)
    (t : Nat) : Tended (scanLoopStart w t th) { th with pc := .waiting } := by
  have hscan := loopStart_scan hl t
  have hledger := loopStart_ledger hl t
  obtain ⟨hstops, _⟩ := loopStart_fields w t th
  have hkeep : Tended (scanLoopStart w t th) th := by
    apply tended_mono h _ _ _ (scanAt_loopStart hl t).acquired
    · intro x _ hx
      rw [hledger] at hx
      split at hx
      · exact hx
      · exact hx
    · exact Nat.le_of_eq (congrFun hstops th.adapter).symm
    · intro hn
      rw [callbackOf, loopStart_callback]
      exact hn
    · intro hw
      rw [hpc] at hw
      cases hw
    · rw [hscan]
    · rw [hscan]
    · rw [hscan]
  apply tended_pc hkeep
  rintro (⟨_, hf⟩ | hl)
  · rw [hscan] at hf
    cases hf
  · cases hl

theorem attended_loopStart (h : Attended w) (hth : threadAt w t .created = some th)
    (ht : Threaded (scanLoopStart w t th)) : Attended (scanLoopStart w t th) := by
  obtain ⟨hthread, hpc⟩ := threadAt_iff.mp hth
  have hne := threadAt_running hth (by decide)
  cases hv : gattlibAdapterIsValid w th.adapter with
  | false =>
    have hreturn : scanLoopStart w t th = setScanPc w t th .returned := by
      rw [scanLoopStart, if_pos hv]
    rw [hreturn] at ht ⊢
    exact attended_returned h hthread hne ht
  | true =>
    have hl := live_of_valid h.threaded.sound.sound.wellFormed hv
    obtain ⟨_, hfiring⟩ := loopStart_fields w t th
    apply attended_moved h ht hthread hne (loopStart_moves hv t) (scanAt_loopStart hl t)
    · intro hlisted _
      exact tended_loopStart hl hpc (h.tended t th ⟨hthread, hne, hlisted⟩) t
    · rw [loopStart_scan hl t, loopStart_ledger hl t]
      dsimp only
      split
      · exact fun _ => List.mem_cons_self
      · exact h.timer th.adapter
    · exact hfiring

theorem attended_loopCheck (h : Attended w) (hth : threadAt w t .waiting = some th)
    (hs : ¬gattlibAdapterIsScanning w th.adapter = true)
    (ht : Threaded (setScanPc w t th .leaving)) : Attended (setScanPc w t th .leaving) := by
  obtain ⟨hthread, hpc⟩ := threadAt_iff.mp hth
  have hne := threadAt_running hth (by decide)
  apply attended_pc h hthread hne .leaving ht
  intro hlisted _
  have hscan : (scanOf w th.adapter).isScanning = false := by
    rw [← Bool.not_eq_true]
    intro hf
    obtain ⟨ad, had⟩ := h.threaded.sound.sound.wellFormed.live _ hlisted
    apply hs
    unfold gattlibAdapterIsScanning
    rw [(valid_iff w th.adapter).mpr hlisted, had]
    rw [scanOf, had] at hf
    exact hf
  exact (h.tended t th ⟨hthread, hne, hlisted⟩).stopped (Or.inl ⟨hpc, hscan⟩)

/-- What the end of a loop thread releases: its handlers and the timer of its scan. -/
theorem loopFinish_released (hl : Live w th.adapter) (htended : Tended w th) (t : Nat)
    (discovering : Bool) (stop : Option GError) :
    (scanLoopFinish w t th discovering stop).scanLedger.acquired = w.scanLedger.acquired ∧
    (scanLoopFinish w t th discovering stop).scanLedger.next = w.scanLedger.next ∧
    ((scanLoopFinish w t th discovering stop).scanLedger.released =
        th.changed :: th.removed :: th.added :: w.scanLedger.released ∨
      (scanOf w th.adapter).bleScanTimeoutId ≠ 0 ∧
      (scanLoopFinish w t th discovering stop).scanLedger.released =
        (scanOf w th.adapter).bleScanTimeoutId ::
          th.changed :: th.removed :: th.added :: w.scanLedger.released) := by
  have hadded : th.added ≠ 0 := (htended.held (.objectAdded, th.added) (by simp [handlersOf])).1
  have hremoved : th.removed ≠ 0 :=
    (htended.held (.objectRemoved, th.removed) (by simp [handlersOf])).1
  have hchanged : th.changed ≠ 0 :=
    (htended.held (.interfaceProxyPropertiesChanged, th.changed) (by simp [handlersOf])).1
  have hsignals : (disconnectSignals w th.adapter).scanLedger =
      release (release (release w.scanLedger th.added) th.removed) th.changed := by
    unfold disconnectSignals disconnectSignal
    dsimp only
    rw [htended.added, htended.removed, htended.changed, if_neg hadded, if_neg hremoved,
      if_neg hchanged]
  have hl' : Live (disconnectSignals w th.adapter) th.adapter := ⟨hl.valid, hl.cell⟩
  have hfinish : (scanLoopFinish w t th discovering stop).scanLedger =
      (gattlibAdapterScanDisable (disconnectSignals w th.adapter) th.adapter discovering
        stop).2.scanLedger := by
    unfold scanLoopFinish
    rw [live_valid hl, if_neg (by decide)]
    rfl
  rw [hfinish]
  rcases disabled_ledger hl' (disable_disabled hl' discovering stop) with hledger | ⟨htimer, hledger⟩
  · rw [hledger, hsignals]
    exact ⟨rfl, rfl, Or.inl rfl⟩
  · rw [hledger, hsignals]
    exact ⟨rfl, rfl, Or.inr ⟨htimer, rfl⟩⟩

theorem held_owner (h : Tended w th) {i : Nat}
    (hi : i = th.changed ∨ i = th.removed ∨ i = th.added) :
    ∃ k, ⟨i, k, th.adapter⟩ ∈ w.scanLedger.acquired := by
  rcases hi with rfl | rfl | rfl
  · exact ⟨_, (h.held (.interfaceProxyPropertiesChanged, th.changed) (by simp [handlersOf])).2.1⟩
  · exact ⟨_, (h.held (.objectRemoved, th.removed) (by simp [handlersOf])).2.1⟩
  · exact ⟨_, (h.held (.objectAdded, th.added) (by simp [handlersOf])).2.1⟩

theorem scanAt_loopFinish (h : Attended w) (hl : Live w th.adapter) (htended : Tended w th)
    (discovering : Bool) (stop : Option GError) :
    ScanAt th.adapter w (scanLoopFinish w t th discovering stop) := by
  obtain ⟨hacq, hnext, hrel⟩ := loopFinish_released hl htended t discovering stop
  have hframe := scanFrame_loopFinish w t th discovering stop
  have hlist := congrArg World.adapterList hframe.outside
  have hl' : Live (disconnectSignals w th.adapter) th.adapter := ⟨hl.valid, hl.cell⟩
  have hat := disabled_at (disable_disabled hl' discovering stop)
  have honly : OnlyAt th.adapter w (scanLoopFinish w t th discovering stop) := by
    unfold scanLoopFinish
    rw [live_valid hl, if_neg (by decide)]
    exact ⟨hat.cells, hat.stops⟩
  have hids : ∀ i, i ∈ th.changed :: th.removed :: th.added :: w.scanLedger.released →
      i ∈ w.scanLedger.released ∨ ∃ k o, ⟨i, k, o⟩ ∈ w.scanLedger.acquired ∧
        (k = .scanTimer ∨ o = th.adapter) := by
    intro i hi
    simp only [List.mem_cons] at hi
    rcases hi with hi | hi | hi | hi
    · obtain ⟨k, hm⟩ := held_owner htended (Or.inl hi)
      exact Or.inr ⟨k, th.adapter, hm, Or.inr rfl⟩
    · obtain ⟨k, hm⟩ := held_owner htended (Or.inr (Or.inl hi))
      exact Or.inr ⟨k, th.adapter, hm, Or.inr rfl⟩
    · obtain ⟨k, hm⟩ := held_owner htended (Or.inr (Or.inr hi))
      exact Or.inr ⟨k, th.adapter, hm, Or.inr rfl⟩
    · exact Or.inl hi
  refine ⟨honly, hlist, hframe.next, ?_, ?_, fun i hi => ?_⟩
  · rw [hacq]
    exact fun _ hx => hx
  · exact Nat.le_of_eq hnext.symm
  · rcases hrel with hrel | ⟨htimer, hrel⟩
    · rw [hrel] at hi
      exact hids i hi
    · rw [hrel] at hi
      rcases List.mem_cons.mp hi with rfl | hi
      · exact Or.inr ⟨.scanTimer, th.adapter, h.timer _ htimer, Or.inl rfl⟩
      · exact hids i hi

theorem attended_loopFinish (h : Attended w) (hth : threadAt w t .leaving = some th)
    (discovering : Bool) (stop : Option GError)
    (ht : Threaded (scanLoopFinish w t th discovering stop)) :
    Attended (scanLoopFinish w t th discovering stop) := by
  obtain ⟨hthread, _⟩ := threadAt_iff.mp hth
  have hne := threadAt_running hth (by decide)
  cases hv : gattlibAdapterIsValid w th.adapter with
  | false =>
    have hreturn : scanLoopFinish w t th discovering stop = setScanPc w t th .returned := by
      rw [scanLoopFinish, if_pos hv]
    rw [hreturn] at ht ⊢
    exact attended_returned h hthread hne ht
  | true =>
    have hl := live_of_valid h.threaded.sound.sound.wellFormed hv
    have htended := h.tended t th ⟨hthread, hne, hl.valid⟩
    have hl' : Live (disconnectSignals w th.adapter) th.adapter := ⟨hl.valid, hl.cell⟩
    have hd := disable_disabled hl' discovering stop
    have hs := scanAt_loopFinish (t := t) h hl htended discovering stop
    have hthreads := (disable_threads (disconnectSignals w th.adapter) th.adapter discovering
      stop).threads
    have hfinish : scanLoopFinish w t th discovering stop =
        setScanPc (gattlibAdapterScanDisable (disconnectSignals w th.adapter) th.adapter
          discovering stop).2 t th .returned := by
      unfold scanLoopFinish
      rw [hv, if_neg (by decide)]
    have hscan : scanOf (scanLoopFinish w t th discovering stop) th.adapter =
        scanOf (gattlibAdapterScanDisable (disconnectSignals w th.adapter) th.adapter
          discovering stop).2 th.adapter := by
      rw [hfinish]
      rfl
    apply attended_moved h ht hthread hne _ hs
    · exact fun _ hr => absurd rfl hr
    · intro htimer
      rw [hscan] at htimer ⊢
      have hold := disabled_timer hl' hd htimer
      rw [hold] at htimer ⊢
      exact hs.acquired _ (h.timer th.adapter htimer)
    · have hfiring := disabled_firing hd
      rw [hfinish]
      exact hfiring
    · rw [hfinish, setScanPc]
      dsimp only
      rw [hthreads]
      rfl

/-! The timeout -/

theorem attended_timeout (h : Attended w) {timer : Nat}
    (hleaves : LeavesScan w (.scan (.timeout timer a))) (hs : TimerRun w timer a w')
    (ht : Threaded w') : Attended w' := by
  have htimer := h.firing _ hs.fires
  have hw := h.threaded.sound.sound.wellFormed
  have hacq : ∀ x ∈ w.scanLedger.acquired, x ∈ w'.scanLedger.acquired := by
    rw [hs.acquired]
    exact fun _ hx => hx
  have hrunning : ∀ t th, Running w' t th → Running w t th :=
    fun t th hr => running_same hs.threads hs.list hr
  apply attended_at h ht
  · refine ⟨hs.only, hs.list, hs.next, hacq, Nat.le_of_eq hs.given.symm, fun i hi => ?_⟩
    rcases hs.released i hi with hold | rfl
    · exact Or.inl hold
    · exact Or.inr ⟨.scanTimer, a, htimer, Or.inl rfl⟩
  · exact fun t th hr _ => hrunning t th hr
  · intro t th hr ha
    have hold := hrunning t th hr
    have htended := h.tended t th hold
    have hv := (valid_iff w th.adapter).mpr hold.listed
    subst ha
    have hscan := hs.scan (live_of_valid hw hv)
    apply tended_mono htended _ _ _ hacq
    · intro x hx hx'
      rcases hs.released _ hx' with hx' | he
      · exact hx'
      · exact absurd he (timer_not_held htended htimer x hx)
    · exact Nat.le_of_eq (congrFun hs.stops th.adapter).symm
    · intro hn
      rw [callbackOf, hs.callback]
      exact hn
    · intro hpc _
      cases hsc : (scanOf w th.adapter).isScanning with
      | false => exact Or.inl rfl
      | true =>
        have hmem := (mem_loopThreads h.threaded).mpr ⟨⟨t, hold.thread⟩, rfl, hold.running⟩
        obtain ⟨hlt, hn⟩ := hleaves hv hsc th hmem hpc
        refine Or.inr ⟨?_, ?_⟩
        · rw [hs.stops]
          exact hlt
        · rw [callbackOf, hs.callback]
          exact hn
    · rw [hscan]
    · rw [hscan]
    · rw [hscan]
  · intro t u th uh hr hu ha hb
    exact h.unique t u th uh (hrunning t th hr) (hrunning u uh hu) (ha.trans hb.symm)
  · intro hne
    cases hv : gattlibAdapterIsValid w a with
    | false =>
      rw [hs.stale hv] at hne ⊢
      exact hacq _ (h.timer a hne)
    | true =>
      rw [hs.scan (live_of_valid hw hv)] at hne
      exact absurd rfl hne
  · exact fun p hp => hacq _ (h.firing p (hs.firing p hp))
  · intro t th hth
    rw [hs.threads.threads] at hth
    exact h.bound t th hth

/-! The scan-enable functions -/

theorem not_running (h : Threaded w) (hempty : (loopThreads w a).isEmpty = true)
    (hr : Running w t th) : th.adapter ≠ a := by
  intro ha
  have hmem := (mem_loopThreads h).mpr ⟨⟨t, hr.thread⟩, ha, hr.running⟩
  rw [List.isEmpty_iff.mp hempty] at hmem
  cases hmem

theorem scanAt_enabled (he : Enabled w a w') (hl : w'.adapterList = w.adapterList)
    (hn : w'.adapters.next = w.adapters.next) : ScanAt a w w' := by
  refine ⟨he.cells, hl, hn, ?_, ?_, ?_⟩
  · rw [he.ledger]
    exact fun _ hx => List.mem_cons_of_mem _ (List.mem_cons_of_mem _ (List.mem_cons_of_mem _ hx))
  · rw [he.ledger]
    simp only [acquire_next]
    omega
  · rw [he.ledger]
    exact fun _ hi => Or.inl hi

theorem tended_created (h : Attended w) (he : Enabled w a w') :
    Tended w' (createdThread w a) := by
  have hpos := w.scanLedger.positive
  have hfresh : ∀ i, w.scanLedger.next ≤ i → i ∉ w'.scanLedger.released := by
    intro i hi hm
    rw [he.ledger] at hm
    have hlt := h.known i hm
    omega
  refine ⟨he.added, he.removed, he.changed, fun x hx => ?_, ?_, ?_⟩
  · simp only [handlersOf, createdThread, List.mem_cons, List.not_mem_nil, or_false] at hx
    rcases hx with rfl | rfl | rfl
    · refine ⟨by omega, ?_, hfresh _ (Nat.le_refl _)⟩
      rw [he.ledger]
      exact List.mem_cons_of_mem _ (List.mem_cons_of_mem _ List.mem_cons_self)
    · refine ⟨by omega, ?_, hfresh _ (Nat.le_succ _)⟩
      rw [he.ledger]
      exact List.mem_cons_of_mem _ List.mem_cons_self
    · refine ⟨by omega, ?_, hfresh _ (by omega)⟩
      rw [he.ledger]
      exact List.mem_cons_self
  · exact Nat.le_of_eq (congrFun he.stops a).symm
  · rintro (⟨hpc, _⟩ | hpc)
    · cases hpc
    · cases hpc

theorem attended_enable (h : Attended w) (hr : EnableResult w a r o w')
    (hleaves : prepares w a r o = true → (loopThreads w a).isEmpty = true)
    (hframe : ScanFrame w w') (ht : Threaded w') : Attended w' := by
  have hlist := congrArg World.adapterList hframe.outside
  cases hr with
  | unprepared => exact h
  | @failed x _ hp he =>
    have hempty := hleaves (by rw [prepares, hp])
    have hs := scanAt_enabled he hlist hframe.next
    have hrunning : ∀ t th, Running w' t th → Running w t th :=
      fun t th hr => running_same ⟨he.threads, he.next⟩ hlist hr
    apply attended_at h ht hs
    · exact fun t th hr _ => hrunning t th hr
    · exact fun t th hr ha => absurd ha (not_running h.threaded hempty (hrunning t th hr))
    · exact fun t u th uh hr _ ha _ => absurd ha (not_running h.threaded hempty (hrunning t th hr))
    · exact fun hne => absurd he.timer hne
    · intro p hp
      rw [he.firing] at hp
      exact hs.acquired _ (h.firing p hp)
    · intro t th hth
      rw [he.threads] at hth
      exact h.bound t th hth
  | @started x y cs hp he =>
    have hempty := hleaves (by rw [prepares, hp])
    obtain ⟨ad, had⟩ := prepare_cell hp
    have hsy := scanAt_enabled he hlist hframe.next
    have hnew := tended_created h he
    have hold : ∀ t th, Running { y with
        nextThread := w.nextThread + 1
        scanThreads := Function.update w.scanThreads w.nextThread (some (createdThread w a))
        scanCallers := cs } t th →
        (t = w.nextThread ∧ th = createdThread w a) ∨ Running w t th := by
      intro t th hr
      have hthread := hr.thread
      dsimp only at hthread
      by_cases hne : t = w.nextThread
      · subst t
        rw [Function.update_self, Option.some.injEq] at hthread
        exact Or.inl ⟨rfl, hthread.symm⟩
      · rw [Function.update_of_ne hne] at hthread
        have hlisted : th.adapter ∈ w.adapterList := hlist ▸ hr.listed
        exact Or.inr ⟨hthread, hr.running, hlisted⟩
    have hself : ∀ t th, Running { y with
        nextThread := w.nextThread + 1
        scanThreads := Function.update w.scanThreads w.nextThread (some (createdThread w a))
        scanCallers := cs } t th → th.adapter = a →
        t = w.nextThread ∧ th = createdThread w a := by
      intro t th hr ha
      rcases hold t th hr with hnew | hr
      · exact hnew
      · exact absurd ha (not_running h.threaded hempty hr)
    apply attended_at (a := a) h ht
    · exact ⟨⟨hsy.only.cells, hsy.only.stops⟩, hsy.list, hsy.next, hsy.acquired, hsy.given,
        hsy.released⟩
    · intro t th hr ha
      rcases hold t th hr with ⟨_, rfl⟩ | hr
      · exact absurd rfl ha
      · exact hr
    · intro t th hr ha
      obtain ⟨_, rfl⟩ := hself t th hr ha
      exact ⟨hnew.added, hnew.removed, hnew.changed, hnew.held, hnew.behind, hnew.stopped⟩
    · intro t u th uh hr hu ha hb
      exact (hself t th hr ha).1.trans (hself u uh hu hb).1.symm
    · exact fun hne => absurd he.timer hne
    · intro p hp
      have hp' : p ∈ w.scanTimersFiring := he.firing ▸ hp
      exact hsy.acquired _ (h.firing p hp')
    · intro t th hth
      dsimp only at hth
      by_cases hne : t = w.nextThread
      · subst t
        rw [Function.update_self, Option.some.injEq] at hth
        subst hth
        exact lt_next had
      · rw [Function.update_of_ne hne] at hth
        exact h.bound t th hth

/-! The other steps -/

theorem sameScans_scan (hthreads : SameThreads w w') (hl : w'.scanLedger = w.scanLedger)
    (hfiring : ∀ p ∈ w'.scanTimersFiring, p ∈ w.scanTimersFiring ∨
      ⟨p.1, .scanTimer, p.2⟩ ∈ w.scanLedger.acquired)
    (hstops : w'.stopRequests = w.stopRequests) (ha : w'.adapters = w.adapters)
    (hlist : w'.adapterList = w.adapterList) : SameScans w w' := by
  have hscan : ∀ a, scanOf w' a = scanOf w a := fun a => scanOf_of_cell (by rw [ha])
  have hnext : w.adapters.next ≤ w'.adapters.next := Nat.le_of_eq (by rw [ha])
  refine ⟨hthreads, hl, hfiring, hstops, hnext, fun a _ hm => ⟨?_, hscan a, ?_⟩,
    fun a _ => by rw [hscan]⟩
  · rw [← hlist]
    exact hm
  · exact callbackOf_of_cell (by rw [ha])

theorem attended_scanStep (h : Attended w) {e : ScanEvent} (hleaves : LeavesScan w (.scan e))
    (hs : scanStep w e = some w') : Attended w' := by
  have ht : Threaded w' := step_threaded (e := .scan e) h.threaded hs
  have hw := h.threaded.sound.sound.wellFormed
  cases scanStep_outcome hs with
  | stays => exact h
  | enabled adapter blocking request o =>
    exact attended_enable h (enable_result hw adapter blocking request o) hleaves
      (scanFrame_enable w adapter blocking request o) ht
  | started hth => exact attended_loopStart h hth ht
  | checked hth hscan => exact attended_loopCheck h hth hscan ht
  | finished discovering stop hth => exact attended_loopFinish h hth discovering stop ht
  | called =>
    exact attended_same h ht
      (sameScans_scan ⟨rfl, rfl⟩ rfl (fun _ hp => Or.inl hp) rfl rfl rfl)
  | fired hl =>
    refine attended_same h ht (sameScans_scan ⟨rfl, rfl⟩ rfl (fun p hp => ?_) rfl rfl rfl)
    rcases List.mem_cons.mp hp with rfl | hp
    · exact Or.inr hl.1
    · exact Or.inl hp
  | timedOut hrun => exact attended_timeout h hleaves (timer_run hrun) ht
  | disabled adapter discovering stop =>
    cases hv : gattlibAdapterIsValid w adapter with
    | false =>
      rw [gattlibAdapterScanDisable, if_pos hv]
      exact h
    | true => exact attended_disable h (live_of_valid hw hv) discovering stop

theorem sameScans_refl (w : World) : SameScans w w :=
  sameScans_scan ⟨rfl, rfl⟩ rfl (fun _ hp => Or.inl hp) rfl rfl rfl

theorem sameScans_device {e : DeviceEvent} (h : WellFormed w) (hs : deviceStep w e = some w') :
    SameScans w w' := by
  have hf := deviceStep_frame h hs
  have hthreads := congrArg World.scanThreads hf.outside
  have hnext := congrArg World.nextThread hf.outside
  have hledger := congrArg World.scanLedger hf.outside
  have hfiring := congrArg World.scanTimersFiring hf.outside
  have hstops := congrArg World.stopRequests hf.outside
  have hlist := congrArg World.adapterList hf.outside
  have hfiring' : w'.scanTimersFiring = w.scanTimersFiring := hfiring
  have hlist' : w'.adapterList = w.adapterList := hlist
  refine ⟨⟨hthreads, hnext⟩, hledger, fun p hp => ?_, hstops, Nat.le_of_eq hf.next.symm,
    fun a _ hm => ⟨?_, deviceFrame_scan hf a, ?_⟩, fun a _ => ?_⟩
  · rw [hfiring'] at hp
    exact Or.inl hp
  · rw [hlist'] at hm
    exact hm
  · rw [callbackOf, deviceFrame_callback hf, callbackOf]
  · rw [deviceFrame_scan hf]

theorem sameScans_counts (h : SameScans w w') (op cl wa le ho dc : Nat → Nat)
    (po : List CString) (nu st : Nat) :
    SameScans w { w' with
      opens := op
      closes := cl
      closeWaiting := wa
      closeLeaving := le
      discoveredHolding := ho
      discoveredCreated := dc
      pendingOpens := po
      nullThreadUses := nu
      staleUnrefs := st } :=
  ⟨⟨h.threads.threads, h.threads.next⟩, h.ledger, h.firing, h.stops, h.next, h.listed, h.timer⟩

theorem sameScans_count (w : World) (a : Nat) {f : Adapter → Adapter}
    (hscan : ∀ ad, (f ad).backend.bleScan = ad.backend.bleScan)
    (hcb : ∀ ad, (f ad).discoveredDeviceCallback = ad.discoveredDeviceCallback) :
    SameScans w (modifyAdapter w a f) := by
  have hscan' : ∀ b, scanOf (modifyAdapter w a f) b = scanOf w b :=
    fun b => scanning_adapter w a b hscan
  have hcb' : ∀ b, callbackOf (modifyAdapter w a f) b = callbackOf w b := by
    intro b
    have hmap : ((modifyAdapter w a f).adapters.cell b).map Adapter.discoveredDeviceCallback =
        (w.adapters.cell b).map Adapter.discoveredDeviceCallback := modify_map w.adapters a b hcb
    rw [callbackOf, discoveredCallbackOf, hmap, callbackOf, discoveredCallbackOf]
  exact ⟨⟨rfl, rfl⟩, rfl, fun p hp => Or.inl hp, rfl, Nat.le_refl _,
    fun b _ hm => ⟨hm, hscan' b, hcb' b⟩, fun b _ => by rw [hscan']⟩

theorem sameScans_free (h : WellFormed w) (a : Nat) : SameScans w (adapterFree w a) := by
  obtain ⟨devices, he⟩ := adapterFree_frame w a
  have hcell : ∀ b, b ≠ a → (adapterFree w a).adapters.cell b = w.adapters.cell b := by
    intro b hb
    rw [adapterFree_cell, if_neg hb]
  have hself : scanOf (adapterFree w a) a = {} := by
    rw [scanOf, adapterFree_cell, if_pos rfl]
    rfl
  refine ⟨?_, ?_, ?_, ?_, ?_, fun b _ hm => ?_, fun b hb => ?_⟩
  · rw [he]
    exact ⟨rfl, rfl⟩
  · rw [he]
  · rw [he]
    exact fun p hp => Or.inl hp
  · rw [he]
  · exact Nat.le_of_eq (congrArg (fun v => v.adapters.next) he).symm
  · rw [adapterFree_list] at hm
    obtain ⟨hne, hm⟩ := (List.Nodup.mem_erase_iff h.nodup).mp hm
    exact ⟨hm, scanOf_of_cell (hcell b hne), callbackOf_of_cell (hcell b hne)⟩
  · by_cases hne : b = a
    · subst b
      rw [hself] at hb
      exact absurd rfl hb
    · rw [scanOf_of_cell (hcell b hne)]

theorem sameScans_unref (h : WellFormed w) (a : Nat) :
    SameScans w (gattlibAdapterUnref w a) := by
  unfold gattlibAdapterUnref
  split
  · exact sameScans_counts (sameScans_refl w) _ _ _ _ _ _ _ _ _
  · split
    · exact sameScans_count w a (fun _ => rfl) (fun _ => rfl)
    · exact sameScans_free h a

theorem sameScans_append (w : World) (name : CString) (proxy : Nat) :
    SameScans w (gattlibAdapterOpenAppend w name proxy) := by
  have hcell : ∀ b, b ≠ w.adapters.next →
      (gattlibAdapterOpenAppend w name proxy).adapters.cell b = w.adapters.cell b :=
    fun b hb => alloc_ne _ _ hb
  have hnew : scanOf (gattlibAdapterOpenAppend w name proxy) w.adapters.next = {} := by
    have hself : (gattlibAdapterOpenAppend w name proxy).adapters.cell w.adapters.next =
        some (newAdapter (adapterObjectPath name) name proxy) := alloc_self _ _
    rw [scanOf, hself]
    rfl
  refine ⟨⟨rfl, rfl⟩, rfl, fun p hp => Or.inl hp, rfl, Nat.le_succ _, fun b hb hm => ?_,
    fun b hb => ?_⟩
  · have hne : b ≠ w.adapters.next := Nat.ne_of_lt hb
    refine ⟨?_, scanOf_of_cell (hcell b hne), callbackOf_of_cell (hcell b hne)⟩
    rcases List.mem_append.mp hm with hm | hm
    · exact hm
    · exact absurd (List.mem_singleton.mp hm) hne
  · by_cases hne : b = w.adapters.next
    · subst b
      rw [hnew] at hb
      exact absurd rfl hb
    · rw [scanOf_of_cell (hcell b hne)]

theorem threaded_effect (h : Threaded w) (he : AdapterEffect w w') : Threaded w' := by
  have hsame := effect_threads he
  refine ⟨systemSound_effect h.sound he, fun t ht => ?_⟩
  rw [hsame.next] at ht
  rw [hsame.threads]
  exact h.fresh t ht

theorem attended_effect (h : Attended w) (he : AdapterEffect w w') : Attended w' := by
  have ht := threaded_effect h.threaded he
  have hw := h.threaded.sound.sound.wellFormed
  cases he with
  | counted op cl wa le ho dc po nu st =>
    exact attended_same h ht (sameScans_counts (sameScans_refl w) op cl wa le ho dc po nu st)
  | referenced a => exact attended_same h ht (sameScans_count w a (fun _ => rfl) (fun _ => rfl))
  | unreferenced a => exact attended_same h ht (sameScans_unref hw a)
  | disabled a discovering stop hv => exact attended_disable h (live_of_valid hw hv) discovering stop

theorem attended_adapterStep (h : Attended w) {e : AdapterEvent}
    (hs : adapterStep w e = some w') : Attended w' := by
  have ht : Threaded w' := step_threaded (e := .adapter e) h.threaded hs
  cases adapterStep_outcome hs with
  | appended name proxy => exact attended_same h ht (sameScans_append w name proxy)
  | effects hs => exact effects_keep h hs attended_effect

theorem attended_step (h : Attended w) (hleaves : LeavesScan w e)
    (hs : systemStep w e = some w') : Attended w' := by
  cases e with
  | device e =>
    exact attended_same h (step_threaded (e := .device e) h.threaded hs)
      (sameScans_device h.threaded.sound.sound.wellFormed hs)
  | scan e => exact attended_scanStep h hleaves hs
  | adapter e => exact attended_adapterStep h hs

theorem started_attended (h : Started w) : Attended w := by
  have ht := started_threaded h
  cases h
  refine ⟨ht, ?_, ?_, ?_, ?_, ?_, ?_⟩
  · rintro t th ⟨hthread, _, _⟩
    cases hthread
  · rintro t u th uh ⟨hthread, _, _⟩
    cases hthread
  · exact fun i hi => absurd hi List.not_mem_nil
  · exact fun a ha => absurd rfl ha
  · exact fun p hp => absurd hp List.not_mem_nil
  · exact fun t th hth => by cases hth

theorem disabled_stopped {discovering : Bool} {stop : Option GError}
    (hd : Disabled w th.adapter discovering stop w') (h : Stopped w th) : Stopped w' th := by
  cases hd with
  | skipped hd => exact h
  | unstarted hs hn =>
    refine ⟨?_, h.2⟩
    rw [requested_stops]
    exact Nat.lt_succ_of_lt h.1
  | stopped hd hs hn =>
    refine ⟨?_, scanStop_callback _ _⟩
    rw [(scanStop_fields _ _).1, requested_stops]
    exact Nat.lt_succ_of_lt h.1

theorem handlers_distinct (h : Tended w th) : [th.changed, th.removed, th.added].Nodup := by
  have hadded := (h.held (.objectAdded, th.added) (by simp [handlersOf])).2.1
  have hremoved := (h.held (.objectRemoved, th.removed) (by simp [handlersOf])).2.1
  have hchanged :=
    (h.held (.interfaceProxyPropertiesChanged, th.changed) (by simp [handlersOf])).2.1
  have hcr : th.changed ≠ th.removed := by
    intro he
    cases (Entry.mk.inj (entry_ext hchanged hremoved he)).2.1
  have hca : th.changed ≠ th.added := by
    intro he
    cases (Entry.mk.inj (entry_ext hchanged hadded he)).2.1
  have hra : th.removed ≠ th.added := by
    intro he
    cases (Entry.mk.inj (entry_ext hremoved hadded he)).2.1
  simp [hcr, hca, hra]

/-- A loop thread that returns on a valid adapter leaves its scan ended. -/
theorem attended_ended (h : Attended w) (hs : systemStep w e = some w') : Ended w e w' := by
  rintro thread discovering stop th rfl hth hv
  obtain ⟨hthread, hpc⟩ := threadAt_iff.mp hth
  have hl := live_of_valid h.threaded.sound.sound.wellFormed hv
  have hl' : Live (disconnectSignals w th.adapter) th.adapter := ⟨hl.valid, hl.cell⟩
  have hne : th.pc ≠ .returned := by
    rw [hpc]
    decide
  have htended := h.tended thread th ⟨hthread, hne, hl.valid⟩
  have hstopped : Stopped (disconnectSignals w th.adapter) th := htended.stopped (Or.inr hpc)
  obtain ⟨uh, huh, rfl⟩ := Option.map_eq_some_iff.mp hs
  rw [hth, Option.some.injEq] at huh
  subst uh
  refine ⟨?_, fun x hx => ?_⟩
  · have hdone := disabled_stopped (disable_disabled hl' discovering stop) hstopped
    unfold scanLoopFinish
    rw [hv, if_neg (by decide)]
    exact hdone
  · have hmem : x.2 ∈ [th.changed, th.removed, th.added] := by
      simp only [handlersOf, List.mem_cons, List.not_mem_nil, or_false] at hx
      rcases hx with rfl | rfl | rfl
      · simp
      · simp
      · simp
    have hnew := List.count_eq_one_of_mem (handlers_distinct htended) hmem
    have hold := List.count_eq_zero_of_not_mem (htended.held x hx).2.2
    have hcount : (th.changed :: th.removed :: th.added :: w.scanLedger.released).count x.2 = 1 := by
      have happend : th.changed :: th.removed :: th.added :: w.scanLedger.released =
          [th.changed, th.removed, th.added] ++ w.scanLedger.released := rfl
      rw [happend, List.count_append, hnew, hold]
    obtain ⟨_, _, hrel⟩ := loopFinish_released hl htended thread discovering stop
    rcases hrel with hrel | ⟨htimer, hrel⟩
    · rw [hrel]
      exact hcount
    · have hother := timer_not_held htended (h.timer _ htimer) x hx
      rw [hrel, List.count_cons_of_ne hother.symm]
      exact hcount

end

/-- Every started scan is fully ended when its loop thread returns, in every run that
leaves the scans to `gattlib_adapter_scan_disable`. -/
theorem scans_end {tr : List (World × SystemEvent × World)} {w : World}
    (h : Run systemStep Started tr w) (hleaves : ∀ x ∈ tr, LeavesScan x.1 x.2.1) :
    ∀ x ∈ tr, Ended x.1 x.2.1 x.2.2 := by
  have hstep : Preserves systemStep LeavesScan Attended :=
    fun _ _ _ ha hl hs => attended_step ha hl hs
  obtain ⟨_, hsteps⟩ := run_steps (fun _ => started_attended) hstep h hleaves
  exact fun x hx => attended_ended (hsteps x hx).1 (hsteps x hx).2

def timedRequest : ScanRequest := { scanRequest with timeout := 10 }

/-- A scan that ends by its timeout. -/
theorem scan_times_out : ¬∀ (tr : List (World × SystemEvent × World)) (w : World),
    Run systemStep Started tr w → ∀ x ∈ tr, Ended x.1 x.2.1 x.2.2 := by
  intro h
  have henable := Run.next (e := .scan (.scanEnable 0 true timedRequest scanAnswer)) opened_run rfl
  have hstart := Run.next (e := .scan (.loopStart 0)) henable rfl
  have hfires := Run.next (e := .scan (.timerFires 4)) hstart rfl
  have htimeout := Run.next (e := .scan (.timeout 4 0)) hfires rfl
  have hcheck := Run.next (e := .scan (.loopCheck 0)) htimeout rfl
  have hrun := Run.next (e := .scan (.loopFinish 0 true none)) hcheck rfl
  have hended := h _ _ hrun _ List.mem_cons_self 0 true none _ rfl rfl rfl
  exact absurd hended.1.1 (by decide)

/-- A scan that is disabled by another thread. -/
theorem scans_end_disabled : ∃ tr w, Run systemStep Started tr w ∧
    (∀ x ∈ tr, Ended x.1 x.2.1 x.2.2) ∧ w.scanLedger.released.length = 4 := by
  have henable := Run.next (e := .scan (.scanEnable 0 true timedRequest scanAnswer)) opened_run rfl
  have hstart := Run.next (e := .scan (.loopStart 0)) henable rfl
  have hdisable := Run.next (e := .scan (.scanDisable 0 true none)) hstart rfl
  have hcheck := Run.next (e := .scan (.loopCheck 0)) hdisable rfl
  have hrun := Run.next (e := .scan (.loopFinish 0 true none)) hcheck rfl
  exact ⟨_, _, hrun, scans_end hrun (by decide), rfl⟩

end Gattlib.ScanEnding
