import Gattlib.ScanFacts

namespace Gattlib.ScanFinality

open Library.Memory Library.Resources Library.Transition Gattlib.Strings Gattlib.State
open Gattlib.Registry Gattlib.RegistryFacts Gattlib.Connection Gattlib.Events Gattlib.Scan
open Gattlib.Adapters Gattlib.StepOutcomes Gattlib.Frames Gattlib.SystemInvariants Gattlib.ScanFacts

/-- The call of `gattlib_adapter_scan_disable` a step makes: its adapter, the
cached property and the answer to StopDiscovery. -/
def disableCall (w : World) : SystemEvent → Option (Nat × Bool × Option GError)
  | .scan (.scanDisable a discovering stop) => some (a, discovering, stop)
  | .scan (.loopFinish thread discovering stop) =>
      ((threadAt w thread .leaving).filter (fun th => gattlibAdapterIsValid w th.adapter)).map
        (fun th => (th.adapter, discovering, stop))
  | .adapter (.close a discovering stop) =>
      if gattlibAdapterIsValid w a && gattlibDevicesAreDisconnected w a &&
        (scanOf w a).isScanning
      then some (a, discovering, stop) else none
  | _ => none

/-- The calls of a step that return GATTLIB_SUCCESS. -/
def stopped (w : World) (e : SystemEvent) : Option (Nat × Bool × Option GError) :=
  (disableCall w e).filter (fun c =>
    (gattlibAdapterScanDisable w c.1 c.2.1 c.2.2).1 = gattlibSuccess)

def EnablesScan (a : Nat) : SystemEvent → Prop
  | .scan (.scanEnable b _ _ _) => b = a
  | _ => False

/-- The scan is stopped, and stays so until it is enabled again. -/
def Final (a : Nat) (w : World) : Prop :=
  ∀ t, Reach systemStep (fun _ e => ¬EnablesScan a e) (· = w) t → (scanOf t a).isScanning = false

/-- Some loop thread of the adapter has not taken its first step. -/
def startPending (w : World) (a : Nat) : Bool :=
  (List.range w.nextThread).any (fun t => (threadAt w t .created).any (fun th => th.adapter == a))

def hasProxy (w : World) (a : Nat) : Bool :=
  (w.adapters.cell a).any (fun ad => ad.backend.adapterProxy.isSome)

/-- On an adapter with a proxy a call finds no scan, or it finds Discovering set and
StopDiscovery does not answer that nothing was started, and no loop thread is about
to start. -/
def Effective (w : World) (e : SystemEvent) : Prop :=
  ∀ c ∈ disableCall w e, gattlibAdapterIsValid w c.1 = true → hasProxy w c.1 = true →
    ((scanOf w c.1).isScanning = true → c.2.1 = true ∧ noDiscoveryStarted c.2.2 = false) ∧
      startPending w c.1 = false

instance (w : World) (e : SystemEvent) : Decidable (Effective w e) :=
  inferInstanceAs (Decidable (∀ c ∈ disableCall w e, _ → _ → (_ → _ ∧ _) ∧ _))

/-- The numbers of threads that are still to come are not in use. -/
structure Threaded (w : World) : Prop where
  sound : SystemSound w
  fresh : ∀ t, w.nextThread ≤ t → w.scanThreads t = none

section

variable {w w' : World} {a b t : Nat} {th : ScanThread} {e : SystemEvent}
  {r : ScanRequest} {o : EnableOutcome}

theorem startPending_iff (h : Threaded w) :
    startPending w a = true ↔
      ∃ t th, w.scanThreads t = some th ∧ th.pc = .created ∧ th.adapter = a := by
  unfold startPending
  rw [List.any_eq_true]
  constructor
  · rintro ⟨t, _, ht⟩
    cases hth : threadAt w t .created with
    | none =>
      rw [hth] at ht
      cases ht
    | some th =>
      rw [hth] at ht
      obtain ⟨hth, hpc⟩ := threadAt_iff.mp hth
      exact ⟨t, th, hth, hpc, by simpa using ht⟩
  · rintro ⟨t, th, hth, hpc, ha⟩
    refine ⟨t, ?_, ?_⟩
    · rw [List.mem_range]
      by_contra hge
      rw [h.fresh t (by omega)] at hth
      cases hth
    · rw [threadAt_iff.mpr ⟨hth, hpc⟩]
      simpa using ha

theorem step_threaded (h : Threaded w) (hs : systemStep w e = some w') : Threaded w' := by
  refine ⟨systemStep_sound h.sound hs, fun t ht => ?_⟩
  have hc := systemStep_threads h.sound.sound.wellFormed hs
  cases hc with
  | same hc =>
    rw [hc.threads]
    rw [hc.next] at ht
    exact h.fresh t ht
  | @moved _ u th pc _ hu hpc hm hn =>
    rw [hn] at ht
    have hne : t ≠ u := by
      rintro rfl
      rw [h.fresh t ht] at hu
      cases hu
    rw [hm, Function.update_of_ne hne]
    exact h.fresh t ht
  | created hm hn =>
    rw [hn] at ht
    have hne : t ≠ w.nextThread := by omega
    rw [hm, Function.update_of_ne hne]
    exact h.fresh t (by omega)

theorem started_threaded (h : Started w) : Threaded w := by
  refine ⟨started_sound h, fun t _ => ?_⟩
  cases h
  rfl

/-! A step that sets `is_scanning` enables the scan or starts a loop thread. -/

theorem outside_scanning (h : OutsideScans w w') (hs : (scanOf w' b).isScanning = true) :
    (scanOf w b).isScanning = true := by
  obtain hnone | hsame := h.scans b
  · rw [hnone] at hs
    cases hs
  · exact hsame ▸ hs

theorem effect_scanning (h : SystemSound w) (he : AdapterEffect w w')
    (hb : (scanOf w' b).isScanning = true) : (scanOf w b).isScanning = true := by
  obtain hout | ⟨a, discovering, stop, hv, rfl⟩ := effect_outside he
  · exact outside_scanning hout hb
  · have hl := live_of_valid h.sound.wellFormed hv
    exact disabled_scanning (disable_disabled hl discovering stop) b hb

theorem adapterStep_scanning {e : AdapterEvent} (h : SystemSound w)
    (hs : adapterStep w e = some w') (hb : (scanOf w' b).isScanning = true) :
    (scanOf w b).isScanning = true := by
  cases adapterStep_outcome hs with
  | appended name proxy => exact outside_scanning (outside_append w name proxy) hb
  | effects hs =>
    have hback : SystemSound w' ∧ ((scanOf w' b).isScanning = true →
        (scanOf w b).isScanning = true) :=
      effects_related h hs systemSound_effect (fun _ hx => hx)
        (fun hxy hyz hz => hxy (hyz hz)) effect_scanning
    exact hback.2 hb

/-- What sets `is_scanning` of an adapter. -/
def Starts (w : World) (a : Nat) (e : SystemEvent) : Prop :=
  EnablesScan a e ∨
    ∃ t th, e = .scan (.loopStart t) ∧ threadAt w t .created = some th ∧ th.adapter = a

theorem enabled_cell (h : EnableResult w a r o w') (hb : b ≠ a) :
    w'.adapters.cell b = w.adapters.cell b := by
  cases h with
  | unprepared => rfl
  | failed hp he => exact he.cells.cells b hb
  | started hp he => exact he.cells.cells b hb

theorem scanStep_scanning {e : ScanEvent} (h : WellFormed w) (hs : scanStep w e = some w')
    (hb : (scanOf w' b).isScanning = true) :
    (scanOf w b).isScanning = true ∨ Starts w b (.scan e) := by
  cases scanStep_outcome hs with
  | stays | checked | called | fired => exact Or.inl hb
  | enabled adapter blocking request o =>
    by_cases hne : b = adapter
    · exact Or.inr (Or.inl hne.symm)
    · have hcell := enabled_cell (enable_result h adapter blocking request o) hne
      rw [scanOf_of_cell hcell] at hb
      exact Or.inl hb
  | @started thread th hth =>
    by_cases hne : b = th.adapter
    · exact Or.inr (Or.inr ⟨thread, th, rfl, hth, hne.symm⟩)
    · rw [scanOf_of_cell ((loopStart_at w thread th).cells b hne)] at hb
      exact Or.inl hb
  | @finished thread th discovering stop hth =>
    unfold scanLoopFinish at hb
    split at hb
    · exact Or.inl hb
    · next hv =>
      have hl := live_of_valid h ((Bool.not_eq_false _).mp hv)
      have hl' : Live (disconnectSignals w th.adapter) th.adapter := ⟨hl.valid, hl.cell⟩
      have hd := disabled_scanning (disable_disabled hl' discovering stop) b hb
      exact Or.inl hd
  | @timedOut timer adapter _ hrun =>
    simp only [scanTimerRuns, Option.ite_none_right_eq_some, Option.some.injEq] at hrun
    obtain ⟨_, rfl⟩ := hrun
    exact Or.inl (timeout_scanning h adapter b hb)
  | disabled adapter discovering stop =>
    cases hv : gattlibAdapterIsValid w adapter with
    | false =>
      rw [gattlibAdapterScanDisable, hv, if_pos rfl] at hb
      exact Or.inl hb
    | true =>
      have hl := live_of_valid h hv
      exact Or.inl (disabled_scanning (disable_disabled hl discovering stop) b hb)

theorem systemStep_scanning (h : SystemSound w) (hs : systemStep w e = some w')
    (hb : (scanOf w' b).isScanning = true) :
    (scanOf w b).isScanning = true ∨ Starts w b e := by
  cases e with
  | device e =>
    rw [deviceFrame_scan (deviceStep_frame h.sound.wellFormed hs)] at hb
    exact Or.inl hb
  | scan e => exact scanStep_scanning h.sound.wellFormed hs hb
  | adapter e => exact Or.inl (adapterStep_scanning h hs hb)

/-! The scan of an adapter that nothing is about to start. -/

/-- The adapter is not scanning and none of its loop threads is about to start. -/
structure Quiet (a : Nat) (w : World) : Prop where
  sound : SystemSound w
  scanning : (scanOf w a).isScanning = false
  pending : ∀ t th, w.scanThreads t = some th → th.pc = .created → th.adapter ≠ a

theorem quiet_step (a : Nat) :
    Preserves systemStep (fun _ e => ¬EnablesScan a e) (Quiet a) := by
  intro w e w' h he hs
  have hw := h.sound.sound.wellFormed
  refine ⟨systemStep_sound h.sound hs, ?_, fun t th ht hpc => ?_⟩
  · by_contra hscan
    rcases systemStep_scanning h.sound hs ((Bool.not_eq_false _).mp hscan) with
      hold | hstart | ⟨t, th, _, hth, ha⟩
    · rw [h.scanning] at hold
      cases hold
    · exact he hstart
    · obtain ⟨hth, hpc⟩ := threadAt_iff.mp hth
      exact h.pending t th hth hpc ha
  · cases systemStep_threads hw hs with
    | same hc =>
      rw [hc.threads] at ht
      exact h.pending t th ht hpc
    | @moved _ u uh pc _ hu hne hm hn =>
      rw [hm] at ht
      by_cases htu : t = u
      · subst u
        rw [Function.update_self, Option.some.injEq] at ht
        subst th
        exact absurd hpc hne
      · rw [Function.update_of_ne htu] at ht
        exact h.pending t th ht hpc
    | @created b blocking request o _ hm hn =>
      rw [hm] at ht
      by_cases htu : t = w.nextThread
      · subst t
        rw [Function.update_self, Option.some.injEq] at ht
        subst th
        exact he
      · rw [Function.update_of_ne htu] at ht
        exact h.pending t th ht hpc

theorem quiet_final (h : Quiet a w) : Final a w := by
  intro t ht
  have hq : Quiet a t := 
    reach_invariant (Quiet a) (fun _ he => by rw [he]; exact h) (quiet_step a) ht
  exact hq.scanning

/-! The steps that call `gattlib_adapter_scan_disable`. -/

theorem disable_scanning (hl : Live w a) {discovering : Bool} {stop : Option GError}
    (hret : (gattlibAdapterScanDisable w a discovering stop).1 = gattlibSuccess) :
    (scanOf (gattlibAdapterScanDisable w a discovering stop).2 a).isScanning = true ↔
      (scanOf w a).isScanning = true ∧ (discovering = false ∨ noDiscoveryStarted stop = true) := by
  unfold gattlibAdapterScanDisable at hret ⊢
  rw [live_valid hl, if_neg (by decide)] at hret ⊢
  split at hret
  · exact absurd hret (show gattlibNoAdapter ≠ gattlibSuccess by decide)
  · next hp =>
    rw [if_neg hp]
    by_cases hd : discovering = false
    · rw [if_pos hd]
      exact ⟨fun hs => ⟨hs, Or.inl hd⟩, fun hs => hs.1⟩
    · rw [if_neg hd]
      by_cases hs : (scanOf w a).isScanning = false
      · rw [if_pos hs, hs]
        exact ⟨fun hf => absurd hf (by decide), fun hf => absurd hf.1 (by decide)⟩
      · have hs' := (Bool.not_eq_false _).mp hs
        rw [if_neg hs]
        dsimp only
        by_cases hn : noDiscoveryStarted stop = true
        · rw [if_pos hn]
          exact ⟨fun hf => ⟨hf, Or.inr hn⟩, fun hf => hf.1⟩
        · rw [if_neg hn]
          have hstop : scanOf (scanStop (requested w a) a) a = _ :=
            scanStop_scan (live_requested hl)
          have hfalse : (scanOf (scanStop (requested w a) a) a).isScanning = false := by
            rw [hstop]
          constructor
          · intro hf
            rw [show (scanOf (scanStop (requested w a) a) a).isScanning = true from hf] at hfalse
            cases hfalse
          · rintro ⟨_, hf | hf⟩
            · exact absurd hf hd
            · exact absurd hf hn

theorem disable_valid {discovering : Bool} {stop : Option GError}
    (hret : (gattlibAdapterScanDisable w a discovering stop).1 = gattlibSuccess) :
    gattlibAdapterIsValid w a = true := by
  by_contra hv
  rw [gattlibAdapterScanDisable, if_pos ((Bool.not_eq_true _).mp hv)] at hret
  exact absurd hret (show State.gattlibAdapterClose ≠ gattlibSuccess by decide)

theorem disable_ret (w : World) (a : Nat) (discovering : Bool) (stop : Option GError) :
    (gattlibAdapterScanDisable w a discovering stop).1 =
      if gattlibAdapterIsValid w a = false then State.gattlibAdapterClose
      else if (w.adapters.cell a).all (fun ad => ad.backend.adapterProxy.isNone) then
        gattlibNoAdapter
      else gattlibSuccess := by
  unfold gattlibAdapterScanDisable
  split
  · rfl
  · split
    · rfl
    · split
      · rfl
      · split
        · rfl
        · dsimp only
          split
          · rfl
          · rfl

theorem noProxy_iff (w : World) (a : Nat) :
    (w.adapters.cell a).all (fun ad => ad.backend.adapterProxy.isNone) = true ↔
      hasProxy w a = false := by
  unfold hasProxy
  cases w.adapters.cell a with
  | none => simp
  | some ad => simp

theorem stopped_iff (c : Nat × Bool × Option GError) :
    c ∈ stopped w e ↔ c ∈ disableCall w e ∧ gattlibAdapterIsValid w c.1 = true ∧
      hasProxy w c.1 = true := by
  unfold stopped
  rw [Option.mem_def, Option.filter_eq_some_iff, decide_eq_true_iff, disable_ret, Option.mem_def]
  have hclose : State.gattlibAdapterClose ≠ gattlibSuccess := by decide
  have hno : gattlibNoAdapter ≠ gattlibSuccess := by decide
  cases hv : gattlibAdapterIsValid w c.1 with
  | false => simp [hclose]
  | true =>
    cases hp : hasProxy w c.1 with
    | false => simp [(noProxy_iff w c.1).mpr hp, hno]
    | true =>
      have hsome : ¬(w.adapters.cell c.1).all (fun ad => ad.backend.adapterProxy.isNone) = true := by
        rw [noProxy_iff, hp]
        decide
      simp only [Bool.true_eq_false, if_false, if_neg hsome, and_self]

/-- What a step with a successful call does to the scan. -/
structure StoppedStep (w w' : World) (c : Nat × Bool × Option GError) : Prop where
  scanning : (scanOf w' c.1).isScanning = true ↔
    (scanOf w c.1).isScanning = true ∧ (c.2.1 = false ∨ noDiscoveryStarted c.2.2 = true)
  valid : c.1 ∈ w'.adapterList
  created : ∀ t th, th.pc = .created → (w'.scanThreads t = some th ↔ w.scanThreads t = some th)

theorem stoppedStep_disable (h : WellFormed w) {discovering : Bool} {stop : Option GError}
    (hret : (gattlibAdapterScanDisable w a discovering stop).1 = gattlibSuccess) :
    StoppedStep w (gattlibAdapterScanDisable w a discovering stop).2 (a, discovering, stop) := by
  have hl := live_of_valid h (disable_valid hret)
  have hlist := congrArg World.adapterList
    (scanFrame_disable (scanFrame_refl w) a discovering stop).outside
  have hlist : (gattlibAdapterScanDisable w a discovering stop).2.adapterList = w.adapterList :=
    hlist
  refine ⟨disable_scanning hl hret, ?_, fun t th _ => ?_⟩
  · rw [hlist]
    exact hl.valid
  · rw [(disable_threads w a discovering stop).threads]

theorem stopped_step (h : WellFormed w) (hs : systemStep w e = some w')
    {c : Nat × Bool × Option GError} (hc : c ∈ stopped w e) : StoppedStep w w' c := by
  obtain ⟨hc, hret⟩ := Option.filter_eq_some_iff.mp hc
  have hret : (gattlibAdapterScanDisable w c.1 c.2.1 c.2.2).1 = gattlibSuccess := by
    simpa using hret
  cases e with
  | device e => cases hc
  | scan e =>
    cases e with
    | scanDisable a discovering stop =>
      cases hc
      cases hs
      exact stoppedStep_disable h hret
    | loopFinish thread discovering stop =>
      obtain ⟨th, hth, rfl⟩ := Option.map_eq_some_iff.mp hc
      obtain ⟨hth, hv⟩ := Option.filter_eq_some_iff.mp hth
      obtain ⟨hthread, hpc⟩ := threadAt_iff.mp hth
      obtain ⟨uh, huh, rfl⟩ := Option.map_eq_some_iff.mp hs
      rw [hth, Option.some.injEq] at huh
      subst uh
      have hret' : (gattlibAdapterScanDisable (disconnectSignals w th.adapter) th.adapter
          discovering stop).1 = gattlibSuccess := by
        rw [disable_ret] at hret ⊢
        exact hret
      have hw : WellFormed (disconnectSignals w th.adapter) :=
        wellFormed_congr h rfl h.live (fun _ => rfl) rfl
      have hstep := stoppedStep_disable hw hret'
      unfold scanLoopFinish
      rw [hv, if_neg (by decide)]
      refine ⟨hstep.scanning, hstep.valid, fun t uh hu => ?_⟩
      have hsame := (disable_threads (disconnectSignals w th.adapter) th.adapter discovering
        stop).threads
      rw [setScanPc]
      dsimp only
      rw [hsame]
      by_cases ht : t = thread
      · subst t
        rw [Function.update_self]
        constructor
        · intro he
          rw [← Option.some.inj he] at hu
          cases hu
        · intro he
          have he' := he.symm.trans hthread
          rw [← Option.some.inj he', hu] at hpc
          cases hpc
      · rw [Function.update_of_ne ht]
        exact Iff.rfl
    | scanEnable | loopStart | loopCheck | callerCheck | callerReturn | timerFires | timeout =>
      cases hc
  | adapter e =>
    cases e with
    | close a discovering stop =>
      simp only [disableCall, Option.ite_none_right_eq_some, Option.some.injEq,
        Bool.and_eq_true] at hc
      obtain ⟨⟨⟨hv, hd⟩, hscan⟩, rfl⟩ := hc
      cases hs
      have hret' : (gattlibAdapterScanDisable (noteClose w a) a discovering stop).1 =
          gattlibSuccess := by
        rw [disable_ret] at hret ⊢
        exact hret
      have hw : WellFormed (noteClose w a) := wellFormed_congr h rfl h.live (fun _ => rfl) rfl
      have hstep := stoppedStep_disable hw hret'
      unfold gattlibAdapterCloseBegin
      rw [hv, if_neg (by decide), hd, if_neg (by decide), if_pos hscan]
      exact ⟨hstep.scanning, hstep.valid, hstep.created⟩
    | openLookup | openFails | openAppend | closeCheck | closeFinish | discoveredThread
    | discoveredReturns => cases hc

theorem effective_final (h : Threaded w) (hs : systemStep w e = some w') (he : Effective w e)
    {c : Nat × Bool × Option GError} (hc : c ∈ stopped w e) : Final c.1 w' := by
  have hstep := stopped_step h.sound.sound.wellFormed hs hc
  obtain ⟨hcall, hv, hp⟩ := (stopped_iff c).mp hc
  obtain ⟨hscan, hpending⟩ := he c hcall hv hp
  apply quiet_final
  refine ⟨systemStep_sound h.sound hs, ?_, fun t th ht hpc ha => ?_⟩
  · rw [Bool.eq_false_iff, Ne, hstep.scanning]
    rintro ⟨hs', hd | hn⟩
    · rw [(hscan hs').1] at hd
      cases hd
    · rw [(hscan hs').2] at hn
      cases hn
  · have hp : startPending w c.1 = true :=
      (startPending_iff h).mpr ⟨t, th, (hstep.created t th hpc).mp ht, hpc, ha⟩
    rw [hpending] at hp
    cases hp

/-- A loop thread that is created starts, whatever has happened to its scan. -/
theorem pending_starts (hl : Live w a) (ht : w.scanThreads t = some th) (hpc : th.pc = .created)
    (ha : th.adapter = a) :
    ∃ w', systemStep w (.scan (.loopStart t)) = some w' ∧ (scanOf w' a).isScanning = true := by
  refine ⟨scanLoopStart w t th, ?_, ?_⟩
  · have hth := threadAt_iff.mpr ⟨ht, hpc⟩
    simp only [systemStep, scanStep, hth, Option.map_some]
  · subst ha
    have hset := scanOf_modifyScan hl (fun s => { s with isScanning := true })
    have hlive : Live (modifyScan w th.adapter (fun s => { s with isScanning := true }))
        th.adapter := live_modify hl _ _
    unfold scanLoopStart
    rw [live_valid hl, if_neg (by decide)]
    dsimp only
    split
    · have harm := scanOf_modifyScan hlive (fun s => { s with bleScanTimeoutId := w.scanLedger.next })
      have hgoal : (scanOf (modifyScan (modifyScan w th.adapter (fun s =>
          { s with isScanning := true })) th.adapter (fun s =>
          { s with bleScanTimeoutId := w.scanLedger.next })) th.adapter).isScanning = true := by
        rw [harm, hset]
      exact hgoal
    · have hgoal : (scanOf (modifyScan w th.adapter (fun s =>
          { s with isScanning := true })) th.adapter).isScanning = true := by
        rw [hset]
      exact hgoal

theorem final_effective (h : Threaded w) (hs : systemStep w e = some w')
    (hf : ∀ c ∈ stopped w e, Final c.1 w') : Effective w e := by
  intro c hcall hv hp
  have hc := (stopped_iff c).mpr ⟨hcall, hv, hp⟩
  have hstep := stopped_step h.sound.sound.wellFormed hs hc
  have hnow := hf c hc w' (.start rfl)
  refine ⟨fun hscan => ?_, ?_⟩
  · have hnot : ¬(c.2.1 = false ∨ noDiscoveryStarted c.2.2 = true) := by
      intro hor
      rw [hstep.scanning.mpr ⟨hscan, hor⟩] at hnow
      cases hnow
    obtain ⟨hd, hn⟩ := not_or.mp hnot
    exact ⟨(Bool.not_eq_false _).mp hd, (Bool.not_eq_true _).mp hn⟩
  · rw [Bool.eq_false_iff, Ne, startPending_iff h]
    rintro ⟨t, th, ht, hpc, ha⟩
    have hw' := (systemStep_sound h.sound hs).sound.wellFormed
    have hl : Live w' c.1 := ⟨hstep.valid, hw'.live _ hstep.valid⟩
    obtain ⟨u, hu, hscan⟩ := pending_starts hl ((hstep.created t th hpc).mpr ht) hpc ha
    have hlater := hf c hc u
      (.next (e := .scan (.loopStart t)) (.start rfl) (fun he => he) hu)
    rw [hscan] at hlater
    cases hlater

end

theorem threaded_step : Preserves systemStep AnyStep Threaded :=
  fun _ _ _ h _ hs => step_threaded h hs

/-- Stopping a scan is final in a run exactly if every successful call is effective. -/
theorem stop_is_final {tr : List (World × SystemEvent × World)} {w : World}
    (h : Run systemStep Started tr w) :
    (∀ x ∈ tr, ∀ c ∈ stopped x.1 x.2.1, Final c.1 x.2.2) ↔ ∀ x ∈ tr, Effective x.1 x.2.1 := by
  obtain ⟨_, hsteps⟩ := run_steps (fun _ => started_threaded) threaded_step h
    (fun _ _ => trivial)
  constructor
  · intro hf x hx
    exact final_effective (hsteps x hx).1 (hsteps x hx).2 (hf x hx)
  · intro he x hx c hc
    exact effective_final (hsteps x hx).1 (hsteps x hx).2 (he x hx) hc

/-- A non-blocking scan that is disabled before its thread takes its first step. -/
theorem stop_is_undone : ¬∀ (tr : List (World × SystemEvent × World)) (w : World),
    Run systemStep Started tr w → ∀ x ∈ tr, ∀ c ∈ stopped x.1 x.2.1, Final c.1 x.2.2 := by
  intro h
  have henable := Run.next (e := .scan (.scanEnable 0 false scanRequest scanAnswer)) opened_run rfl
  have hrun := Run.next (e := .scan (.scanDisable 0 true none)) henable rfl
  have hfinal := h _ _ hrun _ List.mem_cons_self (0, true, none) rfl
  have hstart := hfinal _ (.next (e := .scan (.loopStart 0)) (.start rfl) (fun he => he) rfl)
  cases hstart

/-- A blocking scan that is disabled after its thread has started. -/
theorem stop_is_final_blocking : ∃ w, Final 0 w ∧ w.stopRequests 0 = 1 := by
  have henable := Run.next (e := .scan (.scanEnable 0 true scanRequest scanAnswer)) opened_run rfl
  have hstart := Run.next (e := .scan (.loopStart 0)) henable rfl
  have hrun := Run.next (e := .scan (.scanDisable 0 true none)) hstart rfl
  have hfinal := (stop_is_final hrun).mpr (by decide)
  exact ⟨_, hfinal _ List.mem_cons_self (0, true, none) rfl, rfl⟩

end Gattlib.ScanFinality
