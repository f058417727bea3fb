import Gattlib.SignalFrames
import Gattlib.Library.Maps

namespace Gattlib.DiscoveryCallbacks

open Library.Maps Library.Memory Library.Resources Library.Transition Gattlib.State
open Gattlib.Registry Gattlib.RegistryFacts Gattlib.Connection Gattlib.Events Gattlib.Scan
open Gattlib.Adapters Gattlib.Frames Gattlib.SystemInvariants Gattlib.ScanFacts
open Gattlib.Discoveries Gattlib.HandlerFrames Gattlib.SignalFrames

/-- Whether the handler of a signal can start a discovered-device thread. -/
def reports (w : World) (adapter : Nat) : Signal → Prop
  | .objectAdded _ => True
  | .objectRemoved _ => False
  | .interfaceProxyPropertiesChanged path device1 advertised =>
      device1 = true ∧ advertised = true ∧ gattlibDeviceGetState w adapter path = .notFound

/-- A scan whose callback is still stored will start no thread that calls it: none waits for
its check, no handler that reports devices is connected, and none is being run. -/
structure Quiet (s : Discovering) (n a : Nat) : Prop where
  started : ∀ i th, s.threads i = some th → th.scan = some n → th.pc ≠ .created
  disconnected : ∀ r, r.owner = a →
    r.kind = .objectAdded ∨ r.kind = .interfaceProxyPropertiesChanged →
      ¬Library.Resources.Live s.world.scanLedger r
  running : ∀ sg, s.running a = some sg → ¬reports s.world a sg

/-- The number of a call that is made for an adapter. -/
def OfScan (s : Discovering) (n a : Nat) : Prop :=
  n < s.calls ∧ ∀ c, s.scans n = some c → c.adapter = a

structure Tracked (s : Discovering) : Prop where
  sound : SystemSound s.world
  scans : ∀ n c, s.scans n = some c → n < s.calls
  stored : ∀ a n, s.stored a = some n → a < s.world.adapters.next ∧ OfScan s n a
  data : ∀ a n c, s.stored a = some n → s.scans n = some c → a ∈ s.world.adapterList →
    (discoveredCallbackOf s.world a).userData = c.userData
  threads : ∀ i th n, s.threads i = some th → th.scan = some n → OfScan s n th.adapter
  calling : ∀ i th h n, s.threads i = some th → th.pc = .calling h (some n) →
    n < s.calls ∧ ∀ c, s.scans n = some c → h.userData = c.userData

section

variable {s t : Discovering} {w w' : World} {a b i n : Nat} {th : DiscoveredThread}

/-- What a step of the library adds to the books. -/
inductive Followed (s : Discovering) (e : SystemEvent) (w : World) : Discovering → Prop
  | scan {a : Nat} {blocking : Bool} {request : ScanRequest} {o : EnableOutcome}
      (he : e = .scan (.scanEnable a blocking request o)) :
      Followed s e w { noteScan s a blocking request o with world := w }
  | thread {a : Nat} {sg : Signal} (he : enables (.library e) = none)
      (hsg : signalOf e = some (a, sg)) (hr : reports s.world a sg) :
      Followed s e w { s with
        world := w
        nextThread := s.nextThread + 1
        threads := Function.update s.threads s.nextThread (some
          { adapter := a, scan := s.stored a }) }
  | same (he : enables (.library e) = none) : Followed s e w { s with world := w }

theorem followed_thread {e : SystemEvent} {sg : Signal} (he : enables (.library e) = none)
    (hsg : signalOf e = some (a, sg))
    (hr : s.world.discoveredCreated a < w.discoveredCreated a → reports s.world a sg) :
    Followed s e w { noteThread s a w with world := w } := by
  unfold noteThread
  split
  · next hless => exact .thread he hsg (hr hless)
  · exact .same he

/-- A change of properties starts a thread for an advertising device that is not known. -/
theorem changed_reports {path : Strings.CString} {device1 advertised : Bool} {o : DiscoverOutcome}
    (hless : w.discoveredCreated a <
      (onInterfaceProxyPropertiesChanged w a path device1 advertised o).discoveredCreated a) :
    reports w a (.interfaceProxyPropertiesChanged path device1 advertised) := by
  have hirrefl := Nat.lt_irrefl (w.discoveredCreated a)
  unfold onInterfaceProxyPropertiesChanged at hless
  split at hless
  · exact absurd hless hirrefl
  · split at hless
    · exact absurd hless hirrefl
    · split at hless
      · next hd =>
        split at hless
        · next hnone =>
          split at hless
          · next hadvertised => exact ⟨(Bool.and_eq_true_iff.mp hd).1, hadvertised, hnone⟩
          · exact absurd hless hirrefl
        · exact absurd hless hirrefl
      · exact absurd hless hirrefl

theorem follow_followed {e : SystemEvent} (hs : systemStep s.world e = some w) :
    Followed s e w (follow s e w) := by
  cases e with
  | device e =>
    cases e with
    | objectAdded adapter path o => exact followed_thread rfl rfl (fun _ => trivial)
    | propertiesChanged adapter path device1 advertised o =>
      refine followed_thread rfl rfl (fun hless => ?_)
      cases hs
      exact changed_reports hless
    | objectRemoved | connect | emit | propertyChange | stopConnect | disconnect
    | connectedThread | connectedReturns | registerOnDisconnect => exact .same rfl
  | scan e =>
    cases e with
    | scanEnable adapter blocking request o => exact .scan rfl
    | loopStart | loopCheck | loopFinish | callerCheck | callerReturn | timerFires | timeout
    | scanDisable => exact .same rfl
  | adapter e => exact .same rfl

/-- What becomes of the handlers in a step of the library. -/
inductive Handled (s : Discovering) (e : SystemEvent) : Discovering → Prop
  | none (he : signalOf e = none) : Handled s e s
  | done {a : Nat} {sg : Signal} (he : signalOf e = some (a, sg)) (hr : s.running a = some sg) :
      Handled s e { s with running := Function.update s.running a none }

theorem handled_handled {e : SystemEvent} {u : Discovering} (hu : handled s e = some u) :
    Handled s e u := by
  unfold handled at hu
  split at hu
  · next he =>
    cases hu
    exact .none he
  · next he =>
    obtain ⟨hr, rfl⟩ := Option.ite_none_right_eq_some.mp hu |>.imp id Option.some.inj
    exact .done he hr

inductive Stepped (s : Discovering) : DiscoveryEvent → Discovering → Prop
  | library {e : SystemEvent} {u : Discovering} {w : World} (hu : Handled s e u)
      (hs : systemStep u.world e = some w) : Stepped s (.library e) (follow u e w)
  | signal {a : Nat} {sg : Signal} (hc : handlerConnected s.world a sg.resource = true) :
      Stepped s (.signal a sg) { s with running := Function.update s.running a (some sg) }
  | check {i : Nat} {th : DiscoveredThread} {w : World} (hth : s.threads i = some th)
      (hpc : th.pc = .created)
      (hs : systemStep s.world (.adapter (.discoveredThread th.adapter)) = some w) :
      Stepped s (.check i) { setThread s i th
        (if passesCheck s.world th.adapter then .checked else .returned) with world := w }
  | call {i : Nat} {th : DiscoveredThread} (hth : s.threads i = some th) (hpc : th.pc = .checked) :
      Stepped s (.call i) (setThread s i th (callDiscoveredDevice s th))
  | finish {i : Nat} {th : DiscoveredThread} {w : World} (hth : s.threads i = some th)
      (hs : systemStep s.world (.adapter (.discoveredReturns th.adapter)) = some w) :
      Stepped s (.finish i) { setThread s i th .returned with world := w }
  | returns {n : Nat} {c : ScanCall} (hc : s.scans n = some c) :
      Stepped s (.returns n)
        { s with scans := Function.update s.scans n (some { c with returned := true }) }

theorem step_stepped {e : DiscoveryEvent} (hs : discoveryStep s e = some t) : Stepped s e t := by
  cases e with
  | library e =>
    simp only [discoveryStep, Option.ite_none_left_eq_some] at hs
    obtain ⟨u, hu, hs⟩ := Option.bind_eq_some_iff.mp hs.2
    obtain ⟨w, hw, rfl⟩ := Option.map_eq_some_iff.mp hs
    exact .library (handled_handled hu) hw
  | signal a sg =>
    obtain ⟨⟨_, hc⟩, hs⟩ := Option.ite_none_right_eq_some.mp hs
    cases hs
    exact .signal hc
  | check i =>
    obtain ⟨th, hth, hs⟩ := Option.bind_eq_some_iff.mp hs
    unfold threadStep at hs
    dsimp only at hs
    split at hs
    · next hpc =>
      obtain ⟨w, hw, rfl⟩ := Option.map_eq_some_iff.mp hs
      exact .check hth hpc hw
    · cases hs
  | call i =>
    obtain ⟨th, hth, hs⟩ := Option.bind_eq_some_iff.mp hs
    unfold threadStep at hs
    dsimp only at hs
    split at hs
    · next hpc =>
      cases hs
      exact .call hth hpc
    · cases hs
  | finish i =>
    obtain ⟨th, hth, hs⟩ := Option.bind_eq_some_iff.mp hs
    unfold threadStep at hs
    dsimp only at hs
    split at hs
    · obtain ⟨w, hw, rfl⟩ := Option.map_eq_some_iff.mp hs
      exact .finish hth hw
    · cases hs
  | returns n =>
    obtain ⟨c, hc, hs⟩ := Option.bind_eq_some_iff.mp hs
    obtain ⟨_, hs⟩ := Option.ite_none_right_eq_some.mp hs
    cases hs
    exact .returns hc

/-! The books are kept -/

/-- The calls of a later state, with the ones there were before among them. -/
structure LaterCalls (s t : Discovering) : Prop where
  calls : s.calls ≤ t.calls
  scans : ∀ n c, n < s.calls → t.scans n = some c →
    ∃ c', s.scans n = some c' ∧ c.adapter = c'.adapter ∧ c.userData = c'.userData

theorem ofScan_later (h : LaterCalls s t) (ho : OfScan s n a) : OfScan t n a := by
  refine ⟨Nat.lt_of_lt_of_le ho.1 h.calls, fun c hc => ?_⟩
  obtain ⟨c', hc', hadapter, _⟩ := h.scans n c ho.1 hc
  exact hadapter.trans (ho.2 c' hc')

theorem handlers_kept (h : SystemSound w) {e : SystemEvent} (he : enables (.library e) = none)
    (hs : systemStep w e = some w') (a : Nat) : HandlerFrame a w w' := by
  apply handlerFrame_step h _ hs
  rw [he]
  exact Option.some_ne_none a |>.symm

theorem tracked_world (h : Tracked s) {e : SystemEvent} (he : enables (.library e) = none)
    (hs : systemStep s.world e = some w) : Tracked { s with world := w } := by
  have hframe := handlers_kept h.sound he hs
  refine ⟨systemStep_sound h.sound hs, h.scans, fun a n hn => ?_, fun a n c hn hc ha => ?_,
    h.threads, h.calling⟩
  · obtain ⟨ha, ho⟩ := h.stored a n hn
    exact ⟨Nat.lt_of_lt_of_le ha (hframe a).next, ho⟩
  · have hlt := (h.stored a n hn).1
    have hold := h.data a n c hn hc ((hframe a).listed hlt ha)
    exact (keptOrReset_userData ((hframe a).handler hlt ha)).trans hold

theorem tracked_thread (h : Tracked s) (hth : s.threads i = some th) {pc : ThreadPc}
    (hpc : ∀ handler n, pc = .calling handler (some n) →
      n < s.calls ∧ ∀ c, s.scans n = some c → handler.userData = c.userData) :
    Tracked (setThread s i th pc) := by
  refine ⟨h.sound, h.scans, h.stored, h.data, fun j uh n hj hn => ?_, fun j uh handler n hj hc => ?_⟩
  · rcases update_some hj with ⟨_, rfl⟩ | ⟨_, hold⟩
    · exact h.threads i th n hth hn
    · exact h.threads j uh n hold hn
  · rcases update_some hj with ⟨_, rfl⟩ | ⟨_, hold⟩
    · exact hpc handler n hc
    · exact h.calling j uh handler n hold hc

theorem tracked_started (h : Tracked s) (a : Nat) :
    Tracked { s with
      nextThread := s.nextThread + 1
      threads := Function.update s.threads s.nextThread (some
        { adapter := a, scan := s.stored a }) } := by
  refine ⟨h.sound, h.scans, h.stored, h.data, fun j uh n hj hn => ?_, fun j uh handler n hj hc => ?_⟩
  · rcases update_some hj with ⟨_, rfl⟩ | ⟨_, hold⟩
    · exact (h.stored a n hn).2
    · exact h.threads j uh n hold hn
  · rcases update_some hj with ⟨_, rfl⟩ | ⟨_, hold⟩
    · cases hc
    · exact h.calling j uh handler n hold hc

theorem noteScan_scans (h : Tracked s) {blocking : Bool} {request : ScanRequest}
    {o : EnableOutcome} {c : ScanCall}
    (hc : (noteScan s a blocking request o).scans n = some c) :
    (n < s.calls ∧ s.scans n = some c) ∨
      (n = s.calls ∧ c.adapter = a ∧ c.userData = request.userData) := by
  have hold : s.scans n = some c → (n < s.calls ∧ s.scans n = some c) ∨
      (n = s.calls ∧ c.adapter = a ∧ c.userData = request.userData) :=
    fun hn => Or.inl ⟨h.scans n c hn, hn⟩
  unfold noteScan at hc
  dsimp only at hc
  split at hc
  · rcases update_some hc with ⟨rfl, rfl⟩ | ⟨_, hn⟩
    · exact Or.inr ⟨rfl, rfl, rfl⟩
    · exact hold hn
  · exact hold hc

theorem noteScan_stored {blocking : Bool} {request : ScanRequest} {o : EnableOutcome}
    (hn : (noteScan s a blocking request o).stored b = some n) :
    (s.stored b = some n ∧ (b = a → stores s.world a request o = false)) ∨
      (b = a ∧ n = s.calls ∧ stores s.world a request o = true) := by
  unfold noteScan at hn
  dsimp only at hn
  split at hn
  · next hs =>
    rcases update_some hn with ⟨rfl, rfl⟩ | ⟨hb, hn⟩
    · exact Or.inr ⟨rfl, rfl, hs⟩
    · exact Or.inl ⟨hn, fun h => absurd h hb⟩
  · next hs => exact Or.inl ⟨hn, fun _ => (Bool.not_eq_true _).mp hs⟩

theorem laterCalls_scan (h : Tracked s) (blocking : Bool) (request : ScanRequest)
    (o : EnableOutcome) : LaterCalls s (noteScan s a blocking request o) := by
  refine ⟨Nat.le_succ _, fun n c hn hc => ?_⟩
  rcases noteScan_scans h hc with ⟨_, hold⟩ | ⟨hnew, _⟩
  · exact ⟨c, hold, rfl, rfl⟩
  · exact absurd hnew (Nat.ne_of_lt hn)

theorem ofScan_new (h : Tracked s) (blocking : Bool) (request : ScanRequest) (o : EnableOutcome) :
    OfScan (noteScan s a blocking request o) s.calls a := by
  refine ⟨Nat.lt_succ_self _, fun c hc => ?_⟩
  rcases noteScan_scans h hc with ⟨hlt, _⟩ | ⟨_, hadapter, _⟩
  · exact absurd hlt (Nat.lt_irrefl _)
  · exact hadapter

theorem enable_other (h : SystemSound w) {blocking : Bool} {request : ScanRequest}
    {o : EnableOutcome} (hb : b ≠ a)
    (hs : systemStep w (.scan (.scanEnable a blocking request o)) = some w') :
    HandlerFrame b w w' := by
  apply handlerFrame_step h _ hs
  intro he
  exact hb (Option.some.inj he).symm

/-- The user data that an adapter holds is that of the call that stored it. -/
theorem scan_data (h : Tracked s) {blocking : Bool} {request : ScanRequest} {o : EnableOutcome}
    (hs : systemStep s.world (.scan (.scanEnable a blocking request o)) = some w)
    {c : ScanCall} (hn : (noteScan s a blocking request o).stored b = some n)
    (hc : (noteScan s a blocking request o).scans n = some c) (hb : b ∈ w.adapterList) :
    (discoveredCallbackOf w b).userData = c.userData := by
  have hw : (gattlibAdapterScanEnableWithFilter s.world a blocking request o).2 = w :=
    Option.some.inj hs
  rcases noteScan_stored hn with ⟨hold, hun⟩ | ⟨rfl, rfl, hst⟩
  · have hlt := (h.stored b n hold).2.1
    rcases noteScan_scans h hc with ⟨_, hcold⟩ | ⟨hnew, _⟩
    · by_cases hba : b = a
      · subst b
        rw [enable_unstored (hun rfl)] at hw
        subst w
        exact h.data a n c hold hcold hb
      · have hframe := enable_other h.sound hba hs
        have ha := (h.stored b n hold).1
        have hdata := h.data b n c hold hcold (hframe.listed ha hb)
        exact (keptOrReset_userData (hframe.handler ha hb)).trans hdata
    · exact absurd hnew (Nat.ne_of_lt hlt)
  · rcases noteScan_scans h hc with ⟨hlt, _⟩ | ⟨_, _, hdata⟩
    · exact absurd hlt (Nat.lt_irrefl _)
    · rw [← hw, enable_stored h.sound.sound.wellFormed hst, hdata]

theorem tracked_scan (h : Tracked s) {blocking : Bool} {request : ScanRequest} {o : EnableOutcome}
    (hs : systemStep s.world (.scan (.scanEnable a blocking request o)) = some w) :
    Tracked { noteScan s a blocking request o with world := w } := by
  have hnew := laterCalls_scan (a := a) h blocking request o
  have hlater : LaterCalls s { noteScan s a blocking request o with world := w } :=
    ⟨hnew.calls, hnew.scans⟩
  have hscan : scanStep s.world (.scanEnable a blocking request o) = some w := hs
  have hnext := (scanStep_frame hscan).next
  refine ⟨systemStep_sound h.sound hs, fun n c hc => ?_, fun b n hn => ?_,
    fun b n c hn hc hb => scan_data h hs hn hc hb, fun i th n hi hn => ?_, fun i th x n hi hx => ?_⟩
  · rcases noteScan_scans h hc with ⟨hlt, _⟩ | ⟨rfl, _⟩
    · exact Nat.lt_succ_of_lt hlt
    · exact Nat.lt_succ_self _
  · have hstored : (noteScan s a blocking request o).stored b = some n := hn
    rcases noteScan_stored hstored with ⟨hold, _⟩ | ⟨rfl, rfl, hst⟩
    · obtain ⟨hb, ho⟩ := h.stored b n hold
      exact ⟨hnext.symm ▸ hb, ofScan_later hlater ho⟩
    · unfold stores at hst
      obtain ⟨ad, had⟩ :=
        (live_of_valid h.sound.sound.wellFormed (Bool.and_eq_true _ _ ▸ hst).1).cell
      exact ⟨hnext.symm ▸ lt_next had, ofScan_new h blocking request o⟩
  · exact ofScan_later hlater (h.threads i th n hi hn)
  · obtain ⟨hlt, hdata⟩ := h.calling i th x n hi hx
    refine ⟨Nat.lt_succ_of_lt hlt, fun c hc => ?_⟩
    obtain ⟨c', hc', _, huser⟩ := hlater.scans n c hlt hc
    exact (hdata c' hc').trans huser.symm

theorem laterCalls_returns {c : ScanCall} (hc : s.scans n = some c) :
    LaterCalls s { s with
      scans := Function.update s.scans n (some { c with returned := true }) } := by
  refine ⟨Nat.le_refl _, fun m d _ hd => ?_⟩
  rcases update_some hd with ⟨rfl, rfl⟩ | ⟨_, hold⟩
  · exact ⟨c, hc, rfl, rfl⟩
  · exact ⟨d, hold, rfl, rfl⟩

theorem tracked_later (h : Tracked s) (hl : LaterCalls s t) (hw : t.world = s.world)
    (hst : t.stored = s.stored) (hth : t.threads = s.threads)
    (hn : ∀ n c, t.scans n = some c → n < s.calls) : Tracked t := by
  obtain ⟨world, calls, stored, scans, nextThread, threads⟩ := t
  cases hw
  cases hst
  cases hth
  refine ⟨h.sound, fun n c hc => Nat.lt_of_lt_of_le (hn n c hc) hl.calls, fun a n ha => ?_,
    fun a n c ha hc hlist => ?_, fun i th n hi hs => ofScan_later hl (h.threads i th n hi hs),
    fun i th x n hi hx => ?_⟩
  · exact ⟨(h.stored a n ha).1, ofScan_later hl (h.stored a n ha).2⟩
  · obtain ⟨c', hc', _, huser⟩ := hl.scans n c (hn n c hc) hc
    exact (h.data a n c' ha hc' hlist).trans huser.symm
  · obtain ⟨hlt, hdata⟩ := h.calling i th x n hi hx
    refine ⟨Nat.lt_of_lt_of_le hlt hl.calls, fun c hc => ?_⟩
    obtain ⟨c', hc', _, huser⟩ := hl.scans n c hlt hc
    exact (hdata c' hc').trans huser.symm

theorem tracked_running (h : Tracked s) (running : Nat → Option Signal) :
    Tracked { s with running := running } :=
  ⟨h.sound, h.scans, h.stored, h.data, h.threads, h.calling⟩

theorem tracked_handled (h : Tracked s) {e : SystemEvent} {u : Discovering} (hu : Handled s e u) :
    Tracked u := by
  cases hu with
  | none he => exact h
  | done he hr => exact tracked_running h _

theorem tracked_follow (h : Tracked s) {e : SystemEvent} (hs : systemStep s.world e = some w) :
    Tracked (follow s e w) := by
  have hf := follow_followed hs
  generalize follow s e w = t at hf ⊢
  cases hf with
  | scan he =>
    subst e
    exact tracked_scan h hs
  | thread he hsg hr => exact tracked_world (tracked_started h _) he hs
  | same he => exact tracked_world h he hs

theorem check_cases (w : World) (a : Nat) :
    (passesCheck w a = true ∧ (if passesCheck w a then ThreadPc.checked else .returned) = .checked) ∨
      (if passesCheck w a then ThreadPc.checked else .returned) = .returned := by
  by_cases hpass : passesCheck w a = true
  · exact Or.inl ⟨hpass, if_pos hpass⟩
  · exact Or.inr (if_neg hpass)

theorem call_cases (s : Discovering) (th : DiscoveredThread) :
    callDiscoveredDevice s th = .lost ∨ ∃ ad, s.world.adapters.cell th.adapter = some ad ∧
      callDiscoveredDevice s th = .calling ad.discoveredDeviceCallback (s.stored th.adapter) := by
  unfold callDiscoveredDevice
  split
  · exact Or.inl rfl
  · next ad had => exact Or.inr ⟨ad, had, rfl⟩

theorem tracked_checked (h : Tracked s) (hth : s.threads i = some th) :
    Tracked (setThread s i th (if passesCheck s.world th.adapter then .checked else .returned)) := by
  apply tracked_thread h hth
  intro handler n hpc
  rcases check_cases s.world th.adapter with ⟨_, hchecked⟩ | hreturned
  · cases hchecked.symm.trans hpc
  · cases hreturned.symm.trans hpc

theorem tracked_step {e : DiscoveryEvent} (h : Tracked s) (hs : discoveryStep s e = some t) :
    Tracked t := by
  have hst := step_stepped hs
  clear hs
  cases hst with
  | library hu hs => exact tracked_follow (tracked_handled h hu) hs
  | signal hconnected => exact tracked_running h _
  | check hth hpc hs =>
    refine tracked_world (tracked_checked h hth) rfl hs
  | call hth hpc =>
    next i th =>
    apply tracked_thread h hth
    intro handler n hcall
    rcases call_cases s th with hlost | ⟨ad, had, hcalls⟩
    · cases hlost.symm.trans hcall
    · obtain ⟨rfl, hn⟩ := ThreadPc.calling.inj (hcalls.symm.trans hcall)
      refine ⟨(h.stored th.adapter n hn).2.1, fun c hc => ?_⟩
      have hlisted := h.sound.listed th.adapter ad had
      have huser := h.data th.adapter n c hn hc hlisted
      rw [discoveredCallbackOf, had] at huser
      exact huser
  | finish hth hs =>
    refine tracked_world (tracked_thread h hth (fun handler n hpc => ?_)) rfl hs
    cases hpc
  | returns hc =>
    refine tracked_later h (laterCalls_returns hc) rfl rfl rfl (fun m d hd => ?_)
    rcases update_some hd with ⟨rfl, _⟩ | ⟨_, hold⟩
    · exact h.scans _ _ hc
    · exact h.scans m d hold

theorem idle_tracked (h : Idle s) : Tracked s := by
  cases h
  refine ⟨started_sound rfl, ?_, ?_, ?_, ?_, ?_⟩
  · exact fun n c hc => by cases hc
  · exact fun a n hn => by cases hn
  · exact fun a n c hn => by cases hn
  · exact fun i th n hi => by cases hi
  · exact fun i th x n hi => by cases hi

theorem reach_tracked {ok : Discovering → DiscoveryEvent → Prop}
    (h : Reach discoveryStep ok Idle s) : Tracked s :=
  reach_invariant Tracked (fun _ => idle_tracked) (fun _ _ _ ht _ hs => tracked_step ht hs) h

/-- The user data a thread has called with is what the scan was called with. -/
theorem calling_userData {ok : Discovering → DiscoveryEvent → Prop}
    (h : Reach discoveryStep ok Idle s) {c : ScanCall} {handler : Handler}
    (hth : s.threads i = some th) (hpc : th.pc = .calling handler (some n))
    (hc : s.scans n = some c) : handler.userData = c.userData :=
  ((reach_tracked h).calling i th handler n hth hpc).2 c hc

/-! A detached scan stays detached until the next one -/

end

def stateAfter (events : List DiscoveryEvent) : Discovering :=
  (exec discoveryStep {} events).getD {}

theorem stateAfter_exec {events : List DiscoveryEvent}
    (h : (exec discoveryStep {} events).isSome = true) :
    exec discoveryStep {} events = some (stateAfter events) :=
  exec_getD h {}

end Gattlib.DiscoveryCallbacks
