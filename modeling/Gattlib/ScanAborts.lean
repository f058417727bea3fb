import Gattlib.ScanReturns
import Gattlib.ScannerLifetime

namespace Gattlib.ScanAborts

open Library.Memory Library.Maps Library.Transition Gattlib.State Gattlib.Scanner
open Gattlib.TimedScans Gattlib.ScanContexts Gattlib.ScanReturns
open Gattlib.ScannerLifetime (busy)

/-- The call has stored `m_scanning`, and has not come to its `shutdown`. -/
def running : CallPc → Bool
  | .enabling | .enabled | .failing | .waiting => true
  | _ => false

/-- The scan is on, without a terminal state or the end of its time. -/
structure On (s : Timed) (i : Nat) (c : Call) (k : Nat) : Prop where
  call : s.impl.calls i = some c
  running : running c.pc = true
  context : c.scanData = some k
  state : stateOf s.impl k = .scanning
  inTime : s.expired i = false

/-- `abort` finds `m_scanning` set while the scan is on. -/
def Hits (i : Nat) (x : Timed × TimedEvent × Timed) : Prop :=
  x.2.1 = .step .abortCheck ∧ x.1.impl.scanning = true ∧ ∃ c k, On x.1 i c k

def Aborted (tr : List (Timed × TimedEvent × Timed)) (i : Nat) : Prop := ∃ x ∈ tr, Hits i x

/-- The monitor of the call stores ABORTED. -/
def Writes (i : Nat) (x : Timed × TimedEvent × Timed) : Prop :=
  x.2.1 = .step (.monitor i) ∧ ∃ k, stored x.1.impl k (.monitor i) = some .aborted

def Written (tr : List (Timed × TimedEvent × Timed)) (i : Nat) : Prop := ∃ x ∈ tr, Writes i x

def isAbort : TimedEvent → Bool
  | .step .abortCheck => true
  | _ => false

/-- `abort` has been called since the call of `scan`. -/
def Called (tr : List (Timed × TimedEvent × Timed)) (i : Nat) : Prop :=
  ∃ x ∈ tr, isAbort x.2.1 = true ∧ (x.1.impl.calls i).isSome = true

/-- The wait of the call ends, and has found ABORTED. -/
def EndsAborted (i : Nat) (x : Timed × TimedEvent × Timed) : Prop :=
  ∃ expired c k, x.2.1 = .step (.wait i expired) ∧ x.1.impl.calls i = some c ∧
    c.scanData = some k ∧ stateOf x.1.impl k = .aborted

/-- An abort is for the scan that is on, and only for that. Neither the monitor nor the call is
over before ABORTED has been stored, and no other scan ends so. -/
structure Concerns (tr : List (Timed × TimedEvent × Timed)) (x : Timed × TimedEvent × Timed) :
    Prop where
  written : ∀ i c, Aborted (x :: tr) i → x.2.2.impl.calls i = some c →
    c.monitor = .done ∨ c.pc = .ended → Written (x :: tr) i
  only : ∀ i, EndsAborted i x → Called tr i

/-- Another terminal event of the scan, or its deadline. -/
def decides (s : Timed) (i k : Nat) : TimedEvent → Bool
  | .deadline j => j = i
  | .step (.fail j) => j = i
  | .step (.discovery j adapterNull addr garbage) =>
    (stored s.impl k (.discovery j adapterNull addr garbage)).isSome
  | _ => false

/-- A monitor finds `m_scanning` false only if its own scan has been shut down, nothing else decides
the scan between an abort and the store of the monitor, and no scan begins with an abort of an
earlier one set, or about to be. -/
structure Heeded (tr : List (Timed × TimedEvent × Timed)) (x : Timed × TimedEvent × Timed) :
    Prop where
  polls : ∀ i c k, x.2.1 = .step (.monitor i) → x.1.impl.calls i = some c →
    c.scanData = some k → c.monitor = .polling → x.1.impl.scanning = false →
    x.1.impl.contexts.cell k = none
  undecided : ∀ i c k, Aborted tr i → ¬Written tr i → x.1.impl.calls i = some c →
    c.scanData = some k → decides x.1 i k x.2.1 = false
  clear : ∀ i c, x.2.1 = .step (.check i) → x.1.impl.calls i = some c → c.timeoutSec ≠ 0 →
    x.1.impl.scanning = false → x.1.impl.abort = false ∧ x.1.impl.aborting = 0

/-- The monitor of a scan that has been announced, and its store. -/
structure Watched (tr : List (Timed × TimedEvent × Timed)) (i : Nat) (c : Call) : Prop where
  launched : c.monitor ≠ .absent
  stored : c.monitor = .unlocking ∨ c.monitor = .done → Written tr i

structure Tracked (tr : List (Timed × TimedEvent × Timed)) (s : Timed) : Prop where
  sound : Sound s.impl
  watched : ∀ i c, s.impl.calls i = some c → c.pc = .announcing ∨ running c.pc = true →
    c.scanData.isSome = true → Watched tr i c
  pending : ∀ i, Aborted tr i → ¬Written tr i → ∃ c k, On s i c k
  requested : ∀ i, Aborted tr i → Requested s.impl
  called : ∀ i c, s.impl.calls i = some c → c.pc = .preparing ∨ c.scanData.isSome = true →
    Requested s.impl → Called tr i
  seen : ∀ i c, s.impl.calls i = some c → busy c.monitor = true → Called tr i
  state : ∀ i c k, s.impl.calls i = some c → unclosed c.pc = true → c.scanData = some k →
    stateOf s.impl k = .aborted → Called tr i

section

variable {s t : Timed} {e : TimedEvent} {i j k : Nat} {c c' d : Call}
variable {tr : List (Timed × TimedEvent × Timed)} {x : Timed × TimedEvent × Timed}

theorem aborted_cons : Aborted (x :: tr) i ↔ Hits i x ∨ Aborted tr i := by simp [Aborted]

theorem written_cons : Written (x :: tr) i ↔ Writes i x ∨ Written tr i := by simp [Written]

theorem called_tail (h : Called tr i) : Called (x :: tr) i := by
  obtain ⟨y, hy, hcalled⟩ := h
  exact ⟨y, List.mem_cons_of_mem _ hy, hcalled⟩

theorem running_unclosed {pc : CallPc} (h : running pc = true) : unclosed pc = true := by
  cases pc <;> first | rfl | cases h

theorem watched_tail (h : Watched tr i c) : Watched (x :: tr) i c :=
  ⟨h.launched, fun hm => written_cons.mpr (Or.inr (h.stored hm))⟩

/-- Only its own monitor writes to the context of a scan that is on, if nothing else decides it. -/
theorem on_unwritten {y : ScannerEvent} (h : Sound s.impl) (hon : On s i c k)
    (hdec : decides s i k (.step y) = false) (hw : ¬Writes i (s, .step y, t)) :
    stored s.impl k y = none := by
  cases hnew : stored s.impl k y with
  | none => rfl
  | some new =>
    rcases store_cases h hnew with ⟨j, d, rfl, hd, hk, _, rfl⟩ | ⟨j, _, _, _, rfl, _⟩
    · obtain rfl := h.distinct i j c d k hon.call hd hon.context hk
      exact absurd ⟨rfl, k, hnew⟩ hw
    · rw [decides, hnew] at hdec
      cases hdec

/-- A scan stays on until something decides it, or its monitor writes. -/
theorem on_step {y : ScannerEvent} {u : Impl} (h : Sound s.impl) (hon : On s i c k)
    (hdec : decides s i k (.step y) = false) (hw : ¬Writes i (s, .step y, { s with impl := u }))
    (htime : timely s y = true) (hs : scannerStep s.impl y = some u) :
    ∃ c', On { s with impl := u } i c' k := by
  have hfail : y ≠ .fail i := by
    rintro rfl
    simp [decides] at hdec
  have hfollows := unclosed_follows h hon.call (running_unclosed hon.running) hon.context hfail hs
  have hstate : stateOf u k = .scanning := by
    rw [hfollows.state, on_unwritten h hon hdec hw, Option.getD_none, hon.state]
  obtain ⟨c', hc', hbecomes⟩ := call_becomes h hs hon.call
  have hkeep : c'.scanData = c.scanData → running c'.pc = true → ∃ c', On { s with impl := u } i c' k :=
    fun hdata hr => ⟨c', hc', hr, hdata.trans hon.context, hstate, hon.inTime⟩
  cases hbecomes with
  | same => exact hkeep rfl hon.running
  | watched _ _ _ => exact hkeep rfl hon.running
  | allocated _ hpc _ _ =>
    have hr := hon.running
    rw [hpc] at hr
    cases hr
  | moved hgo =>
    refine hkeep (goes_kept hgo).1 ?_
    have hr := hon.running
    cases hgo with
    | enables _ => rfl
    | waits _ => rfl
    | fails _ _ => rfl
    | failed _ _ => exact absurd rfl hfail
    | decided _ hl hfin =>
      obtain rfl := Option.some.inj (hl.symm.trans hon.context)
      rw [hon.state] at hfin
      cases hfin
    | expired _ _ _ =>
      have hlate : s.expired i = true := by simpa [timely] using htime
      rw [hon.inTime] at hlate
      cases hlate
    | _ => simp_all [running]

/-- The store of a monitor whose context is there. -/
theorem monitor_writes (hc : s.impl.calls i = some c) (hk : c.scanData = some k)
    (hm : c.monitor = .storing) (halive : (s.impl.contexts.cell k).isSome = true) :
    Writes i (s, .step (.monitor i), t) := by
  refine ⟨rfl, k, ?_⟩
  have hstores : stores s.impl (.monitor i) = some (k, .aborted) := by
    rw [stores, hc, Option.bind_some, if_pos hm, hk]
    rfl
  rw [stored, if_pos halive, hstores]
  simp [Option.filter]

/-- The monitor of a scan that has been announced does not stop without its store. -/
theorem watched_step {y : ScannerEvent} {u : Impl} (h : Tracked tr s)
    (hq : Heeded tr (s, .step y, t)) (hs : scannerStep s.impl y = some u)
    (hc' : u.calls i = some c') (hr : c'.pc = .announcing ∨ running c'.pc = true)
    (hsome : c'.scanData.isSome = true) : Watched ((s, .step y, t) :: tr) i c' := by
  rcases call_origin h.sound hs hc' with ⟨c, hc, hbecomes⟩ | ⟨_, hpc, _, _⟩
  · cases hbecomes with
    | same => exact watched_tail (h.watched i _ hc hr hsome)
    | @watched k m hy hk hm =>
      have hbefore := h.watched i c hc hr hsome
      have halive : (s.impl.contexts.cell k).isSome = true := by
        refine h.sound.alive i c k hc ?_ hk
        rcases hr with hpc | hr
        · have hpc : c.pc = .announcing := hpc
          rw [hpc]
          rfl
        · exact running_unclosed hr
      generalize hmon : c.monitor = m' at hm
      cases hm with
      | stays _ => exact ⟨nofun, by simp⟩
      | stops hoff =>
        have hy : (s, TimedEvent.step y, t).2.1 = .step (.monitor i) := by rw [hy]
        rw [hq.polls i c k hy hc hk hmon hoff] at halive
        cases halive
      | aborts _ => exact ⟨nofun, by simp⟩
      | polls _ => exact ⟨nofun, by simp⟩
      | locks => exact ⟨nofun, by simp⟩
      | stores =>
        subst hy
        exact ⟨nofun, fun _ => written_cons.mpr (Or.inl (monitor_writes hc hk hmon halive))⟩
      | unlocks =>
        exact ⟨nofun, fun _ => written_cons.mpr (Or.inr (hbefore.stored (Or.inl hmon)))⟩
    | allocated _ _ _ hpc' =>
      rcases hpc' with ⟨hpc', _⟩ | hpc'
      · simp [hpc', running] at hr
      · simp [hpc', running] at hr
    | moved hgo =>
      have hdata := (goes_kept hgo).1
      have hsome' : c.scanData.isSome = true := hdata ▸ hsome
      cases hgo with
      | launched _ => exact ⟨nofun, by simp⟩
      | announced hpc =>
        obtain ⟨hlaunched, hstored⟩ := watched_tail (h.watched i c hc (Or.inl hpc) hsome')
        exact ⟨hlaunched, hstored⟩
      | enables hpc =>
        obtain ⟨hlaunched, hstored⟩ := watched_tail
          (h.watched i c hc (Or.inr (by rw [hpc, running])) hsome')
        exact ⟨hlaunched, hstored⟩
      | waits hpc =>
        obtain ⟨hlaunched, hstored⟩ := watched_tail
          (h.watched i c hc (Or.inr (by rw [hpc, running])) hsome')
        exact ⟨hlaunched, hstored⟩
      | fails hpc _ =>
        obtain ⟨hlaunched, hstored⟩ := watched_tail
          (h.watched i c hc (Or.inr (by rw [hpc, running])) hsome')
        exact ⟨hlaunched, hstored⟩
      | _ => simp [running] at hr
  · simp [hpc, running] at hr

theorem pending_step {y : ScannerEvent} {u : Impl} (h : Tracked tr s)
    (hq : Heeded tr (s, .step y, { s with impl := u })) (htime : timely s y = true)
    (hs : scannerStep s.impl y = some u)
    (ha : Aborted ((s, .step y, { s with impl := u }) :: tr) i)
    (hw : ¬Written ((s, .step y, { s with impl := u }) :: tr) i) :
    ∃ c k, On { s with impl := u } i c k := by
  rw [written_cons, not_or] at hw
  obtain ⟨hwrites, hw⟩ := hw
  rcases aborted_cons.mp ha with ⟨hy, _, c, k, hon⟩ | ha
  · cases hy
    obtain ⟨c', hon'⟩ := on_step h.sound hon rfl hwrites htime hs
    exact ⟨c', k, hon'⟩
  · obtain ⟨c, k, hon⟩ := h.pending i ha hw
    obtain ⟨c', hon'⟩ := on_step h.sound hon (hq.undecided i c k ha hw hon.call hon.context)
      hwrites htime hs
    exact ⟨c', k, hon'⟩

theorem requested_moved {y : ScannerEvent} {u : Impl} (h : Tracked tr s)
    (hs : scannerStep s.impl y = some u) (ha : Aborted ((s, .step y, t) :: tr) i) : Requested u := by
  have hkept : Requested s.impl → Requested u := by
    intro hr
    rcases requested_step hs with hiff | ⟨_, _, hr⟩
    · exact hiff.mpr hr
    · exact hr
  rcases aborted_cons.mp ha with ⟨hy, hscan, _⟩ | ha
  · cases hy
    have hscan : s.impl.scanning = true := hscan
    rw [scannerStep, if_pos hscan] at hs
    cases hs
    exact Or.inr (Nat.succ_pos _)
  · exact hkept (h.requested i ha)

/-- An abort that a scan finds requested has been called since the call of the scan. -/
theorem called_step {y : ScannerEvent} {u : Impl} (h : Tracked tr s)
    (hq : Heeded tr (s, .step y, t)) (hs : scannerStep s.impl y = some u)
    (hc' : u.calls i = some c') (hpast : c'.pc = .preparing ∨ c'.scanData.isSome = true)
    (hr : Requested u) : Called ((s, .step y, t) :: tr) i := by
  rcases call_origin h.sound hs hc' with ⟨c, hc, hbecomes⟩ | ⟨_, hpc, _, hnone⟩
  · rcases requested_step hs with hiff | ⟨rfl, _, _⟩
    · have hrs := hiff.mp hr
      cases hbecomes with
      | same => exact called_tail (h.called i _ hc hpast hrs)
      | watched _ _ _ => exact called_tail (h.called i c hc hpast hrs)
      | allocated _ hpc _ _ => exact called_tail (h.called i c hc (Or.inl hpc) hrs)
      | moved hgo =>
        have hdata := (goes_kept hgo).1
        rcases hpast with hpc | hsome
        · cases hgo with
          | passed hcheck hscan htimeout =>
            obtain ⟨hoff, hnone⟩ := hq.clear i c rfl hc htimeout hscan
            rcases hrs with hon | hpos
            · rw [hoff] at hon
              cases hon
            · rw [hnone] at hpos
              cases hpos
          | _ => cases hpc
        · exact called_tail (h.called i c hc (Or.inr (hdata ▸ hsome)) hrs)
    · exact ⟨_, List.mem_cons_self, rfl, by rw [hc, Option.isSome_some]⟩
  · simp [hpc, hnone] at hpast

/-- A monitor that has seen an abort has seen one of its own scan. -/
theorem seen_step {y : ScannerEvent} {u : Impl} (h : Tracked tr s)
    (hs : scannerStep s.impl y = some u) (hc' : u.calls i = some c')
    (hbusy : busy c'.monitor = true) : Called ((s, .step y, t) :: tr) i := by
  rcases call_origin h.sound hs hc' with ⟨c, hc, hbecomes⟩ | ⟨_, _, hmon, _⟩
  · cases hbecomes with
    | same => exact called_tail (h.seen i _ hc hbusy)
    | watched _ hk hm =>
      generalize hmon : c.monitor = m' at hm
      cases hm with
      | aborts habort =>
        refine called_tail (h.called i c hc (Or.inr ?_) (Or.inl habort))
        rw [hk]
        rfl
      | locks => exact called_tail (h.seen i c hc (by rw [hmon, busy]))
      | stores => exact called_tail (h.seen i c hc (by rw [hmon, busy]))
      | _ => cases hbusy
    | allocated _ _ hdata _ =>
      rw [hdata] at hbusy
      exact called_tail (h.seen i c hc hbusy)
    | moved hgo =>
      refine called_tail (h.seen i c hc ?_)
      cases hgo with
      | launched _ => cases hbusy
      | _ => exact hbusy
  · rw [hmon] at hbusy
    cases hbusy

/-- The context of a scan that is on has ABORTED in it only if its monitor has stored that. -/
theorem state_aborted {y : ScannerEvent} {u : Impl} (h : Tracked tr s)
    (hs : scannerStep s.impl y = some u) (hc' : u.calls i = some c')
    (hon : unclosed c'.pc = true) (hk : c'.scanData = some k) (hstate : stateOf u k = .aborted) :
    Called ((s, .step y, t) :: tr) i := by
  have hfail : y ≠ .fail i := by
    rintro rfl
    rw [(fail_closes hs hc' hk).2] at hon
    cases hon
  have hfrom : ∀ c, s.impl.calls i = some c → unclosed c.pc = true → c.scanData = some k →
      Called ((s, .step y, t) :: tr) i := by
    intro c hc hon hk
    rw [(unclosed_follows h.sound hc hon hk hfail hs).state] at hstate
    cases hnew : stored s.impl k y with
    | none =>
      rw [hnew] at hstate
      exact called_tail (h.state i c k hc hon hk hstate)
    | some new =>
      rw [hnew, Option.getD_some] at hstate
      rcases store_cases h.sound hnew with ⟨j, d, _, hd, hdk, hm, _⟩ | ⟨_, _, _, _, _, hnew⟩
      · obtain rfl := h.sound.distinct i j c d k hc hd hk hdk
        exact called_tail (h.seen i d hd (by rw [hm, busy]))
      · simp [hstate] at hnew
  rcases call_origin h.sound hs hc' with ⟨c, hc, hbecomes⟩ | ⟨_, hpc, _, _⟩
  · cases hbecomes with
    | same => exact hfrom _ hc hon hk
    | watched _ _ _ => exact hfrom c hc hon hk
    | allocated _ _ hdata hpc' =>
      rcases hpc' with ⟨_, hnew⟩ | hpc'
      · obtain rfl : s.impl.contexts.next = k := by
          rw [hdata] at hk
          exact Option.some.inj hk
        rw [hnew] at hstate
        cases hstate
      · rw [hpc'] at hon
        cases hon
    | moved hgo => exact hfrom c hc (goes_unclosed hgo hon) ((goes_kept hgo).1.symm.trans hk)
  · rw [hpc] at hon
    cases hon

theorem tracked_moved {y : ScannerEvent} {u : Impl} (h : Tracked tr s)
    (hq : Heeded tr (s, .step y, { s with impl := u })) (htime : timely s y = true)
    (hs : scannerStep s.impl y = some u) :
    Tracked ((s, .step y, { s with impl := u }) :: tr) { s with impl := u } where
  sound := sound_step h.sound hs
  watched _ _ := watched_step h hq hs
  pending _ := pending_step h hq htime hs
  requested _ := requested_moved h hs
  called _ _ := called_step h hq hs
  seen _ _ := seen_step h hs
  state _ _ _ := state_aborted h hs

theorem tracked_deadline (h : Tracked tr s) (hq : Heeded tr (s, .deadline j, t))
    (ht : t = { s with expired := Function.update s.expired j true }) :
    Tracked ((s, .deadline j, t) :: tr) t := by
  subst t
  have habort : ∀ i, Aborted ((s, .deadline j, { s with expired := Function.update s.expired j true })
      :: tr) i → Aborted tr i := by
    intro i ha
    rcases aborted_cons.mp ha with ⟨he, _⟩ | ha
    · cases he
    · exact ha
  refine ⟨h.sound, fun i c hc hr hsome => watched_tail (h.watched i c hc hr hsome), fun i ha hw => ?_,
    fun i ha => h.requested i (habort i ha), fun i c hc hpast hr => called_tail (h.called i c hc hpast hr),
    fun i c hc hb => called_tail (h.seen i c hc hb),
    fun i c k hc hon hk hstate => called_tail (h.state i c k hc hon hk hstate)⟩
  have hw : ¬Written tr i := fun hw' => hw (written_cons.mpr (Or.inr hw'))
  obtain ⟨c, k, hon⟩ := h.pending i (habort i ha) hw
  have hji : j ≠ i := by
    simpa [decides] using hq.undecided i c k (habort i ha) hw hon.call hon.context
  refine ⟨c, k, hon.call, hon.running, hon.context, hon.state, ?_⟩
  exact (Function.update_of_ne (Ne.symm hji) ..).trans hon.inTime

theorem tracked_step (h : Tracked tr s) (hq : Heeded tr (s, e, t)) (hs : timedStep s e = some t) :
    Tracked ((s, e, t) :: tr) t := by
  rcases timed_cases hs with ⟨y, u, rfl, htime, hu, rfl⟩ | ⟨j, d, rfl, _, _, ht⟩
  · exact tracked_moved h hq htime hu
  · exact tracked_deadline h hq ht

theorem constructed_tracked (h : TimedScans.Constructed s) : Tracked [] s := by
  cases h
  refine ⟨constructed_sound, ?_, ?_, ?_, ?_, ?_, ?_⟩
  · exact fun _ _ hc => by cases hc
  · simp [Aborted]
  · simp [Aborted]
  · exact fun _ _ hc => by cases hc
  · exact fun _ _ hc => by cases hc
  · exact fun _ _ _ hc => by cases hc

theorem tracked_concerns (h : Tracked tr s) (hq : Heeded tr (s, e, t))
    (hs : timedStep s e = some t) : Concerns tr (s, e, t) := by
  have hnext := tracked_step h hq hs
  refine ⟨fun i c ha hc hover => ?_, fun i hends => ?_⟩
  · by_contra hw
    obtain ⟨c', k, hon⟩ := hnext.pending i ha hw
    obtain rfl := Option.some.inj (hon.call.symm.trans hc)
    rcases hover with hdone | hended
    · have hsome : c'.scanData.isSome = true := by rw [hon.context, Option.isSome_some]
      exact hw ((hnext.watched i c' hc (Or.inr hon.running) hsome).stored (Or.inr hdone))
    · have hr := hon.running
      rw [hended] at hr
      cases hr
  · obtain ⟨expired, c, k, rfl, hc, hk, hstate⟩ := hends
    rcases timed_cases hs with ⟨y, u, hy, _, hs, _⟩ | ⟨_, _, hy, _⟩
    · cases hy
      obtain ⟨d, d', hd, hgo, _⟩ := wait_goes hs
      obtain rfl := Option.some.inj (hd.symm.trans hc)
      refine h.state i d k hc ?_ hk hstate
      cases hgo with
      | decided hpc _ _ => rw [hpc]; rfl
      | expired hpc _ _ => rw [hpc]; rfl
    · cases hy

/-- An abort that has been stored, for a scan that is running. -/
structure Pressing (s : Timed) (i : Nat) (c : Call) (k : Nat) : Prop where
  call : s.impl.calls i = some c
  context : c.scanData = some k
  scanning : s.impl.scanning = true
  abort : s.impl.abort = true
  alive : (s.impl.contexts.cell k).isSome = true

/-- The monitor can get to its store. -/
def GetsWritten (s : Timed) (i : Nat) : Prop :=
  ∃ t u, Continues s t ∧ timedStep t (.step (.monitor i)) = some u ∧
    Writes i (t, .step (.monitor i), u)

theorem getsWritten_after (h : Continues s t) (ht : GetsWritten t i) : GetsWritten s i := by
  obtain ⟨u, v, hu, hs, hw⟩ := ht
  exact ⟨u, v, continues_trans h hu, hs, hw⟩

theorem storing_writes (h : Pressing s i c k) (hm : c.monitor = .storing) : GetsWritten s i := by
  have hs : scannerStep s.impl (.monitor i) = some (setCall (storeState s.impl k .aborted) i
      { c with monitor := .unlocking }) := by
    rw [monitor_enabled h.call h.context, hm]
    rfl
  exact ⟨s, _, continues_refl s, timed_enabled rfl hs, monitor_writes h.call h.context hm h.alive⟩

theorem locking_writes (h : Pressing s i c k) (hm : c.monitor = .locking)
    (hlock : canLock s.impl k = true) : GetsWritten s i := by
  have hs : scannerStep s.impl (.monitor i) = some (setCall (lockContext s.impl k) i
      { c with monitor := .storing }) := by
    rw [monitor_enabled h.call h.context, hm, monitorStep, if_pos hlock]
  have hlocked := lock_same (s := s.impl) k k
  exact getsWritten_after (continues_step rfl hs) (storing_writes (k := k) ⟨Function.update_self ..,
    h.context, h.scanning, h.abort, hlocked.alive.trans h.alive⟩ rfl)

theorem loaded_writes (h : Pressing s i c k) (hm : c.monitor = .loaded)
    (hlock : canLock s.impl k = true) : GetsWritten s i := by
  have hs : scannerStep s.impl (.monitor i) = some (setCall s.impl i
      { c with monitor := .locking }) := by
    rw [monitor_enabled h.call h.context, hm, monitorStep, if_pos h.abort]
  exact getsWritten_after (continues_step rfl hs) (locking_writes (k := k) ⟨Function.update_self ..,
    h.context, h.scanning, h.abort, h.alive⟩ rfl hlock)

theorem polling_writes (h : Pressing s i c k) (hm : c.monitor = .polling)
    (hlock : canLock s.impl k = true) : GetsWritten s i := by
  have hs : scannerStep s.impl (.monitor i) = some (setCall s.impl i
      { c with monitor := .loaded }) := by
    rw [monitor_enabled h.call h.context, hm, monitorStep, if_pos h.scanning]
  exact getsWritten_after (continues_step rfl hs) (loaded_writes (k := k) ⟨Function.update_self ..,
    h.context, h.scanning, h.abort, h.alive⟩ rfl hlock)

/-- A monitor that has not stopped gets to its store, once it has the mutex. -/
theorem pressing_writes (h : Pressing s i c k) (hlaunched : c.monitor ≠ .absent)
    (hstops : ¬(c.monitor = .unlocking ∨ c.monitor = .done))
    (hlock : c.monitor = .storing ∨ canLock s.impl k = true) : GetsWritten s i := by
  cases hm : c.monitor with
  | absent => exact absurd hm hlaunched
  | polling => exact polling_writes h hm (hlock.resolve_left (by rw [hm]; exact nofun))
  | loaded => exact loaded_writes h hm (hlock.resolve_left (by rw [hm]; exact nofun))
  | locking => exact locking_writes h hm (hlock.resolve_left (by rw [hm]; exact nofun))
  | storing => exact storing_writes h hm
  | unlocking => exact absurd (Or.inl hm) hstops
  | done => exact absurd (Or.inr hm) hstops

/-- What an abort has asked for can still be done. -/
theorem aborted_writes (h : Tracked tr s) (ha : Aborted tr i) (hw : ¬Written tr i)
    (hc : s.impl.calls i = some c) (hk : c.scanData = some k) (hscan : s.impl.scanning = true)
    (hlock : c.monitor = .storing ∨ canLock s.impl k = true) : GetsWritten s i := by
  obtain ⟨c', k', hon⟩ := h.pending i ha hw
  obtain rfl := Option.some.inj (hon.call.symm.trans hc)
  obtain rfl := Option.some.inj (hon.context.symm.trans hk)
  have halive := h.sound.alive i c' k' hc (running_unclosed hon.running) hk
  obtain ⟨hlaunched, hstored⟩ := h.watched i c' hc (Or.inr hon.running) (by rw [hk, Option.isSome_some])
  have hstops : ¬(c'.monitor = .unlocking ∨ c'.monitor = .done) := fun hm => hw (hstored hm)
  rcases h.requested i ha with habort | hpos
  · exact pressing_writes ⟨hc, hk, hscan, habort, halive⟩ hlaunched hstops hlock
  · have hs : scannerStep s.impl .abortStore = some { s.impl with
        abort := true, aborting := s.impl.aborting - 1 } := if_pos hpos
    exact getsWritten_after (continues_step rfl hs)
      (pressing_writes ⟨hc, hk, hscan, rfl, halive⟩ hlaunched hstops hlock)

end

/-- An abort reaches the scan that is on, and no other one, as long as no monitor stops before its
scan has been shut down, nothing else decides the scan first, and no abort is left over. -/
theorem abort_concerns {tr : List (Timed × TimedEvent × Timed)} {s : Timed}
    (h : Run timedStep TimedScans.Constructed tr s) (hq : Throughout Heeded tr) :
    Throughout Concerns tr ∧
      ∀ i c k, Aborted tr i → ¬Written tr i → s.impl.calls i = some c → c.scanData = some k →
        s.impl.scanning = true → c.monitor = .storing ∨ canLock s.impl k = true →
        GetsWritten s i := by
  obtain ⟨hconcerns, htracked⟩ := throughout_imp (fun _ => constructed_tracked)
    (fun _ _ _ _ ht hq hs => tracked_step ht hq hs)
    (fun _ _ _ _ ht hq hs => tracked_concerns ht hq hs) h hq
  exact ⟨hconcerns, fun i c k ha hw hc hk hscan hlock => aborted_writes htracked ha hw hc hk hscan hlock⟩

/-- The steps of which the condition asks nothing, however the abort goes. -/
def orderly (x : Timed × TimedEvent × Timed) : Bool :=
  match x.2.1 with
  | .step (.monitor _) => x.1.impl.scanning
  | .step (.check _) => !x.1.impl.abort && x.1.impl.aborting = 0
  | .step (.fail _) => false
  | .step (.discovery ..) => false
  | .deadline _ => false
  | _ => true

theorem orderly_heeded {tr : List (Timed × TimedEvent × Timed)} {x : Timed × TimedEvent × Timed}
    (h : orderly x = true) : Heeded tr x := by
  refine ⟨fun i c k he _ _ _ hscan => ?_, fun i c k _ _ _ _ => ?_, fun i c he _ _ _ => ?_⟩
  · rw [orderly, he] at h
    exact absurd h (by simp [hscan])
  · unfold orderly at h
    split at h <;> simp_all [decides]
  · rw [orderly, he] at h
    simpa using h

/-- The monitor of a scan takes its first step before `m_scanning` is set, and `abort` is called. -/
def lostEvents : List TimedEvent :=
  [.step (.scan 10 none false), .step (.check 0), .step (.prepare 0 .complete),
    .step (.launch 0 true), .step (.monitor 0), .step (.announce 0), .step (.enable 0 true),
    .step (.enabled 0 0)]

/-- A scan, up to its wait. -/
def enabledEvents (i : Nat) : List TimedEvent :=
  [.step (.scan 10 none false), .step (.check i), .step (.prepare i .complete),
    .step (.launch i true), .step (.announce i), .step (.enable i true), .step (.enabled i 0)]

/-- A scan is aborted, and the next one with it. -/
def staleEvents : List TimedEvent :=
  enabledEvents 0 ++ [.step .abortCheck, .step .abortStore] ++ List.replicate 5 (.step (.monitor 0)) ++
    [.step (.wait 0 false)] ++ List.replicate 9 (.step (.shutdown 0 {})) ++ [.step (.leave 0)] ++
    enabledEvents 1 ++ List.replicate 5 (.step (.monitor 1))

/-- What a monitor has to do for its store. -/
def storing (x : Timed × TimedEvent × Timed) : Bool :=
  match x.2.1 with
  | .step e => (stores x.1.impl e).isSome
  | .deadline _ => false

theorem writes_storing {i : Nat} {x : Timed × TimedEvent × Timed} (h : Writes i x) :
    storing x = true := by
  obtain ⟨he, k, hstored⟩ := h
  simp [storing, he, stored_stores hstored]

theorem quiet_unwritten {tr : List (Timed × TimedEvent × Timed)}
    (h : ∀ x ∈ tr, storing x = false) (i : Nat) : ¬Written tr i := by
  rintro ⟨x, hx, hw⟩
  have hstoring := writes_storing hw
  rw [h x hx] at hstoring
  cases hstoring

/-- The monitor is gone when `abort` is called. -/
theorem lost : ∃ tr x s, Run timedStep TimedScans.Constructed (x :: tr) s ∧ x.2.2 = s ∧
    Hits 0 x ∧ (∀ y ∈ x :: tr, storing y = false) ∧
    ∃ c, s.impl.calls 0 = some c ∧ c.monitor = .done := by
  have hstart : Run timedStep TimedScans.Constructed [] {} := .start rfl
  have hexec : exec timedStep {} lostEvents = some ((exec timedStep {} lostEvents).getD {}) :=
    exec_getD rfl {}
  have hissued := (exec_trace hstart hexec).next (e := .step .abortCheck) rfl
  refine ⟨_, _, _, hissued, rfl, ⟨rfl, rfl, _, 0, ⟨rfl, rfl, rfl, rfl, rfl⟩⟩, ?_, _, rfl, rfl⟩
  rw [List.forall_mem_cons]
  exact ⟨rfl, by decide⟩

/-- The flag of the first scan is still set when the second one begins. -/
theorem stale : ∃ tr x s, Run timedStep TimedScans.Constructed (x :: tr) s ∧ EndsAborted 1 x ∧
    ¬Called tr 1 ∧ (s.impl.calls 1).map Call.scanReturnCode = some gattlibUnexpected := by
  have hstart : Run timedStep TimedScans.Constructed [] {} := .start rfl
  have hexec : exec timedStep {} staleEvents = some ((exec timedStep {} staleEvents).getD {}) :=
    exec_getD rfl {}
  have hended := (exec_trace hstart hexec).next (e := .step (.wait 1 false)) rfl
  refine ⟨_, _, _, hended, ⟨false, _, 1, rfl, rfl, rfl, rfl⟩, ?_, rfl⟩
  unfold Called
  decide

/-- An abort that no monitor sees, and a scan that ends with the abort of another one. -/
theorem lost_and_stale :
    (∃ tr s, Run timedStep TimedScans.Constructed tr s ∧ Aborted tr 0 ∧ ¬Written tr 0 ∧
      (s.impl.calls 0).map Call.monitor = some .done ∧ ¬Throughout Concerns tr) ∧
    ∃ tr x s, Run timedStep TimedScans.Constructed (x :: tr) s ∧ EndsAborted 1 x ∧ ¬Called tr 1 ∧
      (s.impl.calls 1).map Call.scanReturnCode = some gattlibUnexpected ∧
      ¬Throughout Concerns (x :: tr) := by
  constructor
  · obtain ⟨tr, x, s, hrun, rfl, hhits, hquiet, c, hc, hdone⟩ := lost
    have haborted : Aborted (x :: tr) 0 := ⟨x, List.mem_cons_self, hhits⟩
    have hunwritten := quiet_unwritten hquiet 0
    refine ⟨_, _, hrun, haborted, hunwritten, by rw [hc, Option.map_some, hdone], fun h => ?_⟩
    exact hunwritten (h.1.written 0 c haborted hc (Or.inl hdone))
  · obtain ⟨tr, x, s, hrun, hends, hcalled, hret⟩ := stale
    exact ⟨tr, x, s, hrun, hends, hcalled, hret, fun h => hcalled (h.1.only 1 hends)⟩

/-- The monitor finds the abort that is for its scan. -/
theorem abort_concerns_reached : ∃ tr s, Run timedStep TimedScans.Constructed tr s ∧ Aborted tr 0 ∧
    (s.impl.calls 0).map Call.scanReturnCode = some gattlibUnexpected ∧ Throughout Concerns tr := by
  have hstart : Run timedStep TimedScans.Constructed [] {} := .start rfl
  have hexec : exec timedStep {} (enabledEvents 0) =
      some ((exec timedStep {} (enabledEvents 0)).getD {}) := exec_getD rfl {}
  have horderly : ∀ x ∈ traceOf timedStep {} (enabledEvents 0) ++ [], orderly x = true := by decide
  have hheeded : Throughout Heeded (traceOf timedStep {} (enabledEvents 0) ++ []) :=
    throughout_all (fun x hx before => orderly_heeded (horderly x hx))
  have hissued := throughout_next ⟨exec_trace hstart hexec, hheeded⟩ (e := .step .abortCheck)
    (orderly_heeded rfl) rfl
  have hset := throughout_next hissued (e := .step .abortStore) (orderly_heeded rfl) rfl
  have hpolled := throughout_next hset (e := .step (.monitor 0)) (orderly_heeded rfl) rfl
  have hloaded := throughout_next hpolled (e := .step (.monitor 0)) (orderly_heeded rfl) rfl
  have hlocked := throughout_next hloaded (e := .step (.monitor 0)) (orderly_heeded rfl) rfl
  have hstored := throughout_next hlocked (e := .step (.monitor 0)) (orderly_heeded rfl) rfl
  have hunlocked := throughout_next hstored (e := .step (.monitor 0)) (orderly_heeded rfl) rfl
  have hended := throughout_next hunlocked (e := .step (.wait 0 false)) (orderly_heeded rfl) rfl
  refine ⟨_, _, hended.1, ?_, rfl, (abort_concerns hended.1 hended.2).1⟩
  exact ⟨_, List.mem_append_right [_, _, _, _, _, _, _] List.mem_cons_self, rfl, rfl, _, 0,
    ⟨rfl, rfl, rfl, rfl, rfl⟩⟩

end Gattlib.ScanAborts
