import Gattlib.ScanReturns

namespace Gattlib.ScanVerdicts

open Library.Memory Library.Maps Library.Transition Gattlib.State Gattlib.Scanner
open Gattlib.TimedScans Gattlib.ScanContexts Gattlib.ScanReturns

/-- A scan with the default callback and an address filter. -/
def Filters (c : Call) : Prop := c.custom = false ∧ c.deviceAddress.isSome = true

/-- The terminal event of a step: a matching device, a null adapter or the monitor's abort. -/
def event (s : Timed) (k : Nat) : TimedEvent → Option ScanState
  | .step e => stored s.impl k e
  | .deadline _ => none

/-- The oldest terminal event for the context `k` that has come before the deadline of the call. -/
def firstEvent (i k : Nat) : List (Timed × TimedEvent × Timed) → Option ScanState
  | [] => none
  | (s, e, _) :: tr =>
    (firstEvent i k tr).or (if s.expired i then none else event s k e)

/-- The code for the first event, or for none. -/
def verdict : Option ScanState → Ret
  | some .succeeded => gattlibSuccess
  | some .aborted => gattlibUnexpected
  | some _ => gattlibDeviceError
  | none => gattlibTimeout

/-- The call whose `wait_for` returns. -/
def waitOf : TimedEvent → Option Nat
  | .step (.wait i _) => some i
  | _ => none

def Waited (tr : List (Timed × TimedEvent × Timed)) (i : Nat) : Prop :=
  ∃ x ∈ tr, waitOf x.2.1 = some i

/-- A call is over with the step. -/
def Ends (i : Nat) (c : Call) (x : Timed × TimedEvent × Timed) : Prop :=
  (∃ d, x.1.impl.calls i = some d ∧ d.pc ≠ .ended) ∧ x.2.2.impl.calls i = some c ∧ c.pc = .ended

/-- A scan that has waited returns the code of the first terminal event. -/
def FirstDecides (tr : List (Timed × TimedEvent × Timed)) (x : Timed × TimedEvent × Timed) : Prop :=
  ∀ i c, Waited (x :: tr) i → Ends i c x → Filters c →
    ∃ k, c.scanData = some k ∧ c.result = some (.returned (verdict (firstEvent i k (x :: tr))))

/-- No terminal state is stored over another one, or after the deadline, before the wait has ended,
and `shutdown` throws no exception. -/
structure Undisputed (tr : List (Timed × TimedEvent × Timed)) (x : Timed × TimedEvent × Timed) :
    Prop where
  same : ∀ i c k new, x.1.impl.calls i = some c → Filters c → pending c.pc = true →
    c.scanData = some k → event x.1 k x.2.1 = some new → finished (stateOf x.1.impl k) = true →
    stateOf x.1.impl k = new
  inTime : ∀ i c k new, x.1.impl.calls i = some c → Filters c → pending c.pc = true →
    c.scanData = some k → event x.1 k x.2.1 = some new → finished (stateOf x.1.impl k) = false →
    x.1.expired i = false
  calm : ∀ i c k p o, Waited tr i → x.1.impl.calls i = some c → Filters c →
    c.pc = .shutdown p k false → x.2.1 = .step (.shutdown i o) → Passes x.1.impl k o p

/-- Before `wait_for` is called. -/
def early : CallPc → Bool
  | .checking | .preparing | .launching | .announcing | .enabling | .enabled => true
  | _ => false

/-- What is left of a call that has waited, without an exception. -/
def closing (c : Call) : Bool :=
  match c.pc with
  | .shutdown _ _ false => true
  | .leaving false => true
  | .ended => c.result = some (.returned c.scanReturnCode)
  | _ => false

/-- A call that has waited returns the code of the first event, which is fixed. -/
structure Closes (tr : List (Timed × TimedEvent × Timed)) (s : Timed) (i : Nat) (c : Call)
    (k : Nat) : Prop where
  context : c.scanData = some k
  on : closing c = true
  code : c.scanReturnCode = verdict (firstEvent i k tr)
  fixed : firstEvent i k tr = none → s.expired i = true

structure Decided (tr : List (Timed × TimedEvent × Timed)) (s : Timed) : Prop where
  sound : Sound s.impl
  fresh : ∀ i k, s.impl.contexts.next ≤ k → firstEvent i k tr = none
  early : ∀ i c, s.impl.calls i = some c → early c.pc = true → s.expired i = false
  coming : ∀ i, s.impl.calls i = none → s.expired i = false
  state : ∀ i c k, s.impl.calls i = some c → Filters c → pending c.pc = true →
    c.scanData = some k → stateOf s.impl k = (firstEvent i k tr).getD .scanning
  first : ∀ i k new, firstEvent i k tr = some new → finished new = true
  waited : ∀ i, Waited tr i → ∃ c, s.impl.calls i = some c ∧
    (Filters c → ∃ k, Closes tr s i c k)

section

variable {s t : Timed} {e : TimedEvent} {i j k : Nat} {c c' d : Call}
variable {tr : List (Timed × TimedEvent × Timed)} {new : ScanState}

theorem first_kept (h : firstEvent i k tr = some new) :
    firstEvent i k ((s, e, t) :: tr) = some new := by
  rw [firstEvent, h, Option.some_or]

theorem first_expired (h : s.expired i = true) :
    firstEvent i k ((s, e, t) :: tr) = firstEvent i k tr := by
  rw [firstEvent, if_pos h, Option.or_none]

theorem first_quiet (h : event s k e = none) :
    firstEvent i k ((s, e, t) :: tr) = firstEvent i k tr := by
  rw [firstEvent, h, ite_self, Option.or_none]

theorem first_new (h : firstEvent i k tr = none) (hexpired : s.expired i = false) :
    firstEvent i k ((s, e, t) :: tr) = event s k e := by
  rw [firstEvent, h, Option.none_or, hexpired, if_neg Bool.false_ne_true]

theorem verdict_some (new : ScanState) : verdict (some new) = returnCodeOf new := by
  cases new <;> rfl

theorem waited_cons {x : Timed × TimedEvent × Timed} :
    Waited (x :: tr) i ↔ waitOf x.2.1 = some i ∨ Waited tr i := by
  simp [Waited]

theorem waitOf_some (h : waitOf e = some i) : ∃ expired, e = .step (.wait i expired) := by
  unfold waitOf at h
  split at h
  · cases h
    exact ⟨_, rfl⟩
  · cases h

theorem event_fresh (hk : s.impl.contexts.next ≤ k) : event s k e = none := by
  cases e with
  | step x =>
    rw [event, stored, s.impl.contexts.fresh k hk]
    rfl
  | deadline i => rfl

theorem event_finished (h : Sound s.impl) (hnew : event s k e = some new) : finished new = true := by
  cases e with
  | step x => exact stored_finished h hnew
  | deadline i => cases hnew

/-- What a call that has waited does in its own step. -/
theorem goes_closing {x : ScannerEvent} (hgo : Goes s.impl i c x c') (hon : closing c = true)
    (hcalm : ∀ k p o, c.pc = .shutdown p k false → x = .shutdown i o → Passes s.impl k o p) :
    closing c' = true ∧ c'.scanReturnCode = c.scanReturnCode := by
  cases hgo with
  | @shuts p q k inCatch o hpc =>
    cases inCatch with
    | true => simp [closing, hpc] at hon
    | false => exact ⟨rfl, rfl⟩
  | left hpc => exact ⟨rfl, rfl⟩
  | raised hpc hthrow => exact absurd (hcalm _ _ _ hpc rfl) hthrow
  | returned hpc _ => exact ⟨by simp [closing], rfl⟩
  | _ => simp_all [closing]

theorem goes_early {x : ScannerEvent} (hgo : Goes s.impl i c x c') (h : early c'.pc = true) :
    early c.pc = true := by
  cases hgo <;> simp_all [early]

/-- The step that ends a wait, with the state it has found. -/
theorem wait_closes {expired : Bool} (h : Decided tr s) (hc : s.impl.calls i = some c)
    (hgo : Goes s.impl i c (.wait i expired) c') (htime : timely s (.wait i expired) = true)
    (ht : t.expired = s.expired) (hf : Filters c') :
    ∃ k, Closes ((s, .step (.wait i expired), t) :: tr) t i c' k := by
  have hsame : ∀ k, firstEvent i k ((s, .step (.wait i expired), t) :: tr) = firstEvent i k tr := by
    intro k
    apply first_quiet
    simp [event, stored, stores]
  obtain ⟨hdata, hcustom, haddress⟩ := goes_kept hgo
  have hfilters : Filters c := by rwa [Filters, ← hcustom, ← haddress]
  cases hgo with
  | @decided k expired hpc hk hfin =>
    have hp : pending c.pc = true := by rw [hpc, pending]
    have hstate := h.state i c k hc hfilters hp hk
    cases hfirst : firstEvent i k tr with
    | none =>
      rw [hstate, hfirst] at hfin
      cases hfin
    | some new =>
      rw [hfirst, Option.getD_some] at hstate
      refine ⟨k, hk, rfl, ?_, fun hnone => ?_⟩
      · rw [hsame, hfirst, verdict_some, ← hstate]
      · rw [hsame, hfirst] at hnone
        cases hnone
  | @expired k hpc hk hfin =>
    have hp : pending c.pc = true := by rw [hpc, pending]
    have hstate := h.state i c k hc hfilters hp hk
    cases hfirst : firstEvent i k tr with
    | none =>
      refine ⟨k, hk, rfl, ?_, fun _ => ?_⟩
      · rw [hsame, hfirst, verdict]
      · rw [ht]
        simpa [timely] using htime
    | some new =>
      rw [hstate, hfirst, Option.getD_some, h.first i k new hfirst] at hfin
      cases hfin

/-- What a call that has waited returns does not change any more. -/
theorem closes_step (h : Closes tr s i c k) (ht : s.expired i = true → t.expired i = true)
    (hdata : c'.scanData = c.scanData) (hon : closing c' = true)
    (hcode : c'.scanReturnCode = c.scanReturnCode) : Closes ((s, e, t) :: tr) t i c' k := by
  cases hfirst : firstEvent i k tr with
  | none =>
    have hexpired := h.fixed hfirst
    refine ⟨hdata.trans h.context, hon, ?_, fun _ => ht hexpired⟩
    rw [hcode, h.code, first_expired hexpired]
  | some new =>
    refine ⟨hdata.trans h.context, hon, ?_, fun hnone => ?_⟩
    · rw [hcode, h.code, hfirst, first_kept hfirst]
    · rw [first_kept hfirst] at hnone
      cases hnone

/-- The state of a scan that is on is its first event. -/
theorem state_step (h : Decided tr s) {x : ScannerEvent} {u : Impl}
    (hq : Undisputed tr (s, .step x, t)) (hs : scannerStep s.impl x = some u)
    (hc : s.impl.calls i = some c) (hf : Filters c) (hp : pending c.pc = true)
    (hk : c.scanData = some k) :
    stateOf u k = (firstEvent i k ((s, .step x, t) :: tr)).getD .scanning := by
  have hstate := h.state i c k hc hf hp hk
  rw [(pending_follows h.sound hc hp hk hs).state]
  cases hnew : stored s.impl k x with
  | none =>
    have hquiet : event s k (.step x) = none := hnew
    rw [first_quiet hquiet, Option.getD_none, hstate]
  | some new =>
    have hevent : event s k (.step x) = some new := hnew
    rw [Option.getD_some]
    cases hfirst : firstEvent i k tr with
    | none =>
      have hfin : finished (stateOf s.impl k) = false := by
        rw [hstate, hfirst]
        rfl
      rw [first_new hfirst (hq.inTime i c k new hc hf hp hk hevent hfin), hevent, Option.getD_some]
    | some old =>
      have hold : stateOf s.impl k = old := by rw [hstate, hfirst, Option.getD_some]
      have hfin : finished (stateOf s.impl k) = true := by
        rw [hold]
        exact h.first i k old hfirst
      rw [first_kept hfirst, Option.getD_some, ← hold, hq.same i c k new hc hf hp hk hevent hfin]

theorem first_step (h : Decided tr s) (hnew : firstEvent i k ((s, e, t) :: tr) = some new) :
    finished new = true := by
  cases hfirst : firstEvent i k tr with
  | some old =>
    rw [first_kept hfirst] at hnew
    obtain rfl := Option.some.inj hnew
    exact h.first i k old hfirst
  | none =>
    cases hexpired : s.expired i with
    | true =>
      rw [first_expired hexpired, hfirst] at hnew
      cases hnew
    | false =>
      rw [first_new hfirst hexpired] at hnew
      exact event_finished h.sound hnew

theorem fresh_step (h : Decided tr s) (hk : s.impl.contexts.next ≤ k) :
    firstEvent i k ((s, e, t) :: tr) = none := by
  rw [first_quiet (event_fresh hk), h.fresh i k hk]

/-- The time of a call is up. -/
theorem decided_deadline (h : Decided tr s) (hc : s.impl.calls j = some d) (hpc : d.pc = .waiting)
    (ht : t = { s with expired := Function.update s.expired j true }) :
    Decided ((s, .deadline j, t) :: tr) t := by
  subst t
  have hother : ∀ i, i ≠ j → Function.update s.expired j true i = s.expired i :=
    fun i hij => Function.update_of_ne hij ..
  have hlate : ∀ i, s.expired i = true → Function.update s.expired j true i = true := by
    intro i hi
    by_cases hij : i = j
    · rw [hij, Function.update_self]
    · rw [hother i hij, hi]
  refine ⟨h.sound, fun i k => fresh_step h, fun i c hi he => ?_, fun i hi => ?_, fun i c k hi hf hp hk => ?_,
    fun i k new => first_step h, fun i hw => ?_⟩
  · have hij : i ≠ j := by
      rintro rfl
      obtain rfl := Option.some.inj (hc.symm.trans hi)
      rw [hpc] at he
      cases he
    exact (hother i hij).trans (h.early i c hi he)
  · have hij : i ≠ j := by
      rintro rfl
      rw [hc] at hi
      cases hi
    exact (hother i hij).trans (h.coming i hi)
  · rw [first_quiet rfl]
    exact h.state i c k hi hf hp hk
  · have hw : Waited tr i := by simpa [Waited, waitOf] using hw
    obtain ⟨c, hi, hcloses⟩ := h.waited i hw
    refine ⟨c, hi, fun hf => ?_⟩
    obtain ⟨k, hk⟩ := hcloses hf
    exact ⟨k, closes_step hk (hlate i) rfl hk.on rfl⟩

theorem decided_moved {x : ScannerEvent} {u : Impl} (h : Decided tr s)
    (hq : Undisputed tr (s, .step x, t)) (htime : timely s x = true)
    (hs : scannerStep s.impl x = some u) (ht : t = { s with impl := u }) :
    Decided ((s, .step x, t) :: tr) t := by
  subst t
  refine ⟨sound_step h.sound hs, fun i k hk => fresh_step h (Nat.le_trans (next_le hs) hk),
    fun i c hi he => ?_, fun i hi => ?_, fun i c k hi hf hp hk => ?_, fun i k new => first_step h,
    fun i hw => ?_⟩
  · rcases call_origin h.sound hs hi with ⟨d, hd, hbecomes⟩ | ⟨hnone, _⟩
    · apply h.early i d hd
      cases hbecomes with
      | same => exact he
      | watched _ _ _ => exact he
      | allocated _ hpc _ _ => rw [hpc, early]
      | moved hgo => exact goes_early hgo he
    · exact h.coming i hnone
  · apply h.coming
    by_contra hsome
    obtain ⟨d, hd⟩ := Option.ne_none_iff_exists'.mp hsome
    obtain ⟨c', hc', _⟩ := call_becomes h.sound hs hd
    have hi : u.calls i = none := hi
    rw [hc'] at hi
    cases hi
  · rcases pending_back h.sound hs hi hp hk with ⟨d, hd, hpd, hkd, hcustom, haddress⟩ | ⟨rfl, _, hnew⟩
    · have hf : Filters d := by rwa [Filters, hcustom, haddress]
      exact state_step h hq hs hd hf hpd hkd
    · rw [fresh_step h (Nat.le_refl _), Option.getD_none]
      exact hnew
  · rcases waited_cons.mp hw with hx | hw
    · obtain ⟨expired, hx⟩ := waitOf_some hx
      cases hx
      obtain ⟨c, c', hc, hgo, hc'⟩ := wait_goes hs
      exact ⟨c', hc', wait_closes h hc hgo htime rfl⟩
    · obtain ⟨d, hd, hcloses⟩ := h.waited i hw
      obtain ⟨c, hc, hbecomes⟩ := call_becomes h.sound hs hd
      refine ⟨c, hc, fun hf => ?_⟩
      cases hbecomes with
      | same =>
        obtain ⟨k, hk⟩ := hcloses hf
        exact ⟨k, closes_step hk id rfl hk.on rfl⟩
      | watched _ _ _ =>
        obtain ⟨k, hk⟩ := hcloses hf
        exact ⟨k, closes_step hk id rfl hk.on rfl⟩
      | allocated _ hpc hc' _ =>
        rw [hc'] at hf
        obtain ⟨k, hk⟩ := hcloses hf
        have hon := hk.on
        rw [closing, hpc] at hon
        cases hon
      | moved hgo =>
        obtain ⟨hdata, hcustom, haddress⟩ := goes_kept hgo
        have hfd : Filters d := by rwa [Filters, ← hcustom, ← haddress]
        obtain ⟨k, hk⟩ := hcloses hfd
        obtain ⟨hon, hcode⟩ := goes_closing hgo hk.on
          (fun k p o hpc hx => hq.calm i d k p o hw hd hfd hpc (by rw [hx]))
        exact ⟨k, closes_step hk id hdata hon hcode⟩

theorem decided_step (h : Decided tr s) (hq : Undisputed tr (s, e, t))
    (hs : timedStep s e = some t) : Decided ((s, e, t) :: tr) t := by
  rcases timed_cases hs with ⟨x, u, rfl, htime, hs, ht⟩ | ⟨j, d, rfl, hd, hpc, ht⟩
  · exact decided_moved h hq htime hs ht
  · exact decided_deadline h hd hpc ht

theorem constructed_decided (h : TimedScans.Constructed s) : Decided [] s := by
  cases h
  refine ⟨constructed_sound, fun _ _ _ => rfl, ?_, fun _ _ => rfl, ?_, ?_, ?_⟩
  · exact fun _ _ hc => by cases hc
  · exact fun _ _ _ hc => by cases hc
  · exact fun _ _ _ hnew => by cases hnew
  · simp [Waited]

/-- Nothing is asked of a step without a terminal event, outside `shutdown`. -/
theorem quiet_undisputed (hquiet : ∀ k, event s k e = none)
    (hshut : ∀ i o, e ≠ .step (.shutdown i o)) : Undisputed tr (s, e, t) := by
  refine ⟨fun i c k new _ _ _ _ hnew => ?_, fun i c k new _ _ _ _ hnew => ?_,
    fun i c k p o _ _ _ _ he => absurd he (hshut i o)⟩
  · have hnew : event s k e = some new := hnew
    rw [hquiet k] at hnew
    cases hnew
  · have hnew : event s k e = some new := hnew
    rw [hquiet k] at hnew
    cases hnew

theorem stored_none {x : ScannerEvent} (h : stores s.impl x = none) : event s k (.step x) = none := by
  simp [event, stored, h]

/-- A terminal event for a scan that has had none. -/
theorem store_undisputed {x : ScannerEvent} {l : Nat} {old : ScanState}
    (hstores : stores s.impl x = some (l, old)) (hfirst : finished (stateOf s.impl l) = false)
    (htime : ∀ i, s.expired i = false) (hshut : ∀ i o, x ≠ .shutdown i o) :
    Undisputed tr (s, .step x, t) := by
  refine ⟨fun i c k new _ _ _ _ hnew hfin => ?_, fun i _ _ _ _ _ _ _ _ _ => htime i,
    fun i c k p o _ _ _ _ he => ?_⟩
  · have hnew : stored s.impl k x = some new := hnew
    have hfin : finished (stateOf s.impl k) = true := hfin
    rw [stored_stores hnew] at hstores
    cases hstores
    rw [hfirst] at hfin
    cases hfin
  · cases he
    exact absurd rfl (hshut i o)

theorem shutdown_undisputed {o : ShutdownOutcome}
    (hcalm : ∀ c k p, s.impl.calls i = some c → c.pc = .shutdown p k false → Passes s.impl k o p) :
    Undisputed tr (s, .step (.shutdown i o), t) := by
  refine ⟨fun _ _ k _ _ _ _ _ hnew => ?_, fun _ _ k _ _ _ _ _ hnew => ?_,
    fun j c k p o' _ hc _ hpc he => ?_⟩
  · have hnew : event s k (.step (.shutdown i o)) = some _ := hnew
    rw [stored_none rfl] at hnew
    cases hnew
  · have hnew : event s k (.step (.shutdown i o)) = some _ := hnew
    rw [stored_none rfl] at hnew
    cases hnew
  · cases he
    exact hcalm c k p hc hpc

/-- The step that ends a call which has waited. -/
theorem decided_ends (h : Decided tr s) (hq : Undisputed tr (s, e, t))
    (hs : timedStep s e = some t) : FirstDecides tr (s, e, t) := by
  intro i c hw ⟨_, hc, hend⟩ hf
  obtain ⟨c', hc', hcloses⟩ := (decided_step h hq hs).waited i hw
  obtain rfl := Option.some.inj (hc'.symm.trans hc)
  obtain ⟨k, hk⟩ := hcloses hf
  have hresult : c'.result = some (.returned c'.scanReturnCode) := by
    simpa [closing, hend] using hk.on
  exact ⟨k, hk.context, by rw [hresult, hk.code]⟩

/-- The wait of a scan finds its first event. -/
theorem decided_found (h : Decided tr s) (hc : s.impl.calls i = some c) (hf : Filters c)
    (hp : pending c.pc = true) (hk : c.scanData = some k) :
    found s.impl k = verdict (firstEvent i k tr) ∧ stateOf s.impl k ≠ .shuttingDown := by
  have hstate := h.state i c k hc hf hp hk
  cases hfirst : firstEvent i k tr with
  | none =>
    rw [hfirst, Option.getD_none] at hstate
    rw [found, hstate]
    exact ⟨rfl, by simp⟩
  | some new =>
    have hfin := h.first i k new hfirst
    rw [hfirst, Option.getD_some] at hstate
    rw [found, hstate, if_pos hfin, verdict_some]
    refine ⟨rfl, fun hshut => ?_⟩
    rw [hshut] at hfin
    cases hfin

end

/-- The first terminal event decides every scan with a filter that has waited, as long as no
terminal state is stored over another one, or after the deadline, and `shutdown` gets through.
A scan that waits does return, once the mutexes are free. -/
theorem first_decides {tr : List (Timed × TimedEvent × Timed)} {s : Timed}
    (h : Run timedStep TimedScans.Constructed tr s) (hq : Throughout Undisputed tr) :
    Throughout FirstDecides tr ∧
      ∀ i c k, s.impl.calls i = some c → Filters c → c.pc = .waiting → c.scanData = some k →
        Free s.impl k → ∃ t d, Continues s t ∧ t.impl.calls i = some d ∧ d.pc = .ended ∧
          d.result = some (.returned (verdict (firstEvent i k tr))) := by
  obtain ⟨hdecides, hd⟩ := throughout_imp (fun _ => constructed_decided)
    (fun _ _ _ _ hd hq hs => decided_step hd hq hs)
    (fun _ _ _ _ hd hq hs => decided_ends hd hq hs) h hq
  refine ⟨hdecides, fun i c k hc hf hpc hk hfree => ?_⟩
  have hp : pending c.pc = true := by rw [hpc, pending]
  obtain ⟨hfound, hstate⟩ := decided_found hd hc hf hp hk
  rw [← hfound]
  exact waiting_returns hc hpc hk hfree hstate (hd.sound.alive i c k hc (pending_unclosed hp) hk)

def address : Strings.CString := ⟨[65], by decide⟩

/-- A scan for the address, up to its wait. -/
def waitingEvents : List TimedEvent :=
  [.step (.scan 10 (some address) false), .step (.check 0), .step (.prepare 0 .complete),
    .step (.launch 0 true), .step (.announce 0), .step (.enable 0 true), .step (.enabled 0 0)]

/-- The device is found, and the monitor stores ABORTED before the waiting thread is back. -/
def overwrittenEvents : List TimedEvent :=
  waitingEvents ++ [.step (.monitor 0), .step .abortCheck, .step .abortStore, .step .discover] ++
    List.replicate 5 (.step (.discovery 0 false address false)) ++
    List.replicate 4 (.step (.monitor 0)) ++ [.step (.wait 0 false)] ++
    List.replicate 9 (.step (.shutdown 0 {}))

/-- A scan that has found its device returns GATTLIB_UNEXPECTED. -/
theorem overwritten : ∃ tr s, Run timedStep TimedScans.Constructed tr s ∧
    firstEvent 0 0 tr = some .succeeded ∧
    (s.impl.calls 0).bind Call.result = some (.returned gattlibUnexpected) ∧
    ¬Throughout FirstDecides tr := by
  have hstart : Run timedStep TimedScans.Constructed [] {} := .start rfl
  have hexec : exec timedStep {} overwrittenEvents =
      some ((exec timedStep {} overwrittenEvents).getD {}) := exec_getD rfl {}
  have hrun := exec_trace hstart hexec
  have hended := hrun.next (e := .step (.leave 0)) rfl
  refine ⟨_, _, hended, rfl, rfl, fun h => ?_⟩
  have hwaited : Waited (traceOf timedStep {} overwrittenEvents ++ []) 0 := by
    unfold Waited
    decide
  obtain ⟨k, hk, hresult⟩ := h.1 0 _ (waited_cons.mpr (Or.inr hwaited))
    ⟨⟨_, rfl, by decide⟩, rfl, rfl⟩ ⟨rfl, rfl⟩
  cases hk
  cases hresult

/-- The matching device is the only terminal event. -/
theorem first_decides_matched : ∃ tr s, Run timedStep TimedScans.Constructed tr s ∧
    (s.impl.calls 0).bind Call.result = some (.returned gattlibSuccess) ∧
    Throughout FirstDecides tr := by
  have hstart : Run timedStep TimedScans.Constructed [] {} := .start rfl
  have hexec : exec timedStep {} waitingEvents =
      some ((exec timedStep {} waitingEvents).getD {}) := exec_getD rfl {}
  obtain ⟨tr, hrun, hevents⟩ := exec_run_from hstart hexec
  have hlist : ∀ e ∈ waitingEvents, (∀ s k, event s k e = none) ∧ ∀ i o, e ≠ .step (.shutdown i o) := by
    simp [waitingEvents, event, stored, stores]
  have hquiet : Throughout Undisputed (tr ++ []) := by
    refine throughout_all (fun x hx before => ?_)
    have hx : x.2.1 ∈ waitingEvents := by
      rw [← hevents, List.mem_reverse]
      exact List.mem_map_of_mem (List.append_nil tr ▸ hx)
    obtain ⟨hnone, hshut⟩ := hlist _ hx
    exact quiet_undisputed (hnone x.1) hshut
  have hdiscover := throughout_next ⟨hrun, hquiet⟩ (e := .step .discover)
    (quiet_undisputed (fun _ => stored_none rfl) (fun _ _ he => by cases he)) rfl
  have hchecked := throughout_next hdiscover (e := .step (.discovery 0 false address false))
    (quiet_undisputed (fun _ => stored_none rfl) (fun _ _ he => by cases he)) rfl
  have hcalled := throughout_next hchecked (e := .step (.discovery 0 false address false))
    (quiet_undisputed (fun _ => stored_none rfl) (fun _ _ he => by cases he)) rfl
  have hlocked := throughout_next hcalled (e := .step (.discovery 0 false address false))
    (quiet_undisputed (fun _ => stored_none rfl) (fun _ _ he => by cases he)) rfl
  have hstored := throughout_next hlocked (e := .step (.discovery 0 false address false))
    (store_undisputed rfl rfl (fun _ => rfl) (fun _ _ he => by cases he)) rfl
  have hunlocked := throughout_next hstored (e := .step (.discovery 0 false address false))
    (quiet_undisputed (fun _ => stored_none rfl) (fun _ _ he => by cases he)) rfl
  have hwaited := throughout_next hunlocked (e := .step (.wait 0 false))
    (quiet_undisputed (fun _ => stored_none rfl) (fun _ _ he => by cases he)) rfl
  have hlooked := throughout_next hwaited (e := .step (.shutdown 0 {}))
    (shutdown_undisputed (fun c k p hc hpc => by cases hc; cases hpc; trivial)) rfl
  have hmutex := throughout_next hlooked (e := .step (.shutdown 0 {}))
    (shutdown_undisputed (fun c k p hc hpc => by cases hc; cases hpc; trivial)) rfl
  have hmarked := throughout_next hmutex (e := .step (.shutdown 0 {}))
    (shutdown_undisputed (fun c k p hc hpc => by cases hc; cases hpc; trivial)) rfl
  have htested := throughout_next hmarked (e := .step (.shutdown 0 {}))
    (shutdown_undisputed (fun c k p hc hpc => by cases hc; cases hpc; rfl)) rfl
  have hdisabled := throughout_next htested (e := .step (.shutdown 0 {}))
    (shutdown_undisputed (fun c k p hc hpc => by cases hc; cases hpc; trivial)) rfl
  have hstopped := throughout_next hdisabled (e := .step (.shutdown 0 {}))
    (shutdown_undisputed (fun c k p hc hpc => by cases hc; cases hpc; rfl)) rfl
  have hcleaned := throughout_next hstopped (e := .step (.shutdown 0 {}))
    (shutdown_undisputed (fun c k p hc hpc => by cases hc; cases hpc; rfl)) rfl
  have hdeleted := throughout_next hcleaned (e := .step (.shutdown 0 {}))
    (shutdown_undisputed (fun c k p hc hpc => by cases hc; cases hpc; trivial)) rfl
  have hcleared := throughout_next hdeleted (e := .step (.shutdown 0 {}))
    (shutdown_undisputed (fun c k p hc hpc => by cases hc; cases hpc; trivial)) rfl
  have hpolled := throughout_next hcleared (e := .step (.monitor 0))
    (quiet_undisputed (fun _ => stored_none rfl) (fun _ _ he => by cases he)) rfl
  have hended := throughout_next hpolled (e := .step (.leave 0))
    (quiet_undisputed (fun _ => stored_none rfl) (fun _ _ he => by cases he)) rfl
  exact ⟨_, _, hended.1, rfl, (first_decides hended.1 hended.2).1⟩

end Gattlib.ScanVerdicts
