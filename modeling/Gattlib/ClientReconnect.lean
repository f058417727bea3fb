import Gattlib.ClientContexts

namespace Gattlib.ClientReconnect

open Library.Maps Library.Memory Library.Transition Gattlib.State Gattlib.Registry Gattlib.Events
open Gattlib.Client Gattlib.ClientContexts

/-- No call of the client is in progress. -/
def Idle (s : Impl) : Prop := ∀ i c, s.calls i = some c → c.pc = .ended

/-- No call but one is in progress. -/
def Alone (s : Impl) (i : Nat) : Prop := ∀ j c, s.calls j = some c → j ≠ i → c.pc = .ended

/-- A step by which a call of `connect` makes its checks and is refused. -/
def Refused (s t : Impl) (i : Nat) : Prop :=
  ∃ c c', s.calls i = some c ∧ c.pc = .checking ∧ t.calls i = some c' ∧ c'.pc = .ended ∧
    c'.result = some (.returned gattlibBusy)

/-- Between the calls the client has a context exactly if it is connected, and a call that
comes then is refused only if it is. -/
structure CanReconnect (s : Impl) : Prop where
  settled : Idle s → (s.connectionContext.isSome = true ↔ isConnected s = true)
  refused : ∀ i a t, Alone s i → clientStep s (.call i a) = some t → Refused s t i →
    isConnected s = true

/-- No call of `connect` returns with a context that is not CONNECTED and no callback takes
CONNECTED from the client's context, unless another call still has to see to it. -/
def Attended (s : Impl) : ClientEvent → Prop
  | .call i a => ∀ c, s.calls i = some c → givesUp s c a = true → ∃ j, j ≠ i ∧ Tends s j
  | e => Spoils s e → ∃ i, Tends s i

structure Cared (s : Impl) : Prop where
  owned : Owned s
  attended : unsettled s = true → ∃ i, Tends s i

section

variable {s t : Impl} {i j k : Nat} {c c' : Call} {a : Answer} {e : ClientEvent}

theorem unsettled_congr (hk : t.connectionContext = s.connectionContext)
    (hh : t.contexts = s.contexts) : unsettled t = unsettled s := by
  rw [unsettled, unsettled, isConnected_congr hk hh, hk]

theorem unsettled_some (h : unsettled s = true) :
    s.connectionContext.isSome = true ∧ isConnected s = false := by
  obtain ⟨hsome, hnot⟩ := Bool.and_eq_true_iff.mp h
  exact ⟨hsome, (Bool.not_eq_true' _).mp hnot⟩

theorem isConnected_some (h : isConnected s = true) : s.connectionContext.isSome = true := by
  obtain ⟨k, _, hk, _⟩ := isConnected_iff.mp h
  rw [hk]
  rfl

theorem others_tend (ht : t.calls = Function.update s.calls i (some c')) (hne : j ≠ i)
    (hj : Tends s j) : Tends t j := by
  obtain ⟨d, hd, htend⟩ := hj
  refine ⟨d, ?_, htend⟩
  rw [ht, Function.update_of_ne hne]
  exact hd

theorem self_tends (ht : t.calls = Function.update s.calls i (some c')) (h : tends c' = true) :
    Tends t i := by
  refine ⟨c', ?_, h⟩
  rw [ht, Function.update_self]

theorem clearing_tends (h : Clearing s j) : Tends s j := by
  obtain ⟨d, ret, hd, hpc⟩ := h
  refine ⟨d, hd, ?_⟩
  rw [tends, hpc]

/-- A call that does not tend the context is not the one that does. -/
theorem tending_other (hc : s.calls i = some c) (hout : tends c = false) (hj : Tends s j) :
    j ≠ i := by
  rintro rfl
  obtain ⟨d, hd, htend⟩ := hj
  rw [hc] at hd
  cases hd
  rw [hout] at htend
  cases htend

/-- The context a call leaves behind is CONNECTED or somebody else's. -/
theorem left_attended (h : Cared s) (hok : Attended s (.call i a)) (hc : s.calls i = some c)
    (hpc : ∀ ret, c.pc ≠ .clearing ret) (hu : unsettled s = true)
    (hleft : tends c = false ∨ givesUp s c a = true ∨ unsettled s = false ∨ Dead s) :
    ∃ j, j ≠ i ∧ Tends s j := by
  rcases hleft with hout | hgives | hsettled | hdead
  · obtain ⟨j, hj⟩ := h.attended hu
    exact ⟨j, tending_other hc hout hj, hj⟩
  · exact hok c hc hgives
  · rw [hsettled] at hu
    cases hu
  · obtain ⟨j, hj⟩ := h.owned.live hdead
    refine ⟨j, ?_, clearing_tends hj⟩
    rintro rfl
    obtain ⟨d, ret, hd, hret⟩ := hj
    rw [hc] at hd
    cases hd
    exact hpc ret hret

theorem call_attended (h : Cared s) (hok : Attended s (.call i a)) (hc : s.calls i = some c)
    (hst : CallStepped s i c a t) (hu : unsettled t = true) : ∃ j, Tends t j := by
  cases hst with
  | moved hk hlive ht hn hpc hend =>
    rcases hend with hend | ⟨hh, hleft⟩
    · exact ⟨i, self_tends ht hend⟩
    · rw [unsettled_congr hk hh] at hu
      obtain ⟨j, hne, hj⟩ := left_attended h hok hc hpc hu hleft
      exact ⟨j, others_tend ht hne hj⟩
  | allocated hpc hk hh ht hn hend =>
    rcases hend with hend | hgives
    · exact ⟨i, self_tends ht hend⟩
    · obtain ⟨j, hne, hj⟩ := hok c hc hgives
      exact ⟨j, others_tend ht hne hj⟩
  | deleted hpc hpc' hk ht hn =>
    refine ⟨i, self_tends ht ?_⟩
    rw [tends, hpc']
  | cleared hk ht hn =>
    have hsome := (unsettled_some hu).1
    rw [hk] at hsome
    cases hsome

theorem begin_attended (h : Cared s) (api : ApiCall) (hu : unsettled (beginCall s api) = true) :
    ∃ j, Tends (beginCall s api) j := by
  obtain ⟨j, d, hd, htend⟩ := h.attended hu
  have hne : j ≠ s.nextCall := Nat.ne_of_lt (h.owned.fresh j d hd)
  exact ⟨j, d, (Function.update_of_ne hne ..).trans hd, htend⟩

theorem outside_attended (h : Cared s) (hok : Spoils s e → ∃ i, Tends s i)
    (hc : t.calls = s.calls) (hk : t.connectionContext = s.connectionContext)
    (hconn : isConnected s = true → isConnected t = true ∨ Spoils s e)
    (hu : unsettled t = true) : ∃ j, Tends t j := by
  obtain ⟨hsome, hnot⟩ := unsettled_some hu
  have htend : ∃ i, Tends s i := by
    cases hs : isConnected s with
    | true =>
      rcases hconn hs with ht | hspoil
      · rw [hnot] at ht
        cases ht
      · exact hok hspoil
    | false =>
      refine h.attended ?_
      rw [unsettled, hs, ← hk, hsome]
      rfl
  obtain ⟨i, d, hd, hi⟩ := htend
  refine ⟨i, d, ?_, hi⟩
  rw [hc]
  exact hd

theorem attended_outside (hok : Attended s e) : Spoils s e → ∃ i, Tends s i := by
  intro hspoil
  cases e with
  | call i a => exact hspoil.elim
  | api | discoverConnect | deviceConnect | callback | mainLoop | core => exact hok hspoil

theorem step_cared : Preserves clientStep Attended Cared := by
  intro s e t h hok hs
  refine ⟨step_owned h.owned hs, ?_⟩
  have hst := step_stepped hs
  clear hs
  cases hst with
  | begun => exact begin_attended h _
  | called hc ht => exact call_attended h hok hc ht
  | outside hc hn hk hlive hconn => exact outside_attended h (attended_outside hok) hc hk hconn

theorem constructed_cared (h : Constructed s) : Cared s := by
  refine ⟨constructed_owned h, ?_⟩
  obtain ⟨core, adapter, _, _, rfl⟩ := h
  intro hu
  cases hu

theorem cared_settled (h : Cared s) (hidle : Idle s) :
    s.connectionContext.isSome = true ↔ isConnected s = true := by
  refine ⟨fun hsome => ?_, isConnected_some⟩
  cases hconn : isConnected s with
  | true => rfl
  | false =>
    have hu : unsettled s = true := by
      rw [unsettled, hsome, hconn]
      rfl
    obtain ⟨i, c, hc, htend⟩ := h.attended hu
    rw [tends, hidle i c hc] at htend
    cases htend

/-- The check refuses a call when there is a context, and not otherwise. -/
theorem refused_context (hs : clientStep s (.call i a) = some t) (hr : Refused s t i) :
    s.connectionContext.isSome = true := by
  obtain ⟨c, c', hc, hpc, hc', hended, hresult⟩ := hr
  obtain ⟨d, hd, hs⟩ := Option.bind_eq_some_iff.mp hs
  rw [hc] at hd
  cases hd
  rw [hpc] at hs
  cases hs
  rw [connectCheck] at hc'
  split at hc'
  · rw [finish] at hc'
    split at hc'
    · cases (Function.update_self ..).symm.trans hc'
      cases hended
    · cases (Function.update_self ..).symm.trans hc'
      cases hresult
    · cases (Function.update_self ..).symm.trans hc'
      cases hresult
  · split at hc'
    · assumption
    · cases (Function.update_self ..).symm.trans hc'
      cases hended

theorem cared_refused (h : Cared s) (halone : Alone s i)
    (hs : clientStep s (.call i a) = some t) (hr : Refused s t i) : isConnected s = true := by
  have hsome := refused_context hs hr
  obtain ⟨c, _, hc, hpc, _⟩ := hr
  cases hconn : isConnected s with
  | true => rfl
  | false =>
    have hu : unsettled s = true := by
      rw [unsettled, hsome, hconn]
      rfl
    obtain ⟨j, d, hd, htend⟩ := h.attended hu
    by_cases hji : j = i
    · subst j
      rw [hc] at hd
      cases hd
      rw [tends, hpc] at htend
      cases htend
    · rw [tends, halone j d hd hji] at htend
      cases htend

end

/-- The client can reconnect after every run in which each context that is not CONNECTED is
attended to by some call. -/
theorem can_reconnect {s : Impl} (h : Reach clientStep Attended Constructed s) :
    CanReconnect s := by
  have hcared := reach_invariant Cared (fun _ => constructed_cared) step_cared h
  exact ⟨cared_settled hcared, fun _ _ _ => cared_refused hcared⟩

/-- A client over the default adapter. -/
def start : Impl := { core := opened, adapterPtr := some 0 }

/-- The address of some device. -/
def remote : Strings.CString := ⟨[67, 56], by decide⟩

theorem start_constructed : Constructed start := ⟨opened, 0, opened_opened, by decide, rfl⟩

theorem one_call_idle {s : Impl} (h : Owned s) (hn : s.nextCall = 1)
    (hended : (s.calls 0).map Call.pc = some .ended) : Idle s := by
  intro i c hc
  have hi : i = 0 := by
    have hlt := h.fresh i c hc
    omega
  subst i
  rw [hc] at hended
  exact Option.some.inj hended

/-- The scan of a call of `connect` fails, and the context stays. -/
theorem context_left : ¬∀ s, Reach clientStep AnyStep Constructed s → CanReconnect s := by
  intro h
  have hstart : Reach clientStep AnyStep Constructed start := .start start_constructed
  have hbegun := Reach.next (e := ClientEvent.api (.connect 10 remote)) hstart trivial rfl
  have hchecked := Reach.next (e := ClientEvent.call 0 {}) hbegun trivial rfl
  have hscanning := Reach.next (e := ClientEvent.call 0 {}) hchecked trivial rfl
  have hfailed := Reach.next (e := ClientEvent.call 0 { scan := .returned Scanner.gattlibDeviceError })
    hscanning trivial rfl
  have hidle := one_call_idle (reach_owned hfailed) rfl rfl
  have hconn := ((h _ hfailed).settled hidle).mp rfl
  cases hconn

/-- A call of `connect` succeeds, and the next one is refused. -/
theorem connected_refused : ∃ s t, Reach clientStep Attended Constructed s ∧ CanReconnect s ∧
    clientStep s (.call 1 {}) = some t ∧ Refused s t 1 ∧ isConnected s = true := by
  have hcall : ∀ (s : Impl) i a, (∀ c, s.calls i = some c → givesUp s c a = false) →
      Attended s (.call i a) := by
    intro s i a h c hc hgives
    rw [h c hc] at hgives
    cases hgives
  have hstart : Reach clientStep Attended Constructed start := .start start_constructed
  have hbegun := Reach.next (e := ClientEvent.api (.connect 10 remote)) hstart False.elim rfl
  have hchecked := Reach.next (e := ClientEvent.call 0 {}) hbegun
    (hcall _ _ _ (fun c hc => (by cases hc; rfl))) rfl
  have hscanning := Reach.next (e := ClientEvent.call 0 {}) hchecked
    (hcall _ _ _ (fun c hc => (by cases hc; rfl))) rfl
  have hwaiting := Reach.next (e := ClientEvent.call 0 {}) hscanning
    (hcall _ _ _ (fun c hc => (by cases hc; rfl))) rfl
  have hanswer := Reach.next (e := ClientEvent.deviceConnect (contextPtr 0)
    { dst := remote, connection := some 0 } remote) hwaiting False.elim rfl
  have hstored := Reach.next (e := ClientEvent.callback 0 gattlibSuccess) hanswer (by
    rintro ⟨pc, k, new, hpc, hstores, hne, _⟩
    cases hpc
    cases hstores
    exact (hne rfl).elim) rfl
  have hregistered := Reach.next (e := ClientEvent.callback 0 gattlibSuccess) hstored (by
    rintro ⟨pc, k, new, hpc, hstores, _⟩
    cases hpc
    cases hstores) rfl
  have hsuccess := Reach.next (e := ClientEvent.call 0 {}) hregistered
    (hcall _ _ _ (fun c hc => (by cases hc; rfl))) rfl
  have hagain := Reach.next (e := ClientEvent.api (.connect 10 remote)) hsuccess False.elim rfl
  exact ⟨_, _, hagain, can_reconnect hagain, rfl, ⟨_, _, rfl, rfl, rfl, rfl, rfl⟩, rfl⟩

end Gattlib.ClientReconnect
