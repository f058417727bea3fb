import Gattlib.ClientDisconnect

namespace Gattlib.DisconnectResult

open Library.Memory Library.Transition Gattlib.State Gattlib.Events Gattlib.Client
open Gattlib.ClientReconnect Gattlib.ClientDisconnect

/-- The call is inside its critical section, with the mutex of the context `k`, and goes on. -/
def Answers (i k : Nat) (x : Impl × ClientEvent × Impl) : Prop :=
  ∃ a c, x.2.1 = .call i a ∧ x.1.calls i = some c ∧ c.pc = .disconnecting k

/-- The call has a connection to disconnect, and `functions->disconnect` returns
GATTLIB_SUCCESS. -/
def Succeeds (i : Nat) (x : Impl × ClientEvent × Impl) : Prop :=
  ∃ a c k p, x.2.1 = .call i a ∧ x.1.calls i = some c ∧ c.pc = .disconnecting k ∧
    x.1.connectionContext = some p ∧ (connectionOf x.1 p).isSome = true ∧ a.disconnect = gattlibSuccess

/-- `onDeviceDisconnect` runs for a context. -/
def Reported (k : Nat) (x : Impl × ClientEvent × Impl) : Prop :=
  x.2.1 = .mainLoop ∧ x.1.mainLoop = .called (contextPtr k)

/-- The device of a call has been disconnected: `functions->disconnect` has said so, or the
callback for the context whose mutex the call had. -/
def Disconnected (tr : List (Impl × ClientEvent × Impl)) (i : Nat) : Prop :=
  (∃ x ∈ tr, Succeeds i x) ∨ ∃ k, (∃ x ∈ tr, Answers i k x) ∧ ∃ x ∈ tr, Reported k x

/-- The step that ends the wait of a call. -/
def EndsWait (i : Nat) (x : Impl × ClientEvent × Impl) : Prop :=
  ∃ a c, x.2.1 = .call i a ∧ x.1.calls i = some c ∧ c.pc = .awaiting

/-- The call has found the client connected, and has waited. -/
def Waited (tr : List (Impl × ClientEvent × Impl)) (i : Nat) : Prop := ∃ x ∈ tr, EndsWait i x

/-- The device of a call was disconnected before its wait ended. -/
def InTime (tr : List (Impl × ClientEvent × Impl)) (i : Nat) : Prop :=
  ∃ x before, x :: before <:+ tr ∧ EndsWait i x ∧ Disconnected before i

/-- A call of `disconnect` returns. -/
def Returns (i : Nat) (ret : Ret) (x : Impl × ClientEvent × Impl) : Prop :=
  ∃ c c', x.1.calls i = some c ∧ c.pc ≠ .ended ∧ x.2.2.calls i = some c' ∧ c'.api = .disconnect ∧
    c'.pc = .ended ∧ c'.result = some (.returned ret)

/-- The client has its context, with the handle of the connection, as before. -/
def KeepsHandle (s t : Impl) : Prop :=
  ∃ k ctx, t.connectionContext = some k ∧ s.contexts.cell k = some ctx ∧ t.contexts.cell k = some ctx

structure Truthful (tr : List (Impl × ClientEvent × Impl)) (x : Impl × ClientEvent × Impl) : Prop where
  success : ∀ i, Waited tr i → Returns i gattlibSuccess x → InTime tr i
  error : ∀ i ret, Waited tr i → Returns i ret x → ¬InTime tr i →
    ret ≠ gattlibSuccess ∧ KeepsHandle x.1 x.2.2

/-- No call of `disconnect` has waited in vain. -/
def Answered (tr : List (Impl × ClientEvent × Impl)) (x : Impl × ClientEvent × Impl) : Prop :=
  ∀ i ret, Waited tr i → Returns i ret x → InTime tr i

/-- What is left of a call that has waited: it deletes the context and stores NULL, and it
returns GATTLIB_SUCCESS, if it does not return to `shutdown`. -/
def winding (c : Call) : Bool :=
  c.pc = .deleting gattlibSuccess || c.pc = .clearing gattlibSuccess || c.pc = .ended ||
    match c.api with
    | .shutdown => c.pc = .closing
    | _ => false

structure Kept (tr : List (Impl × ClientEvent × Impl)) (s : Impl) : Prop where
  owned : ClientContexts.Owned s
  winds : ∀ i, Waited tr i → ∃ c, s.calls i = some c ∧ winding c = true

section

variable {s t : Impl} {i j : Nat} {c : Call} {a : Answer} {ret : Ret} {e : ClientEvent}
variable {tr : List (Impl × ClientEvent × Impl)}

/-- A step is taken by one call at most. -/
theorem other_calls (h : ClientContexts.Owned s) (hs : clientStep s e = some t)
    (hc : s.calls j = some c) (hne : ∀ a, e ≠ .call j a) : t.calls j = some c := by
  have hupdate : ∀ {i : Nat} {d : Call} {u : Impl}, i ≠ j →
      u.calls = Function.update s.calls i (some d) → u.calls j = some c := by
    intro i d u hij hu
    rw [hu, Function.update_of_ne hij.symm]
    exact hc
  cases ClientContexts.step_stepped hs with
  | begun => exact hupdate (Nat.ne_of_gt (h.fresh j c hc)) rfl
  | @called i d a t hd hst =>
    have hij : i ≠ j := fun hij => hne a (by rw [hij])
    cases hst with
    | moved _ _ ht => exact hupdate hij ht
    | allocated _ _ _ ht => exact hupdate hij ht
    | deleted _ _ _ ht => exact hupdate hij ht
    | cleared _ ht => exact hupdate hij ht
  | outside hcalls => rwa [hcalls]

/-- However the wait ends, the call goes on in the same way. -/
theorem wait_winds (hc : s.calls i = some c) (hpc : c.pc = .awaiting)
    (hs : clientStep s (.call i a) = some t) : ∃ d, t.calls i = some d ∧ winding d = true := by
  simp only [clientStep, hc, Option.bind_some, hpc, callStep, waitForDisconnect] at hs
  split at hs
  · cases hs
    exact ⟨_, Function.update_self .., by simp [winding]⟩
  · simp only [Option.ite_none_right_eq_some] at hs
    obtain ⟨_, hs⟩ := hs
    cases hs
    exact ⟨_, Function.update_self .., by simp [winding]⟩

/-- What a call still does after its wait. It returns GATTLIB_SUCCESS. -/
theorem step_winds (hc : s.calls i = some c) (hw : winding c = true)
    (hs : clientStep s (.call i a) = some t) : ∃ d, t.calls i = some d ∧ winding d = true ∧
      (d.api = .disconnect → d.pc = .ended → d.result = some (.returned gattlibSuccess)) := by
  rw [clientStep, hc, Option.bind_some] at hs
  obtain ⟨api, pc, result⟩ := c
  cases pc with
  | deleting ret =>
    obtain rfl : ret = gattlibSuccess := by cases api <;> simpa [winding] using hw
    have hmoved : t.calls i = some ⟨api, .clearing gattlibSuccess, result⟩ := by
      cases hs
      rw [deleteContext]
      split
      · exact Function.update_self ..
      · exact Function.update_self ..
    exact ⟨_, hmoved, by simp [winding], fun _ hend => by cases hend⟩
  | clearing ret =>
    obtain rfl : ret = gattlibSuccess := by cases api <;> simpa [winding] using hw
    cases hs
    cases api with
    | shutdown => exact ⟨_, Function.update_self .., by simp [winding], fun hapi => by cases hapi⟩
    | disconnect => exact ⟨_, Function.update_self .., by simp [winding], fun _ _ => rfl⟩
    | connect timeout address =>
      exact ⟨_, Function.update_self .., by simp [winding], fun hapi => by cases hapi⟩
  | closing =>
    cases hs
    cases api with
    | shutdown => exact ⟨_, Function.update_self .., by simp [winding], fun hapi => by cases hapi⟩
    | disconnect => simp [winding] at hw
    | connect timeout address => simp [winding] at hw
  | ended => cases hs
  | _ => cases api <;> simp [winding] at hw

theorem waited_cons {x : Impl × ClientEvent × Impl} :
    Waited (x :: tr) i ↔ EndsWait i x ∨ Waited tr i := by simp [Waited]

theorem kept_init (h : Constructed s) : Kept [] s :=
  ⟨ClientContexts.constructed_owned h, by simp [Waited]⟩

theorem kept_step (h : Kept tr s) (hs : clientStep s e = some t) : Kept ((s, e, t) :: tr) t := by
  refine ⟨ClientContexts.step_owned h.owned hs, fun i hw => ?_⟩
  rcases waited_cons.mp hw with ⟨a, c, rfl, hc, hpc⟩ | hw
  · exact wait_winds hc hpc hs
  · obtain ⟨c, hc, hwind⟩ := h.winds i hw
    by_cases he : ∃ a, e = .call i a
    · obtain ⟨a, rfl⟩ := he
      obtain ⟨d, hd, hwind, _⟩ := step_winds hc hwind hs
      exact ⟨d, hd, hwind⟩
    · exact ⟨c, other_calls h.owned hs hc (fun a hea => he ⟨a, hea⟩), hwind⟩

/-- A call that has waited returns GATTLIB_SUCCESS. -/
theorem waited_returns (h : Kept tr s) (hs : clientStep s e = some t) (hw : Waited tr i)
    (hr : Returns i ret (s, e, t)) : ret = gattlibSuccess := by
  obtain ⟨c, c', hc, hpc, hc', hapi, hend, hresult⟩ := hr
  obtain ⟨d, hd, hwind⟩ := h.winds i hw
  obtain rfl : d = c := Option.some.inj (hd.symm.trans hc)
  by_cases he : ∃ a, e = .call i a
  · obtain ⟨a, rfl⟩ := he
    obtain ⟨d', hd', _, hret⟩ := step_winds hc hwind hs
    obtain rfl : d' = c' := Option.some.inj (hd'.symm.trans hc')
    rw [hret hapi hend] at hresult
    cases hresult
    rfl
  · have hsame := other_calls h.owned hs hc (fun a hea => he ⟨a, hea⟩)
    obtain rfl : d = c' := Option.some.inj (hsame.symm.trans hc')
    exact absurd hend hpc

/-- A call of `disconnect` that has returned stays so. -/
theorem returned_ended (h : Run clientStep Constructed tr s) :
    ∀ x ∈ tr, Returns i ret x → ∃ c, s.calls i = some c ∧ c.api = .disconnect ∧ c.pc = .ended := by
  induction h with
  | start h => simp
  | @next s t e tr hrun hs ih =>
    intro x hx hr
    rcases List.mem_cons.mp hx with rfl | hx
    · obtain ⟨c, c', _, _, hc', hapi, hend, _⟩ := hr
      exact ⟨c', hc', hapi, hend⟩
    · obtain ⟨c, hc, hapi, hend⟩ := ih x hx hr
      have howned := (run_owned (hrun.next hs) _ List.mem_cons_self).1
      refine ⟨c, other_calls howned hs hc (fun a he => ?_), hapi, hend⟩
      have hs : clientStep s e = some t := hs
      rw [he, clientStep, hc, Option.bind_some, hend] at hs
      cases hs

/-- Nothing is asked of a run in which no call of `disconnect` has returned. -/
theorem none_returned (h : Run clientStep Constructed tr s)
    (hs : ∀ i c, s.calls i = some c → c.api = .disconnect → c.pc ≠ .ended) : Throughout Answered tr := by
  have hnone : ∀ x ∈ tr, ∀ i ret, ¬Returns i ret x := by
    intro x hx i ret hr
    obtain ⟨c, hc, hapi, hend⟩ := returned_ended h x hx hr
    exact hs i c hc hapi hend
  exact throughout_all (fun x hx before i ret _ hr => absurd hr (hnone x hx i ret))

theorem truthful_answered (h : Kept tr s) (hs : clientStep s e = some t) :
    Truthful tr (s, e, t) ↔ Answered tr (s, e, t) := by
  constructor
  · intro ht i ret hw hr
    obtain rfl := waited_returns h hs hw hr
    exact ht.success i hw hr
  · intro ha
    exact ⟨fun i hw hr => ha i _ hw hr, fun i ret hw hr hnot => absurd (ha i ret hw hr) hnot⟩

end

/-- `disconnect` tells the truth throughout exactly those runs in which no call of it waits for
nothing until its time is up. -/
theorem truthful_iff {tr : List (Impl × ClientEvent × Impl)} {s : Impl}
    (h : Run clientStep Constructed tr s) : Throughout Truthful tr ↔ Throughout Answered tr := by
  refine (throughout_iff (I := Kept) (fun _ => kept_init) ?_ ?_ h).1
  · exact fun tr s e t hk _ hs => kept_step hk hs
  · exact fun tr s e t hk hs => truthful_answered hk hs

/-- Of two calls the second one is the only call of `disconnect`. -/
theorem second_call {tr : List (Impl × ClientEvent × Impl)} {s : Impl}
    (h : Run clientStep Constructed tr s) (hn : s.nextCall = 2)
    (hfirst : (s.calls 0).map Call.api ≠ some .disconnect) {i : Nat} {c : Call}
    (hc : s.calls i = some c) (hapi : c.api = .disconnect) : i = 1 := by
  have hreach : Reach clientStep AnyStep Constructed s := run_reach h (fun _ _ => trivial)
  have hlt := (ClientContexts.reach_owned hreach).fresh i c hc
  have hne : i ≠ 0 := by
    rintro rfl
    rw [hc, Option.map_some, hapi] at hfirst
    exact hfirst rfl
  omega

/-- A connected client calls `disconnect`, which takes the mutex. `functions->disconnect` is
going to return `ret`. -/
def lockedEvents (ret : Ret) : List ClientEvent :=
  connectedEvents ++ [.api .disconnect, .call 1 { disconnect := ret }, .call 1 { disconnect := ret }]

/-- `functions->disconnect` fails, no callback comes, and `disconnect` returns GATTLIB_SUCCESS
without a context that it could be called for again. -/
theorem failed_confirmed : ∃ tr s, Run clientStep Constructed tr s ∧
    (s.calls 1).bind Call.result = some (.returned gattlibSuccess) ∧ s.connectionContext = none ∧
    ¬Throughout Truthful tr := by
  obtain ⟨tr, hlocked, hevents⟩ := exec_run_from (.start start_constructed)
    (stateAfter_exec (lockedEvents gattlibErrorDbus) rfl)
  have hanswered := hlocked.next (e := .call 1 { disconnect := gattlibErrorDbus }) rfl
  have hended := hanswered.next (e := .call 1 { disconnect := gattlibErrorDbus, expired := true }) rfl
  have hdeleted := hended.next (e := .call 1 { disconnect := gattlibErrorDbus }) rfl
  have hreturned := hdeleted.next (e := .call 1 { disconnect := gattlibErrorDbus }) rfl
  refine ⟨_, _, hreturned, rfl, rfl, fun h => ?_⟩
  obtain ⟨x, before, hsuffix, _, hdisconnected⟩ := h.1.success 1
    ⟨_, List.mem_cons_of_mem _ List.mem_cons_self, _, _, rfl, rfl, rfl⟩
    ⟨_, _, rfl, by decide, rfl, rfl, rfl, rfl⟩
  have hlist : ∀ e ∈ lockedEvents gattlibErrorDbus,
      e ≠ .mainLoop ∧ ∀ a, e = .call 1 a → a.disconnect ≠ gattlibSuccess := by
    simp [lockedEvents, connectedEvents, gattlibErrorDbus, gattlibSuccess]
  have hquiet : ∀ y ∈ before, y.2.1 ≠ .mainLoop ∧
      ∀ a, y.2.1 = .call 1 a → a.disconnect ≠ gattlibSuccess := by
    intro y hy
    have hy := hsuffix.subset (List.mem_cons_of_mem _ hy)
    simp only [List.append_nil, List.mem_cons] at hy
    rcases hy with rfl | rfl | rfl | hy
    · exact ⟨by simp, fun a ha => by cases ha; decide⟩
    · exact ⟨by simp, fun a ha => by cases ha; decide⟩
    · exact ⟨by simp, fun a ha => by cases ha; decide⟩
    · refine hlist _ ?_
      rw [← hevents, List.mem_reverse]
      exact List.mem_map_of_mem hy
  rcases hdisconnected with ⟨y, hy, a, _, _, _, he, _, _, _, _, hret⟩ | ⟨_, _, y, hy, he, _⟩
  · exact (hquiet y hy).2 a he hret
  · exact (hquiet y hy).1 he

/-- `functions->disconnect` succeeds. -/
theorem truthful_iff_succeeded : ∃ tr s, Run clientStep Constructed tr s ∧
    (s.calls 1).bind Call.result = some (.returned gattlibSuccess) ∧ Throughout Truthful tr := by
  obtain ⟨tr, hlocked, _⟩ := exec_run_from (.start start_constructed)
    (stateAfter_exec (lockedEvents gattlibSuccess) rfl)
  have hanswered := hlocked.next (e := .call 1 {}) rfl
  have hended := hanswered.next (e := .call 1 {}) rfl
  have hdeleted := hended.next (e := .call 1 {}) rfl
  have hreturned := hdeleted.next (e := .call 1 {}) rfl
  refine ⟨_, _, hreturned, rfl, (truthful_iff hreturned).mpr ⟨?_, none_returned hdeleted ?_⟩⟩
  · intro i ret _ hr
    obtain ⟨c, hc, hapi, _⟩ := returned_ended hreturned _ List.mem_cons_self hr
    obtain rfl := second_call hreturned rfl nofun hc hapi
    refine ⟨_, _, List.suffix_cons _ _, ⟨_, _, rfl, rfl, rfl⟩, Or.inl ⟨_, List.mem_cons_self, ?_⟩⟩
    exact ⟨_, _, _, _, rfl, rfl, rfl, rfl, rfl, rfl⟩
  · intro i c hc hapi hend
    obtain rfl := second_call hdeleted rfl nofun hc hapi
    cases hc
    cases hend

end Gattlib.DisconnectResult
