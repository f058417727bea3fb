import Gattlib.ClientReconnect

namespace Gattlib.ClientDisconnect

open Library.Memory Library.Transition Gattlib.State Gattlib.Events Gattlib.Client
open Gattlib.ClientContexts Gattlib.ClientReconnect

def Deleted (s : Impl) (k : Nat) : Prop := k < s.contexts.next ∧ s.contexts.cell k = none

/-- The main loop calls `onDeviceDisconnect` with a context that has been deleted. -/
def StaleCall (x : Impl × ClientEvent × Impl) : Prop :=
  ∃ k, x.2.1 = .mainLoop ∧ x.2.2.mainLoop = .called (contextPtr k) ∧ Deleted x.1 k

/-- The main loop only calls `onDeviceDisconnect` with the context the client has now, and
no call has deleted it without having stored NULL yet. -/
def PresentContext (s : Impl) : ClientEvent → Prop
  | .mainLoop => ∀ k, s.mainLoop = .free → disconnectionDue s = some (contextPtr k) →
      s.connectionContext = some k ∧ ∀ i, ¬Clearing s i
  | _ => True

section

variable {s t : Impl} {k userData : Nat} {tr : List (Impl × ClientEvent × Impl)}

/-- The handler is called when it is due. -/
theorem called_due (hs : clientStep s .mainLoop = some t) (ht : t.mainLoop = .called userData) :
    s.mainLoop = .free ∧ disconnectionDue s = some userData := by
  rw [clientStep] at hs
  cases hm : s.mainLoop with
  | free =>
    rw [hm] at hs
    obtain ⟨u, hdue, rfl⟩ := Option.map_eq_some_iff.mp hs
    cases ht
    exact ⟨rfl, hdue⟩
  | called u =>
    rw [hm] at hs
    cases u with
    | zero =>
      cases hs
      cases ht
    | succ k =>
      simp only [mainLoopStep, onDeviceDisconnect, Option.ite_none_right_eq_some] at hs
      obtain ⟨_, hs⟩ := hs
      cases hs
      cases ht
  | returned =>
    rw [hm] at hs
    cases hs

/-- The context the client has is allocated while no call is about to store NULL. -/
theorem present_live (h : Owned s) (hk : s.connectionContext = some k)
    (hclear : ∀ i, ¬Clearing s i) : ¬Deleted s k := by
  rintro ⟨_, hcell⟩
  obtain ⟨i, hi⟩ := h.live ⟨k, hk, hcell⟩
  exact hclear i hi

theorem run_owned (h : Run clientStep Constructed tr s) :
    ∀ x ∈ tr, Owned x.1 ∧ clientStep x.1 x.2.1 = some x.2.2 := by
  have hstep : Preserves clientStep AnyStep Owned := fun _ _ _ ho _ hs => step_owned ho hs
  exact (run_steps (fun _ => constructed_owned) hstep h (fun _ _ => trivial)).2

theorem idle_clear (h : Idle s) (i : Nat) : ¬Clearing s i := by
  rintro ⟨c, ret, hc, hpc⟩
  rw [h i c hc] at hpc
  cases hpc

end

/-- In a run in which the main loop only calls `onDeviceDisconnect` with the context the
client has at that moment, it never calls it with a deleted one. -/
theorem no_stale_call {tr : List (Impl × ClientEvent × Impl)} {s : Impl}
    (h : Run clientStep Constructed tr s) (hpresent : ∀ x ∈ tr, PresentContext x.1 x.2.1) :
    ∀ x ∈ tr, ¬StaleCall x := by
  rintro ⟨u, e, v⟩ hx ⟨k, he, hcalled, hdeleted⟩
  obtain ⟨howned, hs⟩ := run_owned h _ hx
  have hok := hpresent _ hx
  have he : e = .mainLoop := he
  subst e
  obtain ⟨hfree, hdue⟩ := called_due hs hcalled
  obtain ⟨hk, hclear⟩ := hok k hfree hdue
  exact present_live howned hk hclear hdeleted

/-- A device is discovered, and the client connects to it. -/
def connectedEvents : List ClientEvent :=
  [.core (.objectAdded 0 devicePath answered), .api (.connect 10 remote), .call 0 {}, .call 0 {},
    .discoverConnect (contextPtr 0) false, .callback 0 gattlibSuccess,
    .core (.connect 0 devicePath 2 (contextPtr 0) (.accepted 2)), .callback 0 gattlibSuccess,
    .call 0 {}, .core (.emit 2 (.servicesResolved true) []),
    .core (.propertyChange ⟨some 3, true, true⟩), .core (.connectedThread 0),
    .deviceConnect (contextPtr 0) { dst := remote, connection := some 0 } remote,
    .callback 1 gattlibSuccess, .callback 1 gattlibSuccess, .core (.connectedReturns 0),
    .callback 0 gattlibSuccess, .call 0 {}]

/-- The link drops. -/
def droppedEvents : List ClientEvent := connectedEvents ++ [.core (.emit 2 (.connected false) [])]

/-- The client disconnects, and the end of the link is reported after that. -/
def disconnectedEvents : List ClientEvent :=
  connectedEvents ++ [.api .disconnect, .call 1 {}, .call 1 {}, .core (.disconnect 0), .call 1 {},
    .call 1 {}, .call 1 {}, .call 1 {}, .core (.emit 2 (.connected false) [])]

def stateAfter (events : List ClientEvent) : Impl := (exec clientStep start events).getD start

theorem stateAfter_exec (events : List ClientEvent)
    (h : (exec clientStep start events).isSome = true) :
    exec clientStep start events = some (stateAfter events) :=
  exec_getD h start

/-- `disconnect` has stored DISCONNECTED itself, so that its wait is over at once, and the
handler of the connection still has the deleted context for its user data. -/
theorem stale_call : ¬∀ (tr : List (Impl × ClientEvent × Impl)) (s : Impl),
    Run clientStep Constructed tr s → ∀ x ∈ tr, ¬StaleCall x := by
  intro h
  obtain ⟨tr, hrun, _⟩ := exec_run_from (.start start_constructed)
    (stateAfter_exec disconnectedEvents rfl)
  have hnext := Run.next (e := .mainLoop) hrun rfl
  exact h _ _ hnext _ List.mem_cons_self ⟨0, rfl, rfl, Nat.zero_lt_one, rfl⟩

/-- The end of a link is reported while the client has its context. -/
theorem dropped_called : ∃ tr t, Run clientStep Constructed tr t ∧
    t.mainLoop = .called (contextPtr 0) ∧ ∀ x ∈ tr, ¬StaleCall x := by
  obtain ⟨tr, hrun, hevents⟩ := exec_run_from (.start start_constructed)
    (stateAfter_exec droppedEvents rfl)
  have hnext := Run.next (e := .mainLoop) hrun rfl
  have hquiet : ∀ e ∈ droppedEvents, ∀ s, PresentContext s e := by
    simp [droppedEvents, connectedEvents, PresentContext]
  refine ⟨_, _, hnext, rfl, no_stale_call hnext ?_⟩
  rw [List.append_nil, List.forall_mem_cons]
  constructor
  · intro k _ hdue
    cases hdue
    exact ⟨rfl, idle_clear (one_call_idle (run_owned hnext _ List.mem_cons_self).1 rfl rfl)⟩
  · intro x hx
    refine hquiet _ ?_ _
    rw [← hevents, List.mem_reverse]
    exact List.mem_map_of_mem hx

end Gattlib.ClientDisconnect
