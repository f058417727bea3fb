import Gattlib.Client
import Gattlib.Library.Maps
import Gattlib.Library.Transition

namespace Gattlib.ClientContexts

open Library.Maps Library.Memory Library.Transition Gattlib.State Gattlib.Client
open Gattlib.Scanner (ScanResult)

/-- The places where a call still has to see to the context of the client. -/
def tends (c : Call) : Bool :=
  match c.pc with
  | .scanning | .waiting | .disconnecting _ | .awaiting | .deleting _ | .clearing _ => true
  | .checking | .allocating | .looking | .locking | .closing | .ended => false

def Tends (s : Impl) (i : Nat) : Prop := ∃ c, s.calls i = some c ∧ tends c = true

/-- A call has deleted a context and not stored NULL yet. -/
def Clearing (s : Impl) (i : Nat) : Prop := ∃ c ret, s.calls i = some c ∧ c.pc = .clearing ret

/-- The client has a context that is not CONNECTED. -/
def unsettled (s : Impl) : Bool := s.connectionContext.isSome && !isConnected s

/-- A call of `connect` is about to return with a context that is not CONNECTED. -/
def givesUp (s : Impl) (c : Call) (a : Answer) : Bool :=
  match c.pc with
  | .allocating => a.allocated = .noAddress
  | .scanning => a.scan ≠ .returned gattlibSuccess && unsettled s
  | .waiting => a.expired && s.connectionContext.any (fun k => !finished (stateOf s k a.garbage))
  | _ => false

/-- The state a callback is about to store, and in which context. -/
def stores : CallbackPc → Option (Nat × ConnectionState)
  | .discovered k true => some (k, .failed)
  | .storing k new => some (k, new)
  | .answered k connection failed =>
    some (k, if failed || connection.isNone then .failed else .connected)
  | .discovered _ false | .connecting _ | .registering _ _ | .done => none

/-- A callback is about to store another state than CONNECTED in the client's context. -/
def Spoils (s : Impl) : ClientEvent → Prop
  | .callback j _ => ∃ pc k new, s.callbacks j = some pc ∧ stores pc = some (k, new) ∧
      new ≠ .connected ∧ s.connectionContext = some k
  | .mainLoop => ∃ k, s.mainLoop = .called (contextPtr k) ∧ s.connectionContext = some k
  | _ => False

/-- The client's context has been deleted. -/
def Dead (s : Impl) : Prop := ∃ k, s.connectionContext = some k ∧ s.contexts.cell k = none

/-- What a step of a call does to the calls and to the context. -/
inductive CallStepped (s : Impl) (i : Nat) (c : Call) (a : Answer) : Impl → Prop
  | moved {t : Impl} {c' : Call} (hk : t.connectionContext = s.connectionContext)
      (hlive : ∀ k, s.contexts.cell k ≠ none → t.contexts.cell k ≠ none)
      (ht : t.calls = Function.update s.calls i (some c')) (hn : t.nextCall = s.nextCall)
      (hpc : ∀ ret, c.pc ≠ .clearing ret)
      (hend : tends c' = true ∨ t.contexts = s.contexts ∧ (tends c = false ∨
        givesUp s c a = true ∨ unsettled s = false ∨ Dead s)) : CallStepped s i c a t
  | allocated {t : Impl} {c' : Call} {v : ConnectionContext} (hpc : c.pc = .allocating)
      (hk : t.connectionContext = some s.contexts.next) (hh : t.contexts = alloc s.contexts v)
      (ht : t.calls = Function.update s.calls i (some c')) (hn : t.nextCall = s.nextCall)
      (hend : tends c' = true ∨ givesUp s c a = true) : CallStepped s i c a t
  | deleted {t : Impl} {c' : Call} {ret : Ret} (hpc : c.pc = .deleting ret)
      (hpc' : c'.pc = .clearing ret) (hk : t.connectionContext = s.connectionContext)
      (ht : t.calls = Function.update s.calls i (some c')) (hn : t.nextCall = s.nextCall) :
      CallStepped s i c a t
  | cleared {t : Impl} {c' : Call} (hk : t.connectionContext = none)
      (ht : t.calls = Function.update s.calls i (some c')) (hn : t.nextCall = s.nextCall) :
      CallStepped s i c a t

inductive Stepped (s : Impl) : ClientEvent → Impl → Prop
  | begun {api : ApiCall} : Stepped s (.api api) (beginCall s api)
  | called {i : Nat} {c : Call} {a : Answer} {t : Impl} (hc : s.calls i = some c)
      (ht : CallStepped s i c a t) : Stepped s (.call i a) t
  | outside {e : ClientEvent} {t : Impl} (hc : t.calls = s.calls) (hn : t.nextCall = s.nextCall)
      (hk : t.connectionContext = s.connectionContext)
      (hlive : ∀ k, s.contexts.cell k ≠ none → t.contexts.cell k ≠ none)
      (hconn : isConnected s = true → isConnected t = true ∨ Spoils s e) : Stepped s e t

section

variable {s t x : Impl} {i j k : Nat} {c c' : Call} {a : Answer} {e : ClientEvent}

theorem isConnected_iff : isConnected s = true ↔ ∃ k ctx, s.connectionContext = some k ∧
    s.contexts.cell k = some ctx ∧ ctx.state = .connected := by
  rw [isConnected, Option.any_eq_true]
  constructor
  · rintro ⟨k, hk, hctx⟩
    obtain ⟨ctx, hcell, hstate⟩ := (Option.any_eq_true ..).mp hctx
    exact ⟨k, ctx, hk, hcell, of_decide_eq_true hstate⟩
  · rintro ⟨k, ctx, hk, hcell, hstate⟩
    exact ⟨k, hk, (Option.any_eq_true ..).mpr ⟨ctx, hcell, decide_eq_true hstate⟩⟩

theorem isConnected_congr (hk : t.connectionContext = s.connectionContext)
    (hh : t.contexts = s.contexts) : isConnected t = isConnected s := by
  rw [isConnected, isConnected, hk, hh]

theorem modify_live {α : Type} {h : Heap α} {p q : Nat} {f : α → α} (hq : h.cell q ≠ none) :
    (modify h p f).cell q ≠ none := by
  rw [modify_cell]
  by_cases hqp : q = p
  · subst q
    rw [if_pos rfl, ne_eq, Option.map_eq_none_iff]
    exact hq
  · rw [if_neg hqp]
    exact hq

/-- A write that keeps the state CONNECTED, or that is not to the client's context. -/
theorem write_connected {f : ConnectionContext → ConnectionContext}
    (hf : (∀ ctx : ConnectionContext, ctx.state = .connected → (f ctx).state = .connected) ∨
      s.connectionContext ≠ some k) (h : isConnected s = true) :
    isConnected (writeContext s k f) = true := by
  obtain ⟨p, ctx, hp, hcell, hstate⟩ := isConnected_iff.mp h
  by_cases hpk : p = k
  · subst p
    rcases hf with hf | hf
    · refine isConnected_iff.mpr ⟨k, f ctx, hp, ?_, hf ctx hstate⟩
      rw [writeContext, modify_self, hcell]
      rfl
    · exact absurd hp hf
  · refine isConnected_iff.mpr ⟨p, ctx, hp, ?_, hstate⟩
    rw [writeContext, modify_ne _ _ hpk, hcell]

theorem finish_calls (s : Impl) (i : Nat) (c : Call) (r : CallResult) :
    ∃ c', finish s i c r = setCall s i c' ∧ tends c' = false := by
  rw [finish]
  split
  · exact ⟨_, rfl, rfl⟩
  · exact ⟨_, rfl, rfl⟩
  · exact ⟨_, rfl, rfl⟩

/-- A call moves on and leaves the contexts alone. -/
theorem set_moved (hpc : ∀ ret, c.pc ≠ .clearing ret) (hend : tends c' = true ∨ tends c = false ∨
    givesUp s c a = true ∨ unsettled s = false ∨ Dead s) :
    CallStepped s i c a (setCall s i c') := by
  refine .moved rfl (fun _ h => h) rfl rfl hpc ?_
  rcases hend with hend | hend
  · exact .inl hend
  · exact .inr ⟨rfl, hend⟩

theorem finish_moved {r : CallResult} (hpc : ∀ ret, c.pc ≠ .clearing ret)
    (hend : tends c = false ∨ givesUp s c a = true ∨ unsettled s = false ∨ Dead s) :
    CallStepped s i c a (finish s i c r) := by
  obtain ⟨c', hf, _⟩ := finish_calls s i c r
  rw [hf]
  exact set_moved hpc (.inr hend)

theorem pc_clearing {pc : CallPc} (hpc : c.pc = pc) (h : ∀ ret, pc ≠ .clearing ret) :
    ∀ ret, c.pc ≠ .clearing ret := by
  intro ret hret
  exact h ret (hpc.symm.trans hret)

theorem check_moved (hpc : c.pc = .checking) : CallStepped s i c a (connectCheck s i c) := by
  have hpc' := pc_clearing hpc (fun _ h => CallPc.noConfusion h)
  have hout : tends c = false := by rw [tends, hpc]
  rw [connectCheck]
  split
  · exact finish_moved hpc' (.inl hout)
  · split
    · exact finish_moved hpc' (.inl hout)
    · exact set_moved hpc' (.inr (.inl hout))

theorem allocate_stepped (hpc : c.pc = .allocating) :
    CallStepped s i c a (connectAllocate s i c a.allocated) := by
  have hpc' := pc_clearing hpc (fun _ h => CallPc.noConfusion h)
  cases ha : a.allocated with
  | noMemory =>
    have hout : tends c = false := by rw [tends, hpc]
    exact finish_moved hpc' (.inl hout)
  | noAddress =>
    have hgives : givesUp s c a = true := by
      rw [givesUp, hpc]
      exact decide_eq_true ha
    let y : Impl := { s with
      contexts := alloc s.contexts {}
      connectionContext := some s.contexts.next }
    obtain ⟨c', hf, _⟩ := finish_calls y i c (.returned Scanner.gattlibDeviceError)
    have hy : connectAllocate s i c .noAddress = setCall y i c' := hf
    rw [hy]
    exact .allocated hpc rfl rfl rfl rfl (.inr hgives)
  | complete => exact .allocated hpc rfl rfl rfl rfl (.inl rfl)

theorem scanned_moved (hpc : c.pc = .scanning) :
    CallStepped s i c a (connectScanned s i c a.scan) := by
  have hpc' := pc_clearing hpc (fun _ h => CallPc.noConfusion h)
  have hleft : a.scan ≠ .returned gattlibSuccess →
      tends c = false ∨ givesUp s c a = true ∨ unsettled s = false ∨ Dead s := by
    intro hscan
    cases hu : unsettled s with
    | false => exact .inr (.inr (.inl rfl))
    | true =>
      refine .inr (.inl ?_)
      rw [givesUp, hpc, hu]
      exact Bool.and_eq_true_iff.mpr ⟨decide_eq_true hscan, rfl⟩
  cases hscan : a.scan with
  | returned ret =>
    rw [connectScanned]
    split
    · exact set_moved hpc' (.inl rfl)
    · rename_i hret
      refine finish_moved hpc' (hleft ?_)
      rw [hscan]
      exact fun h => hret (ScanResult.returned.inj h)
  | thrown =>
    refine finish_moved hpc' (hleft ?_)
    rw [hscan]
    exact fun h => ScanResult.noConfusion h

/-- The wait sees CONNECTED in the client's context, unless that has been deleted. -/
theorem connected_settled (hk : s.connectionContext = some k)
    (h : stateOf s k a.garbage = .connected) : unsettled s = false ∨ Dead s := by
  cases hcell : s.contexts.cell k with
  | none => exact .inr ⟨k, hk, hcell⟩
  | some ctx =>
    rw [stateOf, hcell] at h
    have hconn : isConnected s = true := isConnected_iff.mpr ⟨k, ctx, hk, hcell, h⟩
    rw [unsettled, hconn, Bool.not_true, Bool.and_false]
    exact .inl rfl

theorem wait_stepped (hpc : c.pc = .waiting)
    (hs : connectWait s i c a.expired a.garbage = some t) : CallStepped s i c a t := by
  have hpc' := pc_clearing hpc (fun _ h => CallPc.noConfusion h)
  rw [connectWait] at hs
  split at hs
  · cases hs
  · rename_i k hk
    simp only [Option.ite_none_right_eq_some] at hs
    obtain ⟨_, hs⟩ := hs
    split at hs
    · cases hs
      rw [connectFinish]
      split
      · rename_i hstate
        exact finish_moved hpc' (.inr (.inr (connected_settled hk hstate)))
      · split
        · exact set_moved hpc' (.inl rfl)
        · exact set_moved hpc' (.inl rfl)
    · rename_i hfin
      simp only [Option.ite_none_right_eq_some] at hs
      obtain ⟨hexp, hs⟩ := hs
      cases hs
      refine finish_moved hpc' (.inr (.inl ?_))
      rw [givesUp, hpc, hexp, hk]
      simp [hfin]

theorem look_moved (hpc : c.pc = .looking) : CallStepped s i c a (disconnectLook s i c) := by
  have hpc' := pc_clearing hpc (fun _ h => CallPc.noConfusion h)
  have hout : tends c = false := by rw [tends, hpc]
  rw [disconnectLook]
  split
  · exact finish_moved hpc' (.inl hout)
  · exact set_moved hpc' (.inr (.inl hout))

theorem lock_stepped (hpc : c.pc = .locking) (hs : disconnectLock s i c a.garbage = some t) :
    CallStepped s i c a t := by
  have hpc' := pc_clearing hpc (fun _ h => CallPc.noConfusion h)
  rw [disconnectLock] at hs
  split at hs
  · cases hs
  · simp only [Option.ite_none_right_eq_some] at hs
    obtain ⟨_, hs⟩ := hs
    split at hs
    · cases hs
      have hout : tends c = false := by rw [tends, hpc]
      exact finish_moved hpc' (.inl hout)
    · cases hs
      exact .moved rfl (fun _ h => modify_live (modify_live h)) rfl rfl hpc' (.inl rfl)

theorem answer_stepped {guard : Nat} (hpc : c.pc = .disconnecting guard)
    (hs : disconnectAnswer s i c guard a.disconnect = some t) : CallStepped s i c a t := by
  have hpc' := pc_clearing hpc (fun _ h => CallPc.noConfusion h)
  rw [disconnectAnswer] at hs
  split at hs
  · cases hs
  · split at hs
    · cases hs
      exact .moved rfl (fun _ h => modify_live (modify_live h)) rfl rfl hpc' (.inl rfl)
    · cases hs
      exact .moved rfl (fun _ h => modify_live h) rfl rfl hpc' (.inl rfl)

theorem await_stepped (hpc : c.pc = .awaiting)
    (hs : waitForDisconnect s i c a.expired a.garbage = some t) : CallStepped s i c a t := by
  have hpc' := pc_clearing hpc (fun _ h => CallPc.noConfusion h)
  rw [waitForDisconnect] at hs
  split at hs
  · cases hs
    exact set_moved hpc' (.inl rfl)
  · simp only [Option.ite_none_right_eq_some] at hs
    obtain ⟨_, hs⟩ := hs
    cases hs
    exact set_moved hpc' (.inl rfl)

theorem delete_stepped {ret : Ret} (hpc : c.pc = .deleting ret) :
    CallStepped s i c a (deleteContext s i c ret) := by
  rw [deleteContext]
  split
  · exact .deleted hpc rfl rfl rfl rfl
  · exact .deleted hpc rfl rfl rfl rfl

theorem clear_stepped {ret : Ret} : CallStepped s i c a (clearContext s i c ret) := by
  let y : Impl := { s with connectionContext := none }
  obtain ⟨c', hf, _⟩ := finish_calls y i c (.returned ret)
  have hy : clearContext s i c ret = setCall y i c' := hf
  rw [hy]
  exact .cleared rfl rfl rfl

theorem call_stepped (hs : callStep s i c a c.pc = some t) : CallStepped s i c a t := by
  cases hpc : c.pc with
  | checking =>
    rw [hpc] at hs
    cases hs
    exact check_moved hpc
  | allocating =>
    rw [hpc] at hs
    cases hs
    exact allocate_stepped hpc
  | scanning =>
    rw [hpc] at hs
    cases hs
    exact scanned_moved hpc
  | waiting =>
    rw [hpc] at hs
    exact wait_stepped hpc hs
  | looking =>
    rw [hpc] at hs
    cases hs
    exact look_moved hpc
  | locking =>
    rw [hpc] at hs
    exact lock_stepped hpc hs
  | disconnecting guard =>
    rw [hpc] at hs
    exact answer_stepped hpc hs
  | awaiting =>
    rw [hpc] at hs
    exact await_stepped hpc hs
  | deleting ret =>
    rw [hpc] at hs
    cases hs
    exact delete_stepped hpc
  | clearing ret =>
    rw [hpc] at hs
    cases hs
    exact clear_stepped
  | closing =>
    rw [hpc] at hs
    cases hs
    have hout : tends c = false := by rw [tends, hpc]
    exact .moved rfl (fun _ h => h) rfl rfl (pc_clearing hpc (fun _ h => CallPc.noConfusion h))
      (.inr ⟨rfl, .inl hout⟩)
  | ended =>
    rw [hpc] at hs
    cases hs

theorem outside_congr (hc : t.calls = s.calls) (hn : t.nextCall = s.nextCall)
    (hk : t.connectionContext = s.connectionContext) (hh : t.contexts = s.contexts) :
    Stepped s e t := by
  refine .outside hc hn hk (fun k h => ?_) (fun h => .inl ?_)
  · rw [hh]
    exact h
  · rw [isConnected_congr hk hh]
    exact h

/-- A callback stores a state. It may do more to the context as long as it keeps the rest. -/
theorem outside_store {f : ConnectionContext → ConnectionContext} {new : ConnectionState}
    (hc : t.calls = s.calls) (hn : t.nextCall = s.nextCall)
    (hk : t.connectionContext = s.connectionContext) (hh : t.contexts = modify s.contexts k f)
    (hf : ∀ ctx, (f ctx).state = new)
    (hspoil : new ≠ .connected → s.connectionContext = some k → Spoils s e) : Stepped s e t := by
  refine .outside hc hn hk (fun p h => ?_) (fun h => ?_)
  · rw [hh]
    exact modify_live h
  · have hw : isConnected t = isConnected (writeContext s k f) := isConnected_congr hk hh
    rw [hw]
    by_cases hnew : new = .connected
    · exact .inl (write_connected (.inl (fun ctx _ => (hf ctx).trans hnew)) h)
    · by_cases hcur : s.connectionContext = some k
      · exact .inr (hspoil hnew hcur)
      · exact .inl (write_connected (.inr hcur) h)

/-- A callback locks the mutex of a context or lets go of it. -/
theorem outside_mutex {f : ConnectionContext → ConnectionContext} (hc : t.calls = s.calls)
    (hn : t.nextCall = s.nextCall) (hk : t.connectionContext = s.connectionContext)
    (hh : t.contexts = modify s.contexts k f) (hf : ∀ ctx, (f ctx).state = ctx.state) :
    Stepped s e t := by
  refine .outside hc hn hk (fun p h => ?_) (fun h => .inl ?_)
  · rw [hh]
    exact modify_live h
  · have hw : isConnected t = isConnected (writeContext s k f) := isConnected_congr hk hh
    rw [hw]
    exact write_connected (.inl (fun ctx hctx => (hf ctx).trans hctx)) h

/-- What an answer of `onDeviceConnect` writes to the context. -/
theorem answerConnection_contexts (s : Impl) (j k : Nat) (failed : Bool)
    (connection : Option Nat) : ∃ f : ConnectionContext → ConnectionContext,
      (answerConnection s j k failed connection).contexts = modify s.contexts k f ∧
      ∀ ctx, (f ctx).connection = connection ∧
        (f ctx).state = if failed || connection.isNone then .failed else .connected := by
  cases connection with
  | none =>
    refine ⟨_, modify_modify .., fun ctx => ⟨rfl, ?_⟩⟩
    rw [Option.isNone_none, Bool.or_true]
    rfl
  | some connection =>
    cases failed with
    | true => exact ⟨_, modify_modify .., fun ctx => ⟨rfl, rfl⟩⟩
    | false =>
      refine ⟨_, (congrArg (modify · k _) (modify_modify ..)).trans (modify_modify ..), ?_⟩
      exact fun ctx => ⟨rfl, rfl⟩

theorem answerConnection_stepped {ret : Ret} {connection : Option Nat} {failed : Bool}
    (hj : s.callbacks j = some (.answered k connection failed)) :
    Stepped s (.callback j ret) (answerConnection s j k failed connection) := by
  have hspoil : (if failed || connection.isNone then .failed else .connected) ≠
      ConnectionState.connected → s.connectionContext = some k → Spoils s (.callback j ret) :=
    fun hnew hcur => ⟨_, k, _, hj, rfl, hnew, hcur⟩
  obtain ⟨f, hh, hf⟩ := answerConnection_contexts s j k failed connection
  have hstate := fun ctx => (hf ctx).2
  cases connection with
  | none => exact outside_store rfl rfl rfl hh hstate hspoil
  | some connection =>
    cases failed with
    | true => exact outside_store rfl rfl rfl hh hstate hspoil
    | false => exact outside_store rfl rfl rfl hh hstate hspoil

theorem callback_stepped {ret : Ret} {pc : CallbackPc} (hj : s.callbacks j = some pc)
    (hs : callbackStep s j ret pc = some t) : Stepped s (.callback j ret) t := by
  cases pc with
  | discovered k adapterNull =>
    simp only [callbackStep, Option.ite_none_right_eq_some] at hs
    obtain ⟨_, hs⟩ := hs
    split at hs
    · rename_i hnull
      subst hnull
      cases hs
      exact outside_store rfl rfl rfl rfl (fun _ => rfl)
        (fun hnew hcur => ⟨_, k, _, hj, rfl, hnew, hcur⟩)
    · cases hs
      exact outside_mutex rfl rfl rfl rfl (fun _ => rfl)
  | connecting k =>
    cases hs
    exact outside_mutex rfl rfl rfl rfl (fun _ => rfl)
  | storing k new =>
    simp only [callbackStep, Option.ite_none_right_eq_some] at hs
    obtain ⟨_, hs⟩ := hs
    cases hs
    exact outside_store rfl rfl rfl rfl (fun _ => rfl)
      (fun hnew hcur => ⟨_, k, _, hj, rfl, hnew, hcur⟩)
  | answered k connection failed =>
    simp only [callbackStep, Option.ite_none_right_eq_some] at hs
    obtain ⟨_, hs⟩ := hs
    cases hs
    exact answerConnection_stepped hj
  | registering k connection =>
    simp only [callbackStep, Option.ite_none_right_eq_some] at hs
    obtain ⟨_, hs⟩ := hs
    cases hs
    exact outside_mutex rfl rfl rfl rfl (fun _ => rfl)
  | done => cases hs

theorem mainLoop_stepped (hs : mainLoopStep s s.mainLoop = some t) : Stepped s .mainLoop t := by
  cases hm : s.mainLoop with
  | free =>
    rw [hm] at hs
    obtain ⟨_, _, rfl⟩ := Option.map_eq_some_iff.mp hs
    exact outside_congr rfl rfl rfl rfl
  | called userData =>
    rw [hm] at hs
    cases userData with
    | zero =>
      cases hs
      exact outside_congr rfl rfl rfl rfl
    | succ k =>
      simp only [mainLoopStep, onDeviceDisconnect, Option.ite_none_right_eq_some] at hs
      obtain ⟨_, hs⟩ := hs
      cases hs
      exact outside_store rfl rfl rfl rfl (fun _ => rfl) (fun _ hcur => ⟨k, hm, hcur⟩)
  | returned =>
    rw [hm] at hs
    cases hs

theorem step_stepped (hs : clientStep s e = some t) : Stepped s e t := by
  cases e with
  | api api =>
    cases hs
    exact .begun
  | call i a =>
    obtain ⟨c, hc, hs⟩ := Option.bind_eq_some_iff.mp hs
    exact .called hc (call_stepped hs)
  | discoverConnect userData adapterNull =>
    cases userData with
    | zero => cases hs
    | succ k =>
      cases hs
      exact outside_congr rfl rfl rfl rfl
  | deviceConnect userData args garbage =>
    cases userData with
    | zero => cases hs
    | succ k =>
      cases hs
      exact outside_congr rfl rfl rfl rfl
  | callback j ret =>
    obtain ⟨pc, hj, hs⟩ := Option.bind_eq_some_iff.mp hs
    exact callback_stepped hj hs
  | mainLoop => exact mainLoop_stepped hs
  | core e =>
    obtain ⟨_, hs⟩ := Option.ite_none_right_eq_some.mp hs
    obtain ⟨_, _, rfl⟩ := Option.map_eq_some_iff.mp hs
    exact outside_congr rfl rfl rfl rfl

/-- The calls are numbered, and the client's context is allocated unless a call that has
deleted it is about to store NULL. -/
structure Owned (s : Impl) : Prop where
  fresh : ∀ i c, s.calls i = some c → i < s.nextCall
  live : Dead s → ∃ i, Clearing s i

theorem constructed_owned (h : Constructed s) : Owned s := by
  obtain ⟨core, adapter, _, _, rfl⟩ := h
  refine ⟨fun i c hc => (by cases hc), ?_⟩
  rintro ⟨k, hk, _⟩
  cases hk

theorem fresh_update (h : Owned s) (hc : s.calls i = some c)
    (ht : t.calls = Function.update s.calls i (some c')) (hn : t.nextCall = s.nextCall) :
    ∀ j d, t.calls j = some d → j < t.nextCall := by
  intro j d hd
  rw [ht] at hd
  rw [hn]
  rcases update_some hd with ⟨rfl, _⟩ | ⟨_, hd⟩
  · exact h.fresh j c hc
  · exact h.fresh j d hd

/-- The steps of one call leave the others where they are. -/
theorem others_clearing (hc : s.calls i = some c) (hpc : ∀ ret, c.pc ≠ .clearing ret)
    (ht : t.calls = Function.update s.calls i (some c')) (hj : Clearing s j) : Clearing t j := by
  obtain ⟨d, ret, hd, hret⟩ := hj
  have hne : j ≠ i := by
    rintro rfl
    rw [hc] at hd
    cases hd
    exact hpc ret hret
  refine ⟨d, ret, ?_, hret⟩
  rw [ht, Function.update_of_ne hne]
  exact hd

theorem dead_back (hk : t.connectionContext = s.connectionContext)
    (hlive : ∀ k, s.contexts.cell k ≠ none → t.contexts.cell k ≠ none) (hd : Dead t) : Dead s := by
  obtain ⟨k, hcur, hcell⟩ := hd
  rw [hk] at hcur
  refine ⟨k, hcur, ?_⟩
  by_contra hne
  exact hlive k hne hcell

theorem call_owned (h : Owned s) (hc : s.calls i = some c) (hst : CallStepped s i c a t) :
    Owned t := by
  cases hst with
  | moved hk hlive ht hn hpc hend =>
    refine ⟨fresh_update h hc ht hn, fun hd => ?_⟩
    obtain ⟨j, hj⟩ := h.live (dead_back hk hlive hd)
    exact ⟨j, others_clearing hc hpc ht hj⟩
  | allocated hpc hk hh ht hn hend =>
    refine ⟨fresh_update h hc ht hn, ?_⟩
    rintro ⟨k, hcur, hcell⟩
    rw [hk] at hcur
    cases hcur
    rw [hh, alloc_self] at hcell
    cases hcell
  | deleted hpc hpc' hk ht hn =>
    refine ⟨fresh_update h hc ht hn, fun _ => ⟨i, _, _, ?_, hpc'⟩⟩
    rw [ht, Function.update_self]
  | cleared hk ht hn =>
    refine ⟨fresh_update h hc ht hn, ?_⟩
    rintro ⟨k, hcur, _⟩
    rw [hk] at hcur
    cases hcur

theorem begin_owned (h : Owned s) (api : ApiCall) : Owned (beginCall s api) := by
  constructor
  · intro i c hc
    rcases update_some hc with ⟨rfl, _⟩ | ⟨_, hc⟩
    · exact Nat.lt_succ_self _
    · exact Nat.lt_succ_of_lt (h.fresh i c hc)
  · intro hd
    obtain ⟨i, c, ret, hc, hpc⟩ := h.live hd
    have hne : i ≠ s.nextCall := Nat.ne_of_lt (h.fresh i c hc)
    exact ⟨i, c, ret, (Function.update_of_ne hne ..).trans hc, hpc⟩

theorem step_owned (h : Owned s) (hs : clientStep s e = some t) : Owned t := by
  have hst := step_stepped hs
  clear hs
  cases hst with
  | begun => exact begin_owned h _
  | called hc ht => exact call_owned h hc ht
  | outside hc hn hk hlive hconn =>
    constructor
    · rw [hc, hn]
      exact h.fresh
    · intro hd
      obtain ⟨i, c, ret, hi, hpc⟩ := h.live (dead_back hk hlive hd)
      refine ⟨i, c, ret, ?_, hpc⟩
      rw [hc]
      exact hi

theorem reach_owned {ok : Impl → ClientEvent → Prop} (h : Reach clientStep ok Constructed s) :
    Owned s :=
  reach_invariant Owned (fun _ => constructed_owned) (fun _ _ _ ho _ hs => step_owned ho hs) h

end

end Gattlib.ClientContexts
