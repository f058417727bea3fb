import Gattlib.ClientReconnect

namespace Gattlib.ConnectedContexts

open Library.Memory Library.Transition Gattlib.State Gattlib.Client Gattlib.ClientContexts
open Gattlib.ClientReconnect (start start_constructed remote)

/-- What an `onDeviceConnect` has stored in the context of a connection attempt. -/
structure ConnectAnswer where
  context : Nat
  connection : Option Nat
  failed : Bool

/-- A step in which an `onDeviceConnect` stores its answer in a context that is allocated. -/
def answerOf (s : Impl) : ClientEvent → Option ConnectAnswer
  | .callback j _ =>
    match s.callbacks j with
    | some (.answered k connection failed) =>
      if (s.contexts.cell k).isSome then some ⟨k, connection, failed || connection.isNone⟩
      else none
    | _ => none
  | _ => none

def answers (tr : List (Impl × ClientEvent × Impl)) : List ConnectAnswer :=
  tr.filterMap (fun x => answerOf x.1 x.2.1)

def Succeeded (tr : List (Impl × ClientEvent × Impl)) (k connection : Nat) : Prop :=
  ⟨k, some connection, false⟩ ∈ answers tr

def Failed (tr : List (Impl × ClientEvent × Impl)) (k : Nat) : Prop :=
  ∃ connection, ⟨k, connection, true⟩ ∈ answers tr

/-- A context that is CONNECTED with its mutex free has the connection of an
`onDeviceConnect` that succeeded, and none is CONNECTED after one that failed. -/
structure ConnectedRight (tr : List (Impl × ClientEvent × Impl)) (s : Impl) : Prop where
  connected : ∀ k ctx, s.contexts.cell k = some ctx → ctx.locked = false →
    ctx.state = .connected → ∃ connection, ctx.connection = some connection ∧
      Succeeded tr k connection
  failed : ∀ k ctx, s.contexts.cell k = some ctx → Failed tr k → ctx.state ≠ .connected

/-- A callback that comes to store CONNECTED in a context finds that no `onDeviceConnect` has
failed on it, and the callback of the discovery finds that one has succeeded. -/
def InOrder (tr : List (Impl × ClientEvent × Impl)) (x : Impl × ClientEvent × Impl) : Prop :=
  ∀ j ret pc k ctx, x.2.1 = .callback j ret → x.1.callbacks j = some pc →
    stores pc = some (k, .connected) → x.1.contexts.cell k = some ctx →
      ¬Failed tr k ∧ (pc = .storing k .connected → ∃ connection, Succeeded tr k connection)

/-- What the answers so far say about the contexts that are allocated. -/
structure Accounted (tr : List (Impl × ClientEvent × Impl)) (s : Impl) : Prop where
  fresh : ∀ a ∈ answers tr, a.context < s.contexts.next
  connected : ∀ k ctx, s.contexts.cell k = some ctx → ctx.state = .connected →
    ¬Failed tr k ∧ ∃ connection, Succeeded tr k connection
  connection : ∀ k ctx connection, s.contexts.cell k = some ctx → ¬Failed tr k →
    Succeeded tr k connection → ∃ connection', ctx.connection = some connection' ∧
      Succeeded tr k connection'

/-- The contexts keep their connections, and none becomes CONNECTED. -/
structure Quiet (g h : Heap ConnectionContext) : Prop where
  next : h.next = g.next
  cells : ∀ k ctx', h.cell k = some ctx' → ∃ ctx, g.cell k = some ctx ∧
    ctx'.connection = ctx.connection ∧ (ctx'.state = .connected → ctx.state = .connected)

/-- A new context may have been added. -/
def Renewed (g h : Heap ConnectionContext) : Prop :=
  Quiet g h ∨ ∃ v : ConnectionContext, v.state ≠ .connected ∧ h = alloc g v

/-- What a step of a call does to the calls and to the contexts. -/
structure CallMoved (s : Impl) (i : Nat) (c : Call) (t : Impl) : Prop where
  calls : ∃ c', t.calls = Function.update s.calls i (some c') ∧ c'.api = c.api
  contexts : Renewed s.contexts t.contexts

/-- What a step does to a context that is allocated after it. -/
inductive CellStepped (s : Impl) (e : ClientEvent) (k : Nat) (ctx' : ConnectionContext) : Prop
  | fresh (hk : k = s.contexts.next) (hstate : ctx'.state ≠ .connected)
      (ha : answerOf s e = none) : CellStepped s e k ctx'
  | kept {ctx : ConnectionContext} (hctx : s.contexts.cell k = some ctx)
      (hconn : ctx'.connection = ctx.connection)
      (hstate : ctx'.state = .connected → ctx.state = .connected)
      (ha : ∀ a, answerOf s e = some a → a.context ≠ k) : CellStepped s e k ctx'
  | stored {ctx : ConnectionContext} {j : Nat} {ret : Ret} (hctx : s.contexts.cell k = some ctx)
      (hconn : ctx'.connection = ctx.connection) (he : e = .callback j ret)
      (hj : s.callbacks j = some (.storing k .connected)) (ha : answerOf s e = none) :
      CellStepped s e k ctx'
  | answered {ctx : ConnectionContext} {j : Nat} {ret : Ret} {connection : Option Nat}
      {failed : Bool} (hctx : s.contexts.cell k = some ctx) (hconn : ctx'.connection = connection)
      (hstate : ctx'.state = if failed || connection.isNone then .failed else .connected)
      (he : e = .callback j ret) (hj : s.callbacks j = some (.answered k connection failed))
      (ha : answerOf s e = some ⟨k, connection, failed || connection.isNone⟩) :
      CellStepped s e k ctx'

structure ContextsStepped (s : Impl) (e : ClientEvent) (h : Heap ConnectionContext) : Prop where
  next : s.contexts.next ≤ h.next
  cells : ∀ k ctx', h.cell k = some ctx' → CellStepped s e k ctx'

section

variable {s t x : Impl} {i j k p : Nat} {c : Call} {a : Answer} {e : ClientEvent} {ret : Ret}
variable {g h h' : Heap ConnectionContext} {ctx ctx' : ConnectionContext}
variable {tr : List (Impl × ClientEvent × Impl)}

theorem quiet_refl (h : Heap ConnectionContext) : Quiet h h :=
  ⟨rfl, fun _ ctx hctx => ⟨ctx, hctx, rfl, id⟩⟩

theorem quiet_trans (hg : Quiet g h) (hh : Quiet h h') : Quiet g h' := by
  refine ⟨hh.next.trans hg.next, fun k ctx'' hctx => ?_⟩
  obtain ⟨ctx', hctx, hconn, hstate⟩ := hh.cells k ctx'' hctx
  obtain ⟨ctx, hctx, hconn', hstate'⟩ := hg.cells k ctx' hctx
  exact ⟨ctx, hctx, hconn.trans hconn', fun h => hstate' (hstate h)⟩

theorem written_cell {f : ConnectionContext → ConnectionContext}
    (hctx : (modify h p f).cell k = some ctx') :
    ∃ ctx, h.cell k = some ctx ∧ (k = p ∧ ctx' = f ctx ∨ k ≠ p ∧ ctx' = ctx) := by
  rw [modify_cell] at hctx
  split at hctx
  · next hk =>
    subst hk
    obtain ⟨ctx, hold, rfl⟩ := Option.map_eq_some_iff.mp hctx
    exact ⟨ctx, hold, .inl ⟨rfl, rfl⟩⟩
  · next hk => exact ⟨ctx', hctx, .inr ⟨hk, rfl⟩⟩

theorem quiet_write {f : ConnectionContext → ConnectionContext}
    (hconn : ∀ ctx, (f ctx).connection = ctx.connection)
    (hstate : ∀ ctx, (f ctx).state = .connected → ctx.state = .connected) :
    Quiet h (modify h p f) := by
  refine ⟨rfl, fun k ctx' hctx => ?_⟩
  obtain ⟨ctx, hold, ⟨_, rfl⟩ | ⟨_, rfl⟩⟩ := written_cell hctx
  · exact ⟨ctx, hold, hconn ctx, hstate ctx⟩
  · exact ⟨_, hold, rfl, id⟩

theorem quiet_mutex {b : Bool} : Quiet h (modify h p (fun ctx => { ctx with locked := b })) :=
  quiet_write (fun _ => rfl) (fun _ => id)

theorem quiet_state {new : ConnectionState} (hnew : new ≠ .connected) :
    Quiet h (modify h p (fun ctx => { ctx with state := new })) :=
  quiet_write (fun _ => rfl) (fun _ hstate => absurd hstate hnew)

theorem quiet_free : Quiet h (free h p) := by
  refine ⟨rfl, fun k ctx' hctx => ?_⟩
  by_cases hk : k = p
  · subst hk
    rw [free_self] at hctx
    cases hctx
  · rw [free_ne h hk] at hctx
    exact ⟨ctx', hctx, rfl, id⟩

/-! The calls -/

theorem finish_moved {r : CallResult} (hx : x.calls = s.calls) (hq : Renewed s.contexts x.contexts) :
    CallMoved s i c (finish x i c r) := by
  rw [finish]
  split
  · exact ⟨⟨_, congrArg (Function.update · i _) hx, rfl⟩, hq⟩
  · exact ⟨⟨_, congrArg (Function.update · i _) hx, rfl⟩, hq⟩
  · exact ⟨⟨_, congrArg (Function.update · i _) hx, rfl⟩, hq⟩

theorem set_moved {pc : CallPc} (hx : x.calls = s.calls) (hq : Renewed s.contexts x.contexts) :
    CallMoved s i c (setCall x i { c with pc := pc }) :=
  ⟨⟨_, congrArg (Function.update · i _) hx, rfl⟩, hq⟩

theorem finish_kept {r : CallResult} : CallMoved s i c (finish s i c r) :=
  finish_moved rfl (.inl (quiet_refl s.contexts))

theorem set_kept {pc : CallPc} : CallMoved s i c (setCall s i { c with pc := pc }) :=
  set_moved rfl (.inl (quiet_refl s.contexts))

theorem check_moved : CallMoved s i c (connectCheck s i c) := by
  rw [connectCheck]
  split
  · exact finish_kept
  · split
    · exact finish_kept
    · exact set_kept

/-- A new context is CONNECTING, or DISCONNECTED if its address could not be copied. -/
theorem allocate_moved (o : Allocated) : CallMoved s i c (connectAllocate s i c o) := by
  cases o with
  | noMemory => exact finish_kept
  | noAddress =>
    let y : Impl := { s with
      contexts := alloc s.contexts {}
      connectionContext := some s.contexts.next }
    exact finish_moved (x := y) rfl (.inr ⟨{}, fun h => ConnectionState.noConfusion h, rfl⟩)
  | complete =>
    let y : Impl := { s with
      contexts := alloc s.contexts { address := addressArg c.api, state := .connecting }
      connectionContext := some s.contexts.next }
    exact set_moved (x := y) rfl (.inr ⟨_, fun h => ConnectionState.noConfusion h, rfl⟩)

theorem scanned_moved (r : Scanner.ScanResult) : CallMoved s i c (connectScanned s i c r) := by
  cases r with
  | returned ret =>
    rw [connectScanned]
    split
    · exact set_kept
    · exact finish_kept
  | thrown => exact finish_kept

theorem wait_moved (hs : connectWait s i c a.expired a.garbage = some t) : CallMoved s i c t := by
  rw [connectWait] at hs
  split at hs
  · cases hs
  · simp only [Option.ite_none_right_eq_some] at hs
    obtain ⟨_, hs⟩ := hs
    split at hs
    · cases hs
      rw [connectFinish]
      split
      · exact finish_kept
      · split
        · exact set_kept
        · exact set_kept
    · simp only [Option.ite_none_right_eq_some] at hs
      obtain ⟨_, hs⟩ := hs
      cases hs
      exact finish_kept

theorem look_moved : CallMoved s i c (disconnectLook s i c) := by
  rw [disconnectLook]
  split
  · exact finish_kept
  · exact set_kept

theorem lock_moved (hs : disconnectLock s i c a.garbage = some t) : CallMoved s i c t := by
  rw [disconnectLock] at hs
  split at hs
  · cases hs
  · next k _ =>
    simp only [Option.ite_none_right_eq_some] at hs
    obtain ⟨_, hs⟩ := hs
    split at hs
    · cases hs
      exact finish_kept
    · cases hs
      have hq : Quiet s.contexts (storeState (lockContext s k) k .shuttingDown).contexts :=
        quiet_trans quiet_mutex (quiet_state (fun h => ConnectionState.noConfusion h))
      exact set_moved rfl (.inl hq)

theorem answer_moved {guard : Nat} (hs : disconnectAnswer s i c guard ret = some t) :
    CallMoved s i c t := by
  rw [disconnectAnswer] at hs
  split at hs
  · cases hs
  · next k _ =>
    split at hs
    · cases hs
      have hq : Quiet s.contexts (unlockContext (storeState s k .disconnected) guard).contexts :=
        quiet_trans (quiet_state (fun h => ConnectionState.noConfusion h)) quiet_mutex
      exact set_moved rfl (.inl hq)
    · cases hs
      have hq : Quiet s.contexts (unlockContext s guard).contexts := quiet_mutex
      exact set_moved rfl (.inl hq)

theorem await_moved (hs : waitForDisconnect s i c a.expired a.garbage = some t) :
    CallMoved s i c t := by
  rw [waitForDisconnect] at hs
  split at hs
  · cases hs
    exact set_kept
  · simp only [Option.ite_none_right_eq_some] at hs
    obtain ⟨_, hs⟩ := hs
    cases hs
    exact set_kept

theorem delete_moved : CallMoved s i c (deleteContext s i c ret) := by
  rw [deleteContext]
  split
  · exact set_kept
  · next k _ =>
    let y : Impl := { s with contexts := free s.contexts k }
    exact set_moved (x := y) rfl (.inl quiet_free)

theorem clear_moved : CallMoved s i c (clearContext s i c ret) := by
  let y : Impl := { s with connectionContext := none }
  exact finish_moved (x := y) rfl (.inl (quiet_refl s.contexts))

theorem close_moved (hs : callStep s i c a .closing = some t) : CallMoved s i c t := by
  cases hs
  exact ⟨⟨_, rfl, rfl⟩, .inl (quiet_refl s.contexts)⟩

theorem call_moved (hs : callStep s i c a c.pc = some t) : CallMoved s i c t := by
  cases hpc : c.pc with
  | checking =>
    rw [hpc] at hs
    cases hs
    exact check_moved
  | allocating =>
    rw [hpc] at hs
    cases hs
    exact allocate_moved a.allocated
  | scanning =>
    rw [hpc] at hs
    cases hs
    exact scanned_moved a.scan
  | waiting =>
    rw [hpc] at hs
    exact wait_moved hs
  | looking =>
    rw [hpc] at hs
    cases hs
    exact look_moved
  | locking =>
    rw [hpc] at hs
    exact lock_moved hs
  | disconnecting guard =>
    rw [hpc] at hs
    exact answer_moved hs
  | awaiting =>
    rw [hpc] at hs
    exact await_moved hs
  | deleting ret =>
    rw [hpc] at hs
    cases hs
    exact delete_moved
  | clearing ret =>
    rw [hpc] at hs
    cases hs
    exact clear_moved
  | closing =>
    rw [hpc] at hs
    exact close_moved hs
  | ended =>
    rw [hpc] at hs
    cases hs

/-! The callbacks -/

theorem answerOf_callback {pc : CallbackPc} (hj : s.callbacks j = some pc)
    (hpc : ∀ k connection failed, pc ≠ .answered k connection failed) :
    answerOf s (.callback j ret) = none := by
  rw [answerOf, hj]
  split
  · next k connection failed h =>
    cases h
    exact absurd rfl (hpc k connection failed)
  · rfl

theorem no_answer (ha : answerOf s e = none) :
    ∀ a, answerOf s e = some a → a.context ≠ k := by
  intro a h
  rw [ha] at h
  cases h

/-- Where no answer is stored the contexts are kept, or one has been added. -/
theorem renewed_stepped (hr : Renewed s.contexts h) (ha : answerOf s e = none) :
    ContextsStepped s e h := by
  rcases hr with hq | ⟨v, hv, rfl⟩
  · refine ⟨Nat.le_of_eq hq.next.symm, fun k ctx' hctx => ?_⟩
    obtain ⟨ctx, hold, hconn, hstate⟩ := hq.cells k ctx' hctx
    exact .kept hold hconn hstate (no_answer ha)
  · refine ⟨Nat.le_succ _, fun k ctx' hctx => ?_⟩
    by_cases hk : k = s.contexts.next
    · subst hk
      rw [alloc_self] at hctx
      cases hctx
      exact .fresh rfl hv ha
    · rw [alloc_ne s.contexts v hk] at hctx
      exact .kept hctx rfl id (no_answer ha)

theorem quiet_stepped (hq : Quiet s.contexts h) (ha : answerOf s e = none) :
    ContextsStepped s e h :=
  renewed_stepped (.inl hq) ha

theorem store_stepped {new : ConnectionState} (hj : s.callbacks j = some (.storing p new)) :
    ContextsStepped s (.callback j ret) (storeState s p new).contexts := by
  have ha : answerOf s (.callback j ret) = none :=
    answerOf_callback hj (fun _ _ _ h => CallbackPc.noConfusion h)
  by_cases hnew : new = .connected
  · subst hnew
    refine ⟨Nat.le_refl _, fun k ctx' hctx => ?_⟩
    obtain ⟨ctx, hold, ⟨rfl, rfl⟩ | ⟨_, rfl⟩⟩ := written_cell hctx
    · exact .stored hold rfl rfl hj ha
    · exact .kept hold rfl id (no_answer ha)
  · exact quiet_stepped (quiet_state hnew) ha

theorem answer_stepped {connection : Option Nat} {failed : Bool}
    (hj : s.callbacks j = some (.answered p connection failed)) :
    ContextsStepped s (.callback j ret) (answerConnection s j p failed connection).contexts := by
  obtain ⟨f, hh, hf⟩ := answerConnection_contexts s j p failed connection
  rw [hh]
  refine ⟨Nat.le_refl _, fun k ctx' hctx => ?_⟩
  obtain ⟨ctx, hold, ⟨rfl, rfl⟩ | ⟨hk, rfl⟩⟩ := written_cell hctx
  · refine .answered hold (hf ctx).1 (hf ctx).2 rfl hj ?_
    simp only [answerOf, hj, hold]
    rfl
  · refine .kept hold rfl id (fun a ha => ?_)
    simp only [answerOf, hj, Option.ite_none_right_eq_some, Option.some.injEq] at ha
    obtain ⟨_, rfl⟩ := ha
    exact fun h => hk h.symm

theorem callback_contexts {pc : CallbackPc} (hj : s.callbacks j = some pc)
    (hs : callbackStep s j ret pc = some t) : ContextsStepped s (.callback j ret) t.contexts := by
  cases pc with
  | discovered p adapterNull =>
    have ha : answerOf s (.callback j ret) = none :=
      answerOf_callback hj (fun _ _ _ h => CallbackPc.noConfusion h)
    simp only [callbackStep, Option.ite_none_right_eq_some] at hs
    obtain ⟨_, hs⟩ := hs
    split at hs
    · cases hs
      exact quiet_stepped (quiet_state (fun h => ConnectionState.noConfusion h)) ha
    · cases hs
      exact quiet_stepped quiet_mutex ha
  | connecting p =>
    have ha : answerOf s (.callback j ret) = none :=
      answerOf_callback hj (fun _ _ _ h => CallbackPc.noConfusion h)
    cases hs
    exact quiet_stepped quiet_mutex ha
  | storing p new =>
    simp only [callbackStep, Option.ite_none_right_eq_some] at hs
    obtain ⟨_, hs⟩ := hs
    cases hs
    exact store_stepped hj
  | answered p connection failed =>
    simp only [callbackStep, Option.ite_none_right_eq_some] at hs
    obtain ⟨_, hs⟩ := hs
    cases hs
    exact answer_stepped hj
  | registering p connection =>
    have ha : answerOf s (.callback j ret) = none :=
      answerOf_callback hj (fun _ _ _ h => CallbackPc.noConfusion h)
    simp only [callbackStep, Option.ite_none_right_eq_some] at hs
    obtain ⟨_, hs⟩ := hs
    cases hs
    exact quiet_stepped quiet_mutex ha
  | done => cases hs

theorem mainLoop_quiet (hs : mainLoopStep s s.mainLoop = some t) :
    Quiet s.contexts t.contexts := by
  cases hm : s.mainLoop with
  | free =>
    rw [hm] at hs
    obtain ⟨_, _, rfl⟩ := Option.map_eq_some_iff.mp hs
    exact quiet_refl s.contexts
  | called userData =>
    rw [hm] at hs
    cases userData with
    | zero =>
      cases hs
      exact quiet_refl s.contexts
    | succ k =>
      simp only [mainLoopStep, onDeviceDisconnect, Option.ite_none_right_eq_some] at hs
      obtain ⟨_, hs⟩ := hs
      cases hs
      exact quiet_state (fun h => ConnectionState.noConfusion h)
  | returned =>
    rw [hm] at hs
    cases hs

theorem step_contexts (hs : clientStep s e = some t) : ContextsStepped s e t.contexts := by
  cases e with
  | api =>
    cases hs
    exact quiet_stepped (quiet_refl s.contexts) rfl
  | call i a =>
    obtain ⟨c, _, hs⟩ := Option.bind_eq_some_iff.mp hs
    exact renewed_stepped (call_moved hs).contexts rfl
  | discoverConnect userData adapterNull =>
    cases userData with
    | zero => cases hs
    | succ k =>
      cases hs
      exact quiet_stepped (quiet_refl s.contexts) rfl
  | deviceConnect userData args garbage =>
    cases userData with
    | zero => cases hs
    | succ k =>
      cases hs
      exact quiet_stepped (quiet_refl s.contexts) rfl
  | callback j ret =>
    obtain ⟨pc, hj, hs⟩ := Option.bind_eq_some_iff.mp hs
    exact callback_contexts hj hs
  | mainLoop => exact quiet_stepped (mainLoop_quiet hs) rfl
  | core e =>
    obtain ⟨_, hs⟩ := Option.ite_none_right_eq_some.mp hs
    obtain ⟨_, _, rfl⟩ := Option.map_eq_some_iff.mp hs
    exact quiet_stepped (quiet_refl s.contexts) rfl

/-! The answers so far -/

theorem mem_answers {b : ConnectAnswer} :
    b ∈ answers ((s, e, t) :: tr) ↔ answerOf s e = some b ∨ b ∈ answers tr := by
  rw [answers, List.filterMap_cons]
  cases answerOf s e with
  | none => simp [answers]
  | some a => simp [answers, eq_comm]

theorem answerOf_live {b : ConnectAnswer} (h : answerOf s e = some b) :
    b.context < s.contexts.next := by
  rw [answerOf.eq_def] at h
  split at h
  · split at h
    · obtain ⟨hlive, h⟩ := Option.ite_none_right_eq_some.mp h
      cases h
      obtain ⟨ctx, hctx⟩ := Option.isSome_iff_exists.mp hlive
      exact lt_next hctx
    · cases h
  · cases h

theorem other_failed (ha : ∀ a, answerOf s e = some a → a.context ≠ k) :
    Failed ((s, e, t) :: tr) k ↔ Failed tr k := by
  refine exists_congr (fun connection => mem_answers.trans ⟨fun h => ?_, .inr⟩)
  rcases h with h | h
  · exact absurd rfl (ha _ h)
  · exact h

theorem other_succeeded {connection : Nat} (ha : ∀ a, answerOf s e = some a → a.context ≠ k) :
    Succeeded ((s, e, t) :: tr) k connection ↔ Succeeded tr k connection := by
  refine mem_answers.trans ⟨fun h => ?_, .inr⟩
  rcases h with h | h
  · exact absurd rfl (ha _ h)
  · exact h

theorem failed_later (h : Failed tr k) : Failed ((s, e, t) :: tr) k := by
  obtain ⟨connection, h⟩ := h
  exact ⟨connection, mem_answers.mpr (.inr h)⟩

/-- The answer that is stored now is the only one that may be new. -/
theorem answered_failed {connection : Option Nat} {failed : Bool}
    (ha : answerOf s e = some ⟨k, connection, failed⟩) (h : Failed ((s, e, t) :: tr) k) :
    failed = true ∨ Failed tr k := by
  obtain ⟨connection', h⟩ := h
  rcases mem_answers.mp h with h | h
  · rw [ha] at h
    cases h
    exact .inl rfl
  · exact .inr ⟨connection', h⟩

/-! The runs -/

theorem kept_fresh (h : Accounted tr s) (hs : clientStep s e = some t) :
    ∀ a ∈ answers ((s, e, t) :: tr), a.context < t.contexts.next := by
  intro a ha
  refine Nat.lt_of_lt_of_le ?_ (step_contexts hs).next
  rcases mem_answers.mp ha with ha | ha
  · exact answerOf_live ha
  · exact h.fresh a ha

theorem kept_connected (h : Accounted tr s) (hok : InOrder tr (s, e, t))
    (hst : CellStepped s e k ctx') (hstate : ctx'.state = .connected) :
    ¬Failed ((s, e, t) :: tr) k ∧ ∃ connection, Succeeded ((s, e, t) :: tr) k connection := by
  cases hst with
  | fresh _ hfresh _ => exact absurd hstate hfresh
  | kept hctx _ hbefore ha =>
    obtain ⟨hnot, connection, hsucc⟩ := h.connected k _ hctx (hbefore hstate)
    rw [other_failed ha]
    exact ⟨hnot, connection, (other_succeeded ha).mpr hsucc⟩
  | stored hctx _ he hj ha =>
    obtain ⟨hnot, hsome⟩ := hok _ _ _ k _ he hj rfl hctx
    obtain ⟨connection, hsucc⟩ := hsome rfl
    rw [other_failed (no_answer ha)]
    exact ⟨hnot, connection, (other_succeeded (no_answer ha)).mpr hsucc⟩
  | @answered _ _ _ connection failed hctx _ hnew he hj ha =>
    cases hf : failed || connection.isNone with
    | true =>
      rw [hf, hstate] at hnew
      cases hnew
    | false =>
      have hstores : stores (.answered k connection failed) = some (k, .connected) := by
        rw [stores, hf]
        rfl
      have hnot := (hok _ _ _ k _ he hj hstores hctx).1
      rw [hf] at ha
      refine ⟨fun hfailed => ?_, ?_⟩
      · rcases answered_failed ha hfailed with hfalse | hfailed
        · cases hfalse
        · exact hnot hfailed
      · obtain ⟨handle, rfl⟩ := Option.isSome_iff_exists.mp
          (Option.isNone_eq_false_iff.mp (Bool.or_eq_false_iff.mp hf).2)
        exact ⟨handle, mem_answers.mpr (.inl ha)⟩

theorem kept_connection (h : Accounted tr s) {connection : Nat}
    (hst : CellStepped s e k ctx') (hnot : ¬Failed ((s, e, t) :: tr) k)
    (hsucc : Succeeded ((s, e, t) :: tr) k connection) :
    ∃ connection', ctx'.connection = some connection' ∧
      Succeeded ((s, e, t) :: tr) k connection' := by
  cases hst with
  | fresh hk _ ha =>
    have hlt := h.fresh _ ((other_succeeded (no_answer ha)).mp hsucc)
    exact absurd hk (Nat.ne_of_lt hlt)
  | kept hctx hconn _ ha =>
    obtain ⟨handle, hhandle, hfrom⟩ := h.connection k _ connection hctx
      (fun hfailed => hnot (failed_later hfailed)) ((other_succeeded ha).mp hsucc)
    exact ⟨handle, hconn.trans hhandle, (other_succeeded ha).mpr hfrom⟩
  | stored hctx hconn _ _ ha =>
    obtain ⟨handle, hhandle, hfrom⟩ := h.connection k _ connection hctx
      (fun hfailed => hnot (failed_later hfailed)) ((other_succeeded (no_answer ha)).mp hsucc)
    exact ⟨handle, hconn.trans hhandle, (other_succeeded (no_answer ha)).mpr hfrom⟩
  | @answered _ _ _ connection failed hctx hconn _ he hj ha =>
    cases hf : failed || connection.isNone with
    | true =>
      rw [hf] at ha
      exact absurd ⟨connection, mem_answers.mpr (.inl ha)⟩ hnot
    | false =>
      rw [hf] at ha
      obtain ⟨handle, rfl⟩ := Option.isSome_iff_exists.mp
        (Option.isNone_eq_false_iff.mp (Bool.or_eq_false_iff.mp hf).2)
      exact ⟨handle, hconn, mem_answers.mpr (.inl ha)⟩

theorem kept_accounted (h : Accounted tr s) (hok : InOrder tr (s, e, t))
    (hs : clientStep s e = some t) : Accounted ((s, e, t) :: tr) t := by
  refine ⟨kept_fresh h hs, fun k ctx hctx hstate => ?_, fun k ctx connection hctx hnot hsucc => ?_⟩
  · exact kept_connected h hok ((step_contexts hs).cells k ctx hctx) hstate
  · exact kept_connection h ((step_contexts hs).cells k ctx hctx) hnot hsucc

theorem accounted_right (h : Accounted tr s) : ConnectedRight tr s := by
  refine ⟨fun k ctx hctx _ hstate => ?_, fun k ctx hctx hfailed hstate => ?_⟩
  · obtain ⟨hnot, connection, hsucc⟩ := h.connected k ctx hctx hstate
    exact h.connection k ctx connection hctx hnot hsucc
  · exact (h.connected k ctx hctx hstate).1 hfailed

/-- What is stored shows in the state after the step. -/
theorem right_inOrder (hs : clientStep s e = some t)
    (h : ConnectedRight ((s, e, t) :: tr) t) : InOrder tr (s, e, t) := by
  rintro j ret pc k ctx he hj hstores hctx
  have he : e = .callback j ret := he
  have hj : s.callbacks j = some pc := hj
  have hctx : s.contexts.cell k = some ctx := hctx
  subst he
  obtain ⟨pc', hj', hs⟩ := Option.bind_eq_some_iff.mp hs
  rw [hj] at hj'
  cases hj'
  cases pc with
  | storing p new =>
    cases hstores
    have ha : answerOf s (.callback j ret) = none :=
      answerOf_callback hj (fun _ _ _ h => CallbackPc.noConfusion h)
    simp only [callbackStep, Option.ite_none_right_eq_some] at hs
    obtain ⟨hfree, hs⟩ := hs
    cases hs
    have hcell : (storeState s k .connected).contexts.cell k =
        some { ctx with state := .connected } := by
      rw [storeState, writeContext, modify_self, hctx]
      rfl
    have hunlocked : ctx.locked = false := by
      rw [canLock, hctx] at hfree
      exact (Bool.not_eq_true' _).mp hfree
    obtain ⟨connection, _, hsucc⟩ := h.connected k _ hcell hunlocked rfl
    refine ⟨fun hfailed => h.failed k _ hcell (failed_later hfailed) rfl, fun _ => ?_⟩
    exact ⟨connection, (other_succeeded (no_answer ha)).mp hsucc⟩
  | answered p connection failed =>
    simp only [stores, Option.some.injEq, Prod.mk.injEq] at hstores
    obtain ⟨rfl, hnew⟩ := hstores
    simp only [callbackStep, Option.ite_none_right_eq_some] at hs
    obtain ⟨_, hs⟩ := hs
    cases hs
    obtain ⟨f, hh, hf⟩ := answerConnection_contexts s j p failed connection
    have hcell : (answerConnection s j p failed connection).contexts.cell p = some (f ctx) := by
      rw [hh, modify_self, hctx]
      rfl
    refine ⟨fun hfailed => ?_, fun hpc => CallbackPc.noConfusion hpc⟩
    exact h.failed p _ hcell (failed_later hfailed) ((hf ctx).2.trans hnew)
  | discovered p adapterNull =>
    cases adapterNull with
    | true => cases hstores
    | false => cases hstores
  | connecting | registering | done => cases hstores

theorem constructed_accounted (h : Constructed s) : Accounted [] s := by
  obtain ⟨core, adapter, _, _, rfl⟩ := h
  refine ⟨fun a ha => absurd ha List.not_mem_nil, fun k ctx hctx => ?_,
    fun k ctx connection hctx => ?_⟩
  · cases hctx
  · cases hctx

end

/-- In all states of a run CONNECTED means that there is a connection exactly if the callbacks
come in order. -/
theorem connected_right {tr : List (Impl × ClientEvent × Impl)} {s : Impl}
    (h : Run clientStep Constructed tr s) :
    Throughout (fun tr x => ConnectedRight (x :: tr) x.2.2) tr ↔ Throughout InOrder tr := by
  refine (throughout_iff (fun _ => constructed_accounted)
    (fun _ _ _ _ hheld hok hs => kept_accounted hheld hok hs) (fun tr s e t hheld hs => ?_) h).1
  exact ⟨right_inOrder hs, fun hok => accounted_right (kept_accounted hheld hok hs)⟩

/-- A device is discovered, and `functions->connect` is called for it. -/
def connectingEvents : List ClientEvent :=
  [.api (.connect 10 remote), .call 0 {}, .call 0 {}, .discoverConnect (contextPtr 0) false,
    .callback 0 gattlibSuccess]

/-- `functions->connect` has only started to connect when it returns. -/
theorem connected_early : ¬∀ (tr : List (Impl × ClientEvent × Impl)) (s : Impl),
    Run clientStep Constructed tr s →
      Throughout (fun tr x => ConnectedRight (x :: tr) x.2.2) tr := by
  intro h
  have hstart : Run clientStep Constructed [] start := .start start_constructed
  obtain ⟨tr, hrun, _⟩ := run_exec hstart (connectingEvents ++ [.callback 0 gattlibSuccess]) rfl
  have hstored := Run.next (e := .callback 0 gattlibSuccess) hrun rfl
  obtain ⟨connection, hconn, _⟩ := (h _ _ hstored).1.connected 0 _ rfl rfl rfl
  cases hconn

/-- The connection is there before `functions->connect` returns. -/
theorem connected_answered : ∃ tr s, Run clientStep Constructed tr s ∧
    Throughout (fun tr x => ConnectedRight (x :: tr) x.2.2) tr ∧
    (s.contexts.cell 0).map ConnectionContext.state = some .connected ∧
    connectionOf s 0 = some 0 := by
  have hother : ∀ {tr : List (Impl × ClientEvent × Impl)} {s t e},
      (∀ j ret, e ≠ .callback j ret) → InOrder tr (s, e, t) :=
    fun he j ret _ _ _ h => absurd h (he j ret)
  have hnone : ∀ {tr : List (Impl × ClientEvent × Impl)} {s t j ret pc},
      s.callbacks j = some pc → stores pc = none → InOrder tr (s, .callback j ret, t) := by
    intro tr s t j ret pc hj hstores j' ret' pc' k ctx he hj' hstores' _
    cases he
    cases hj.symm.trans hj'
    rw [hstores] at hstores'
    cases hstores'
  have hstart : Run clientStep Constructed [] start ∧ Throughout InOrder [] :=
    ⟨.start start_constructed, trivial⟩
  have hbegun := throughout_next (e := ClientEvent.api (.connect 10 remote)) hstart
    (hother (fun _ _ h => by cases h)) rfl
  have hchecked := throughout_next (e := ClientEvent.call 0 {}) hbegun
    (hother (fun _ _ h => by cases h)) rfl
  have hscanning := throughout_next (e := ClientEvent.call 0 {}) hchecked
    (hother (fun _ _ h => by cases h)) rfl
  have hdiscovered := throughout_next (e := ClientEvent.discoverConnect (contextPtr 0) false)
    hscanning (hother (fun _ _ h => by cases h)) rfl
  have hconnecting := throughout_next (e := ClientEvent.callback 0 gattlibSuccess) hdiscovered
    (hnone rfl rfl) rfl
  have hcalled := throughout_next (e := ClientEvent.deviceConnect (contextPtr 0)
    { dst := remote, connection := some 0 } remote) hconnecting
    (hother (fun _ _ h => by cases h)) rfl
  have hreturned := throughout_next (e := ClientEvent.callback 0 gattlibSuccess) hcalled
    (hnone rfl rfl) rfl
  have hanswered := throughout_next (e := ClientEvent.callback 1 gattlibSuccess) hreturned (by
    rintro j ret pc k ctx he hj hstores _
    cases he
    cases hj
    cases hstores
    refine ⟨?_, fun hpc => CallbackPc.noConfusion hpc⟩
    rintro ⟨connection, h⟩
    cases h) rfl
  have hregistered := throughout_next (e := ClientEvent.callback 1 gattlibSuccess) hanswered
    (hnone rfl rfl) rfl
  have hstored := throughout_next (e := ClientEvent.callback 0 gattlibSuccess) hregistered (by
    rintro j ret pc k ctx he hj hstores _
    cases he
    cases hj
    cases hstores
    refine ⟨?_, fun _ => ⟨0, List.mem_cons_self⟩⟩
    rintro ⟨connection, h⟩
    obtain h := List.mem_singleton.mp h
    cases h) rfl
  exact ⟨_, _, hstored.1, (connected_right hstored.1).mpr hstored.2, rfl, rfl⟩

end Gattlib.ConnectedContexts
