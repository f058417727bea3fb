import Gattlib.AttTransport
import Mathlib.Logic.Function.Basic

namespace Gattlib.AttEdits

open AttPdus AttTransport Relation

/-- The queues of a bearer. One operation of each of the first two may be under way. -/
inductive AttQueue
  | req | ind | write
  deriving DecidableEq

/-- `bt_att_send` chooses the queue by the type. -/
def queueOf : AttOpType → AttQueue
  | .req => .req
  | .ind => .ind
  | _ => .write

variable {υ : Type}

def queues (att : BtAtt υ) : AttQueue → List (AttSendOp υ)
  | .req => att.reqQueue
  | .ind => att.indQueue
  | .write => att.writeQueue

def pendings (att : BtAtt υ) : AttQueue → Option (AttSendOp υ)
  | .req => att.pendingReq
  | .ind => att.pendingInd
  | .write => none

/-- An operation whose callback has been called has none any more. -/
def heard (called : Bool) (op : AttSendOp υ) : AttSendOp υ :=
  { op with callback := op.callback && !called }

/-- What freeing an operation does. -/
def freed (op : AttSendOp υ) : List (Effect υ) :=
  if op.destroy then [.destroyed op.pdu op.userData] else []

/-- What there is of the operations: in their queues, under way, and in the hands of a function that
has taken them out. -/
structure Core (υ : Type) where
  io : Bool
  queue : AttQueue → List (AttSendOp υ)
  pending : AttQueue → Option (AttSendOp υ)
  hand : List (AttSendOp υ)
  log : List (Effect υ)

/-- The operations of a bearer. The callbacks of those under way that `calling` names have been called. -/
def core (calling : AttQueue → Bool) (hand : List (AttSendOp υ)) (att : BtAtt υ) : Core υ where
  io := att.io
  queue := queues att
  pending k := (pendings att k).map (heard (calling k))
  hand := hand
  log := att.log

/-- Effects that have nothing to do with one operation. -/
def Neutral : Effect υ → Prop
  | .accepted _ | .called .. | .destroyed .. => False
  | .written sent _ => getOpType sent.opcode ≠ .req
  | .received _ | .notified .. | .shutdown => True

/-- What users can do to the operations. Taking one back is `early`, before its callback. -/
inductive UserEdit (early : Prop) (c : Core υ) : Core υ → Prop
  | accept (op : AttSendOp υ) (hio : c.io = true)
      (hawaited : op.callback = true ↔ queueOf op.type ≠ .write) :
      UserEdit early c { c with
        queue := Function.update c.queue (queueOf op.type) (c.queue (queueOf op.type) ++ [op])
        log := c.log ++ [.accepted op] }
  | drop (k : AttQueue) (op : AttSendOp υ) (l r : List (AttSendOp υ)) (hq : c.queue k = l ++ op :: r)
      (he : early) :
      UserEdit early c { c with queue := Function.update c.queue k (l ++ r), log := c.log ++ freed op }
  | cancel (k : AttQueue) (op : AttSendOp υ) (hp : c.pending k = some op) (he : early) :
      UserEdit early c { c with
        pending := Function.update c.pending k (some op.cancelled), log := c.log ++ freed op }

/-- What the bearer does to the operations. -/
inductive Edit (early : Prop) (c : Core υ) : Core υ → Prop
  | user {c' : Core υ} (h : UserEdit early c c') : Edit early c c'
  | take (k : AttQueue) (op : AttSendOp υ) (rest : List (AttSendOp υ)) (hq : c.queue k = op :: rest)
      (hfree : c.pending k = none ∨ c.io = false) :
      Edit early c { c with queue := Function.update c.queue k rest, hand := c.hand ++ [op] }
  | await (op op' : AttSendOp υ) (hio : c.io = true) (hh : c.hand = [op]) (hk : queueOf op.type ≠ .write)
      (hp : c.pending (queueOf op.type) = none) (hsame : ∃ t, op' = { op with timeoutId := t }) :
      Edit early c { c with
        pending := Function.update c.pending (queueOf op.type) (some op')
        hand := [], log := c.log ++ [.written op.pdu op.userData] }
  | callHand (op : AttSendOp υ) (rest : List (AttSendOp υ)) (opcode : UInt8) (pdu : List UInt8)
      (hh : c.hand = op :: rest) (hc : op.callback = true) :
      Edit early c { c with
        hand := heard true op :: rest, log := c.log ++ [.called op.pdu op.userData opcode pdu] }
  | callPending (k : AttQueue) (op : AttSendOp υ) (opcode : UInt8) (pdu : List UInt8)
      (hh : c.hand = []) (hp : c.pending k = some op) (hc : op.callback = true) :
      Edit early c { c with
        pending := Function.update c.pending k (some (heard true op))
        log := c.log ++ [.called op.pdu op.userData opcode pdu] }
  | freeHand (op : AttSendOp υ) (rest : List (AttSendOp υ)) (hh : c.hand = op :: rest)
      (he : op.callback = true → early) : Edit early c { c with hand := rest, log := c.log ++ freed op }
  | freePending (k : AttQueue) (op : AttSendOp υ) (hp : c.pending k = some op)
      (he : op.callback = true → early) :
      Edit early c { c with pending := Function.update c.pending k none, log := c.log ++ freed op }
  | retry (op : AttSendOp υ) (hio : c.io = true) (hp : c.pending .req = some op) :
      Edit early c { c with
        pending := Function.update c.pending .req none
        queue := Function.update c.queue .req (op :: c.queue .req) }
  | note (e : Effect υ) (h : Neutral e) : Edit early c { c with log := c.log ++ [e] }

/-- The operation is of the type of the queue, and has a callback only where there is an answer to it. -/
def Fits (k : AttQueue) (op : AttSendOp υ) : Prop :=
  queueOf op.type = k ∧ (k = .write → op.callback = false)

structure Sorted (c : Core υ) : Prop where
  queued : ∀ k, ∀ op ∈ c.queue k, Fits k op
  under : ∀ k, ∀ op ∈ c.pending k, queueOf op.type = k

/-- The call takes nothing back. -/
def Calm : UserCall υ → Prop
  | .send .. | .setMtu _ => True
  | .cancel _ | .cancelAll => False

/-- The users take nothing back when they are called. -/
def Quiet (users : Users υ) : Prop := ∀ e, ∀ c ∈ users e, Calm c

/-- The event makes nobody take an operation back, and no time runs out. -/
def CalmEvent : AttEvent υ → Prop
  | .call c => Calm c
  | .writable users _ | .readable users _ _ | .hungUp users => Quiet users
  | .timedOut _ => False
  | .register _ | .unregister _ | .writeEnded | .readEnded => True

abbrev Edits (early : Prop) : Core υ → Core υ → Prop := ReflTransGen (Edit early)
abbrev UserEdits (early : Prop) : Core υ → Core υ → Prop := ReflTransGen (UserEdit early)

section

variable {early : Prop} {calling : AttQueue → Bool} {hand : List (AttSendOp υ)} {att att' : BtAtt υ}
  {op : AttSendOp υ} {q : List (AttSendOp υ)} {users : Users υ} {k : AttQueue}

/-! The parts of a bearer that matter -/

/-- Two bearers with the same operations. -/
structure SameOps (att att' : BtAtt υ) : Prop where
  io : att'.io = att.io
  queues : queues att' = queues att
  pendings : pendings att' = pendings att
  log : att'.log = att.log

theorem core_eq {io : Bool} {Q : AttQueue → List (AttSendOp υ)} {P : AttQueue → Option (AttSendOp υ)}
    {L : List (Effect υ)} (hio : att.io = io) (hq : queues att = Q)
    (hp : (fun k => (pendings att k).map (heard (calling k))) = P) (hl : att.log = L) :
    core calling hand att = ⟨io, Q, P, hand, L⟩ := by
  subst hio hq hp hl
  rfl

theorem core_same (h : SameOps att att') : core calling hand att' = core calling hand att := by
  rw [core, core, h.io, h.queues, h.pendings, h.log]

theorem wakeup_same (att : BtAtt υ) : SameOps att (wakeupWriter att) := by
  rw [wakeupWriter]
  split
  · exact ⟨rfl, rfl, rfl, rfl⟩
  · split <;> exact ⟨rfl, rfl, rfl, rfl⟩

theorem callDestroy_log (att : BtAtt υ) (op : AttSendOp υ) :
    att.callDestroy op = { att with log := att.log ++ freed op } := by
  rw [BtAtt.callDestroy, freed]
  split
  · rfl
  · rw [List.append_nil]

theorem destroy_core (att : BtAtt υ) (op : AttSendOp υ) :
    core calling hand (destroyAttSendOp att op) =
      { core calling hand att with log := att.log ++ freed op } := by
  rw [destroyAttSendOp, callDestroy_log]
  rfl

theorem destroy_parts (att : BtAtt υ) (op : AttSendOp υ) : (destroyAttSendOp att op).io = att.io ∧
    queues (destroyAttSendOp att op) = queues att ∧ pendings (destroyAttSendOp att op) = pendings att ∧
      (destroyAttSendOp att op).log = att.log ++ freed op := by
  rw [destroyAttSendOp, callDestroy_log]
  refine ⟨rfl, ?_, ?_, rfl⟩ <;>
    · funext k
      cases k <;> rfl

theorem destroyAll_core (q : List (AttSendOp υ)) (att : BtAtt υ) :
    core calling hand (q.foldl destroyAttSendOp att) =
      { core calling hand att with log := att.log ++ q.flatMap freed } := by
  induction q generalizing att with
  | nil =>
    rw [List.flatMap_nil, List.append_nil]
    rfl
  | cons op q ih =>
    have hlog : (destroyAttSendOp att op).log = att.log ++ freed op := by
      rw [destroyAttSendOp, callDestroy_log]
    rw [List.foldl_cons, ih, destroy_core, hlog, List.flatMap_cons, List.append_assoc]

theorem queues_set (att : BtAtt υ) (q : List (AttSendOp υ)) :
    queues { att with reqQueue := q } = Function.update (queues att) .req q ∧
      queues { att with indQueue := q } = Function.update (queues att) .ind q ∧
        queues { att with writeQueue := q } = Function.update (queues att) .write q := by
  refine ⟨?_, ?_, ?_⟩ <;>
    · funext k
      cases k <;> rfl

theorem pendings_set (calling : AttQueue → Bool) (att : BtAtt υ) (o : Option (AttSendOp υ)) :
    ((fun k => (pendings { att with pendingReq := o } k).map (heard (calling k))) =
        Function.update (fun k => (pendings att k).map (heard (calling k))) .req (o.map (heard (calling .req)))) ∧
      ((fun k => (pendings { att with pendingInd := o } k).map (heard (calling k))) =
        Function.update (fun k => (pendings att k).map (heard (calling k))) .ind
          (o.map (heard (calling .ind)))) := by
  refine ⟨?_, ?_⟩ <;>
    · funext k
      cases k <;> rfl

theorem clear_parts (att : BtAtt υ) :
    (queues { att with pendingReq := none } = queues att ∧
        pendings { att with pendingReq := none } = Function.update (pendings att) .req none) ∧
      (queues { att with pendingInd := none } = queues att ∧
        pendings { att with pendingInd := none } = Function.update (pendings att) .ind none) := by
  refine ⟨⟨?_, ?_⟩, ?_, ?_⟩ <;>
    · funext k
      cases k <;> rfl

/-! What users do -/

theorem create_awaited {mtu : ℕ} {id : BitVec 32} {pdu : Pdu} {callback destroy : Bool} {userData : Option υ}
    (h : createAttSendOp mtu id pdu callback destroy userData = some op) :
    op = ⟨id, 0, pdu, callback, destroy, userData⟩ ∧
      (op.callback = true ↔ queueOf op.type ≠ .write) := by
  simp only [createAttSendOp] at h
  split at h
  · cases h
  · split at h
    · cases h
    · rename_i hneedless
      split at h
      · cases h
      · rename_i hneeded
        split at h
        · cases h
        · obtain rfl := Option.some.inj h
          refine ⟨rfl, ?_⟩
          show callback = true ↔ queueOf (getOpType pdu.opcode) ≠ .write
          cases callback <;> cases htype : getOpType pdu.opcode <;> simp_all [queueOf]

theorem enqueue_queues (att : BtAtt υ) (op : AttSendOp υ) : queues (enqueue att op) =
    Function.update (queues att) (queueOf op.type) (queues att (queueOf op.type) ++ [op]) := by
  rw [enqueue]
  cases op.type <;>
    · funext k
      cases k <;> rfl

theorem enqueue_kept (att : BtAtt υ) (op : AttSendOp υ) :
    (enqueue att op).io = att.io ∧ pendings (enqueue att op) = pendings att ∧ (enqueue att op).log = att.log := by
  rw [enqueue]
  cases op.type <;> exact ⟨rfl, rfl, rfl⟩

theorem send_edits (early : Prop) (calling : AttQueue → Bool) (hand : List (AttSendOp υ)) (att : BtAtt υ)
    (pdu : Pdu) (callback destroy : Bool) (userData : Option υ) :
    UserEdits early (core calling hand att)
      (core calling hand (btAttSend att pdu callback destroy userData).1) := by
  simp only [btAttSend]
  split
  · exact .refl
  · rename_i hio
    split
    · exact .refl
    · rename_i op hop
      obtain ⟨-, hawaited⟩ := create_awaited hop
      rw [core_same (wakeup_same _)]
      refine .single ?_
      obtain ⟨hsame, hpendings, hlog⟩ := enqueue_kept { att with nextSendId := freshId att.nextSendId + 1 } op
      have hcore : core calling hand ((enqueue { att with nextSendId := freshId att.nextSendId + 1 } op).emit
          (.accepted op)) = { core calling hand att with
            queue := Function.update (queues att) (queueOf op.type) (queues att (queueOf op.type) ++ [op])
            log := att.log ++ [.accepted op] } := by
        refine core_eq hsame (enqueue_queues _ op) ?_ (congrArg (· ++ [Effect.accepted op]) hlog)
        exact congrArg (fun P : AttQueue → Option (AttSendOp υ) => fun k => (P k).map (heard (calling k)))
          hpendings
      rw [hcore]
      exact .accept op (not_not.mp hio) hawaited

theorem cancelPending_edits (he : early) (k : AttQueue) (hp : pendings att k = some op)
    (hio : att'.io = att.io) (hq : queues att' = queues att) (hlog : att'.log = att.log ++ freed op)
    (hp' : (fun k => (pendings att' k).map (heard (calling k))) =
      Function.update (fun k => (pendings att k).map (heard (calling k))) k
        ((some op.cancelled).map (heard (calling k)))) :
    UserEdits early (core calling hand att) (core calling hand att') := by
  have hpending : (core calling hand att).pending k = some (heard (calling k) op) := by
    show (pendings att k).map _ = _
    rw [hp]
    rfl
  rw [core_eq hio hq hp' hlog]
  exact .single (.cancel k _ hpending he)

theorem removeOp_split {id : BitVec 32} {rest : List (AttSendOp υ)} (h : removeOp id q = some (op, rest)) :
    ∃ l r, q = l ++ op :: r ∧ rest = l ++ r := by
  obtain ⟨op', hfind, hpair⟩ := Option.map_eq_some_iff.mp h
  cases hpair
  clear h
  induction q with
  | nil => cases hfind
  | cons a q ih =>
    rw [List.find?_cons] at hfind
    rw [List.eraseP_cons]
    cases ha : a.id == id with
    | true =>
      rw [ha] at hfind
      cases hfind
      exact ⟨[], q, rfl, rfl⟩
    | false =>
      rw [ha] at hfind
      obtain ⟨l, r, hq, hrest⟩ := ih hfind
      exact ⟨a :: l, r, by rw [hq]; rfl, by rw [hrest]; rfl⟩

theorem drop_edits (he : early) (k : AttQueue) {l r : List (AttSendOp υ)} (hq : queues att k = l ++ op :: r)
    (hio : att'.io = att.io) (hq' : queues att' = Function.update (queues att) k (l ++ r))
    (hp : pendings att' = pendings att) (hlog : att'.log = att.log ++ freed op) :
    UserEdits early (core calling hand att) (core calling hand att') := by
  have hp' := congrArg (fun P : AttQueue → Option (AttSendOp υ) => fun k => (P k).map (heard (calling k))) hp
  rw [core_eq hio hq' hp' hlog]
  exact .single (.drop k op l r hq he)

theorem cancel_edits (he : early) (calling : AttQueue → Bool) (hand : List (AttSendOp υ)) (att : BtAtt υ)
    (id : BitVec 32) : UserEdits early (core calling hand att) (core calling hand (btAttCancel att id)) := by
  rw [btAttCancel]
  split
  · exact .refl
  · split
    · rename_i op _ hop
      obtain ⟨hpending, -⟩ := Option.filter_eq_some_iff.mp hop
      rw [callDestroy_log]
      exact cancelPending_edits he .req hpending rfl rfl rfl (pendings_set calling att _).1
    · rename_i op _ hop
      obtain ⟨hpending, -⟩ := Option.filter_eq_some_iff.mp hop
      rw [callDestroy_log]
      exact cancelPending_edits he .ind hpending rfl rfl rfl (pendings_set calling att _).2
    · split
      · rename_i op rest hop
        obtain ⟨l, r, hq, rfl⟩ := removeOp_split hop
        rw [core_same (wakeup_same _), destroyAttSendOp, callDestroy_log]
        exact drop_edits he .req hq rfl (queues_set att _).1 rfl rfl
      · rename_i op rest _ hop
        obtain ⟨l, r, hq, rfl⟩ := removeOp_split hop
        rw [core_same (wakeup_same _), destroyAttSendOp, callDestroy_log]
        exact drop_edits he .ind hq rfl (queues_set att _).2.1 rfl rfl
      · rename_i op rest _ _ hop
        obtain ⟨l, r, hq, rfl⟩ := removeOp_split hop
        rw [core_same (wakeup_same _), destroyAttSendOp, callDestroy_log]
        exact drop_edits he .write hq rfl (queues_set att _).2.2 rfl rfl
      · exact .refl

theorem dropAll_edits (he : early) (k : AttQueue) (q : List (AttSendOp υ)) {c : Core υ} (hq : c.queue k = q) :
    UserEdits early c { c with queue := Function.update c.queue k [], log := c.log ++ q.flatMap freed } := by
  induction q generalizing c with
  | nil =>
    have hsame : Function.update c.queue k [] = c.queue := by
      rw [← hq]
      exact Function.update_eq_self k c.queue
    rw [hsame, List.flatMap_nil, List.append_nil]
  | cons op q ih =>
    have hfirst : UserEdit early c { c with
        queue := Function.update c.queue k q, log := c.log ++ freed op } := .drop k op [] q hq he
    have hrest := ih (c := { c with queue := Function.update c.queue k q, log := c.log ++ freed op })
      (Function.update_self _ _ _)
    rw [List.flatMap_cons, ← List.append_assoc]
    simp only [Function.update_idem] at hrest
    exact .head hfirst hrest

theorem cancelPendings_edits (he : early) (calling : AttQueue → Bool) (hand : List (AttSendOp υ))
    (att : BtAtt υ) :
    UserEdits early (core calling hand att) (core calling hand (cancelPendingReq att)) ∧
      UserEdits early (core calling hand att) (core calling hand (cancelPendingInd att)) := by
  refine ⟨?_, ?_⟩
  · rw [cancelPendingReq]
    split
    · exact .refl
    · rename_i op hop
      rw [callDestroy_log]
      exact cancelPending_edits he .req hop rfl rfl rfl (pendings_set calling att _).1
  · rw [cancelPendingInd]
    split
    · exact .refl
    · rename_i op hop
      rw [callDestroy_log]
      exact cancelPending_edits he .ind hop rfl rfl rfl (pendings_set calling att _).2

theorem cancelAll_edits (he : early) (calling : AttQueue → Bool) (hand : List (AttSendOp υ))
    (att : BtAtt υ) : UserEdits early (core calling hand att) (core calling hand (btAttCancelAll att)) := by
  have hempty : ∀ (k : AttQueue) (q : List (AttSendOp υ)) (att att' : BtAtt υ), queues att k = q →
      att'.io = att.io → queues att' = Function.update (queues att) k [] → pendings att' = pendings att →
      att'.log = att.log →
      UserEdits early (core calling hand att) (core calling hand (q.foldl destroyAttSendOp att')) := by
    intro k q att att' hk hio hq hp hlog
    have hp' := congrArg (fun P : AttQueue → Option (AttSendOp υ) => fun k => (P k).map (heard (calling k))) hp
    rw [destroyAll_core, core_eq hio hq hp' hlog, hlog]
    exact dropAll_edits he k q hk
  simp only [btAttCancelAll]
  refine .trans (hempty .req att.reqQueue att { att with reqQueue := [] } rfl rfl (queues_set att _).1 rfl rfl) ?_
  generalize att.reqQueue.foldl destroyAttSendOp { att with reqQueue := [] } = att₁
  refine .trans (hempty .ind att₁.indQueue att₁ { att₁ with indQueue := [] } rfl rfl (queues_set att₁ _).2.1 rfl rfl) ?_
  generalize att₁.indQueue.foldl destroyAttSendOp { att₁ with indQueue := [] } = att₂
  refine .trans (hempty .write att₂.writeQueue att₂ { att₂ with writeQueue := [] } rfl rfl (queues_set att₂ _).2.2 rfl rfl) ?_
  exact .trans (cancelPendings_edits he calling hand _).1 (cancelPendings_edits he calling hand _).2

theorem userCall_edits (calling : AttQueue → Bool) (hand : List (AttSendOp υ)) (att : BtAtt υ) (c : UserCall υ)
    (he : ¬Calm c → early) :
    UserEdits early (core calling hand att) (core calling hand (userCall att c)) := by
  cases c with
  | send pdu callback destroy userData => exact send_edits early calling hand att pdu callback destroy userData
  | cancel id => exact cancel_edits (he not_false) calling hand att id
  | cancelAll => exact cancelAll_edits (he not_false) calling hand att
  | setMtu mtu =>
    rw [userCall, btAttSetMtu]
    split <;> exact .refl

theorem userCalls_edits (calling : AttQueue → Bool) (hand : List (AttSendOp υ)) (att : BtAtt υ)
    (calls : List (UserCall υ)) (he : (∃ c ∈ calls, ¬Calm c) → early) :
    UserEdits early (core calling hand att) (core calling hand (calls.foldl userCall att)) := by
  induction calls generalizing att with
  | nil => exact .refl
  | cons c calls ih =>
    have hfirst := userCall_edits calling hand att c fun hc => he ⟨c, List.mem_cons_self, hc⟩
    refine .trans hfirst (ih (userCall att c) ?_)
    rintro ⟨c', hc', hcalm⟩
    exact he ⟨c', List.mem_cons_of_mem _ hc', hcalm⟩

/-- Whether something is under way is not up to users. -/
theorem userEdits_pending {c c' : Core υ} (h : UserEdits early c c') (k : AttQueue) :
    (c'.pending k).isSome = (c.pending k).isSome := by
  induction h with
  | refl => rfl
  | tail _ h ih =>
    cases h with
    | accept | drop => exact ih
    | cancel k' op hp he =>
      rw [← ih]
      by_cases hk : k = k'
      · subst hk
        simp [hp]
      · simp [Function.update_of_ne hk]

/-! Callbacks -/

theorem user_edits {c c' : Core υ} (h : UserEdits early c c') : Edits early c c' :=
  h.lift id fun _ _ h => .user h

theorem reaction_edits (calling : AttQueue → Bool) (hand : List (AttSendOp υ)) (users : Users υ)
    (he : ¬Quiet users → early) (att : BtAtt υ) (e : Effect υ) :
    UserEdits early { core calling hand att with log := att.log ++ [e] }
      (core calling hand (callUser users att e)) := by
  refine userCalls_edits calling hand (att.emit e) (users e) ?_
  rintro ⟨c, hc, hcalm⟩
  exact he fun hquiet => hcalm (hquiet e c hc)

theorem heard_silent {called : Bool} (h : called = false ∨ op.callback = false) : heard called op = op := by
  cases op with
  | mk id timeoutId pdu callback destroy userData =>
    rcases h with rfl | h
    · simp [heard]
    · cases h
      rfl

theorem callHand_edits (calling : AttQueue → Bool) (rest : List (AttSendOp υ)) (users : Users υ)
    (he : ¬Quiet users → early) (att : BtAtt υ) (op : AttSendOp υ) (opcode : UInt8) (pdu : List UInt8) :
    Edits early (core calling (op :: rest) att)
      (core calling (heard true op :: rest) (callCallback users att op opcode pdu)) := by
  rw [callCallback]
  split
  · rename_i hc
    refine .head (.callHand op rest opcode pdu rfl hc) (user_edits ?_)
    exact reaction_edits calling (heard true op :: rest) users he att (.called op.pdu op.userData opcode pdu)
  · rename_i hc
    rw [heard_silent (.inr (Bool.eq_false_iff.mpr hc))]

theorem disc_edits (calling : AttQueue → Bool) (rest : List (AttSendOp υ)) (users : Users υ)
    (he : ¬Quiet users → early) (att : BtAtt υ) (op : AttSendOp υ) :
    Edits early (core calling (op :: rest) att) (core calling rest (discAttSendOp users att op)) := by
  refine .trans (callHand_edits calling rest users he att op attOpError []) ?_
  rw [discAttSendOp, destroy_core]
  refine .single (.freeHand (heard true op) rest rfl ?_)
  simp [heard]

theorem discAll_edits (calling : AttQueue → Bool) (q : List (AttSendOp υ)) (users : Users υ)
    (he : ¬Quiet users → early) (att : BtAtt υ) :
    Edits early (core calling q att) (core calling [] (q.foldl (discAttSendOp users) att)) := by
  induction q generalizing att with
  | nil => exact .refl
  | cons op q ih => exact .trans (disc_edits calling q users he att op) (ih _)

/-- An operation under way is called back, and freed as its callback leaves it. -/
theorem finish_edits (users : Users υ) (he : ¬Quiet users → early) {opcode : UInt8} {pdu : List UInt8}
    {att'' : BtAtt υ} {op' : AttSendOp υ} (k : AttQueue) (hcalling : calling k = false)
    (hp : pendings att k = some op) (hatt' : att' = callCallback users att op opcode pdu)
    (hp' : pendings att' k = some op') (hio : att''.io = att'.io) (hq : queues att'' = queues att')
    (hp'' : pendings att'' = Function.update (pendings att') k none) (hlog : att''.log = att'.log ++ freed op') :
    Edits early (core calling [] att) (core calling [] att'') := by
  have hfirst : (core calling [] att).pending k = some op := by
    show (pendings att k).map (heard (calling k)) = _
    rw [hp, hcalling, Option.map_some, heard_silent (.inl rfl)]
  have hmid : Edits early (core calling [] att) (core (Function.update calling k true) [] att') := by
    have hmask : (fun j => (pendings att j).map (heard (Function.update calling k true j))) =
        Function.update (core calling [] att).pending k (some (heard true op)) := by
      funext j
      by_cases hj : j = k
      · subst hj
        simp [hp]
      · simp [Function.update_of_ne hj, core]
    rw [hatt', callCallback]
    split
    · rename_i hc
      refine .head (.callPending k op opcode pdu rfl hfirst hc) (user_edits ?_)
      have hreact := reaction_edits (Function.update calling k true) [] users he att
        (.called op.pdu op.userData opcode pdu)
      rw [core_eq rfl rfl hmask rfl] at hreact
      exact hreact
    · rename_i hc
      rw [core_eq rfl rfl hmask rfl, heard_silent (.inr (Bool.eq_false_iff.mpr hc)), ← hfirst,
        Function.update_eq_self]
      exact .refl
  refine .trans hmid (.single ?_)
  have hlast : (core (Function.update calling k true) [] att').pending k = some (heard true op') := by
    show (pendings att' k).map (heard (Function.update calling k true k)) = _
    rw [hp', Function.update_self]
    rfl
  have hnone : (fun j => (pendings att'' j).map (heard (calling j))) =
      Function.update (core (Function.update calling k true) [] att').pending k none := by
    funext j
    by_cases hj : j = k
    · subst hj
      simp [hp'']
    · simp [hp'', Function.update_of_ne hj, core]
  rw [core_eq hio hq hnone hlog]
  exact .freePending k (heard true op') hlast (by simp [heard])

theorem callCallback_pending (users : Users υ) (att : BtAtt υ) (op : AttSendOp υ) (opcode : UInt8)
    (pdu : List UInt8) (k : AttQueue) :
    (pendings (callCallback users att op opcode pdu) k).isSome = (pendings att k).isSome := by
  rw [callCallback]
  split
  · have h := userEdits_pending (reaction_edits (fun _ => false) [] users (fun _ => trivial) att
      (.called op.pdu op.userData opcode pdu)) k
    simpa [core] using h
  · rfl

theorem finishReq_edits (users : Users υ) (he : ¬Quiet users → early)
    (att : BtAtt υ) (opcode : UInt8) (pdu : List UInt8) :
    Edits early (core (fun _ => false) [] att) (core (fun _ => false) [] (finishReq users att opcode pdu)) := by
  rw [finishReq]
  split
  · exact .refl
  · rename_i op hop
    have hsome : (pendings (callCallback users att op opcode pdu) .req).isSome := by
      rw [callCallback_pending]
      exact Option.isSome_iff_exists.mpr ⟨op, hop⟩
    obtain ⟨op', hop'⟩ := Option.isSome_iff_exists.mp hsome
    obtain ⟨hio, hq, hp, hlog⟩ := destroy_parts { callCallback users att op opcode pdu with pendingReq := none } op'
    obtain ⟨hqueues, hpendings⟩ := (clear_parts (callCallback users att op opcode pdu)).1
    refine finish_edits users he .req rfl hop rfl hop' ?_ ?_ ?_ ?_
    all_goals simp only [show (callCallback users att op opcode pdu).pendingReq = some op' from hop',
      Option.getD_some]
    · exact hio
    · exact hq.trans hqueues
    · exact hp.trans hpendings
    · exact hlog

theorem finishInd_edits (users : Users υ) (he : ¬Quiet users → early)
    (att : BtAtt υ) (opcode : UInt8) (pdu : List UInt8) :
    Edits early (core (fun _ => false) [] att) (core (fun _ => false) [] (finishInd users att opcode pdu)) := by
  rw [finishInd]
  split
  · exact .refl
  · rename_i op hop
    have hsome : (pendings (callCallback users att op opcode pdu) .ind).isSome := by
      rw [callCallback_pending]
      exact Option.isSome_iff_exists.mpr ⟨op, hop⟩
    obtain ⟨op', hop'⟩ := Option.isSome_iff_exists.mp hsome
    obtain ⟨hio, hq, hp, hlog⟩ := destroy_parts { callCallback users att op opcode pdu with pendingInd := none } op'
    obtain ⟨hqueues, hpendings⟩ := (clear_parts (callCallback users att op opcode pdu)).2
    refine finish_edits users he .ind rfl hop rfl hop' ?_ ?_ ?_ ?_
    all_goals simp only [show (callCallback users att op opcode pdu).pendingInd = some op' from hop',
      Option.getD_some]
    · exact hio
    · exact hq.trans hqueues
    · exact hp.trans hpendings
    · exact hlog

/-! Events of the main loop -/

theorem pick_parts (h : pickNextSendOp att = some (op, att')) : ∃ k rest, queues att k = op :: rest ∧
    pendings att k = none ∧ queues att' = Function.update (queues att) k rest ∧ pendings att' = pendings att ∧
      att'.io = att.io ∧ att'.log = att.log := by
  rw [pickNextSendOp] at h
  split at h
  · rename_i op rest hq
    cases h
    exact ⟨.write, rest, hq, rfl, (queues_set att rest).2.2, rfl, rfl, rfl⟩
  · split at h
    · rename_i op rest hp hq
      cases h
      exact ⟨.req, rest, hq, hp, (queues_set att rest).1, rfl, rfl, rfl⟩
    · split at h
      · rename_i op rest hp hq
        cases h
        exact ⟨.ind, rest, hq, hp, (queues_set att rest).2.1, rfl, rfl, rfl⟩
      · cases h

theorem core_hand (att : BtAtt υ) (hand : List (AttSendOp υ)) :
    core (fun _ => false) hand att = ⟨att.io, queues att, pendings att, hand, att.log⟩ := by
  refine core_eq rfl rfl ?_ rfl
  funext k
  cases h : pendings att k with
  | none => rfl
  | some op => rw [Option.map_some, heard_silent (.inl rfl)]

theorem await_edit (hup : att.io = true) (hh : queueOf op.type ≠ .write) (hp : pendings att (queueOf op.type) = none) (t : ℕ)
    (hio : att'.io = att.io) (hq : queues att' = queues att)
    (hp' : pendings att' = Function.update (pendings att) (queueOf op.type) (some { op with timeoutId := t }))
    (hlog : att'.log = att.log ++ [.written op.pdu op.userData]) :
    Edits early (core (fun _ => false) [op] att) (core (fun _ => false) [] att') := by
  rw [core_hand, core_hand, hio, hq, hp', hlog]
  exact .single (.await op _ hup rfl hh hp ⟨t, rfl⟩)

theorem canWrite_edits (users : Users υ) (he : ¬Quiet users → early) (sent : Bool) (att : BtAtt υ)
    (hup : att.io = true) (hs : Sorted (core (fun _ => false) [] att)) :
    Edits early (core (fun _ => false) [] att) (core (fun _ => false) [] (canWriteData users sent att)) := by
  rw [canWriteData]
  split
  · exact .refl
  · rename_i op att₁ hpick
    obtain ⟨k, rest, hq, hp, hq₁, hp₁, hio₁, hlog₁⟩ := pick_parts hpick
    have hin : op ∈ (core (fun _ => false) [] att).queue k := by
      show op ∈ queues att k
      rw [hq]
      exact List.mem_cons_self
    obtain ⟨hk, hsilent⟩ := hs.queued k op hin
    have htake : Edits early (core (fun _ => false) [] att) (core (fun _ => false) [op] att₁) := by
      rw [core_hand, core_hand, hio₁, hq₁, hp₁, hlog₁]
      exact .single (.take k op rest hq (.inl hp))
    refine .trans htake ?_
    have hfree : pendings att₁ (queueOf op.type) = none := by rw [hp₁, hk, hp]
    have hwritten : ∀ att₂ : BtAtt υ, queueOf op.type = .write → SameOps (att₁.emit (.written op.pdu op.userData)) att₂ →
        Edits early (core (fun _ => false) [op] att₁) (core (fun _ => false) [] (destroyAttSendOp att₂ op)) := by
      intro att₂ hwrite hsame
      have hneutral : Neutral (Effect.written op.pdu op.userData) := by
        intro hreq
        rw [AttSendOp.type, hreq] at hwrite
        cases hwrite
      have hnone : op.callback = false := hsilent (hk.symm.trans hwrite)
      refine .head (.note (.written op.pdu op.userData) hneutral) (.single ?_)
      rw [destroy_core, core_same hsame, hsame.log]
      exact .freeHand op [] rfl fun hc => absurd (hnone.symm.trans hc) Bool.false_ne_true
    split
    · exact disc_edits _ [] users he att₁ op
    · split
      · rename_i htype
        have hreq : queueOf op.type = .req := by rw [htype]; rfl
        refine await_edit (hio₁.trans hup) (by rw [hreq]; simp) hfree att₁.nextTimer rfl ?_ ?_ rfl
        all_goals
          try rw [hreq]
          funext j
          cases j <;> rfl
      · rename_i htype
        have hind : queueOf op.type = .ind := by rw [htype]; rfl
        refine await_edit (hio₁.trans hup) (by rw [hind]; simp) hfree att₁.nextTimer rfl ?_ ?_ rfl
        all_goals
          try rw [hind]
          funext j
          cases j <;> rfl
      · rename_i htype
        refine hwritten _ (by rw [htype]; rfl) ⟨rfl, ?_, ?_, rfl⟩ <;>
          · funext j
            cases j <;> rfl
      · rename_i hnreq hnind _
        refine hwritten _ ?_ ⟨rfl, rfl, rfl, rfl⟩
        cases htype : op.type with
        | req => exact absurd htype hnreq
        | ind => exact absurd htype hnind
        | rsp | cmd | notify | conf | unknown => rfl

theorem note_edit (e : Effect υ) (h : Neutral e) (att : BtAtt υ) (hand : List (AttSendOp υ)) :
    Edits early (core calling hand att) (core calling hand (att.emit e)) := .single (.note e h)

theorem timeout_edits (he : early) (att : BtAtt υ) (timer : Timer) :
    Edits early (core (fun _ => false) [] att) (core (fun _ => false) [] (timeoutCb att timer)) := by
  simp only [timeoutCb]
  have hended : ∀ (k : AttQueue) (op : AttSendOp υ) (att' : BtAtt υ), pendings att k = some op →
      att'.io = att.io → queues att' = queues att → pendings att' = Function.update (pendings att) k none →
      att'.log = att.log ++ freed op →
      Edits early (core (fun _ => false) [] att) (core (fun _ => false) [] (att'.emit .shutdown)) := by
    intro k op att' hp hio hq hp' hlog
    refine .trans ?_ (note_edit .shutdown trivial att' [])
    rw [core_hand, core_hand, hio, hq, hp', hlog]
    exact .single (.freePending k op hp fun _ => he)
  split
  · rename_i op hop
    obtain ⟨hpending, -⟩ := Option.filter_eq_some_iff.mp hop
    rw [callDestroy_log]
    refine hended .req op _ hpending rfl ?_ ?_ rfl <;>
      · funext k
        cases k <;> rfl
  · rename_i op _ hop
    obtain ⟨hpending, -⟩ := Option.filter_eq_some_iff.mp hop
    rw [callDestroy_log]
    refine hended .ind op _ hpending rfl ?_ ?_ rfl <;>
      · funext k
        cases k <;> rfl
  · exact .refl

theorem changeSecurity_same {link : Link} {ecode : UInt8} (h : changeSecurity att link ecode = some att') :
    att'.reqQueue = att.reqQueue ∧ SameOps att att' := by
  have hset : ∀ level, btAttSetSecurity att link level = some att' →
      att'.reqQueue = att.reqQueue ∧ SameOps att att' := by
    intro level h
    rw [btAttSetSecurity] at h
    split at h
    · cases h
    · split at h
      · obtain rfl := Option.some.inj h
        refine ⟨rfl, rfl, ?_, ?_, rfl⟩ <;>
          · funext k
            cases k <;> rfl
      · split at h
        · obtain rfl := Option.some.inj h
          exact ⟨rfl, rfl, rfl, rfl, rfl⟩
        · cases h
  simp only [changeSecurity] at h
  split_ifs at h <;> exact hset _ h

/-- The request goes back to the front of its queue, when the security level of the link goes up. -/
theorem errorRsp_edits {link : Link} {pdu : List UInt8} (hup : att.io = true) (hop : att.pendingReq = some op)
    (h : handleErrorRsp att link op pdu = .inr att') :
    Edits early (core (fun _ => false) [] att) (core (fun _ => false) [] att') := by
  unfold handleErrorRsp at h
  split at h
  · split at h
    · cases h
    · rename_i att₁ hchange
      obtain ⟨-, hsame⟩ := changeSecurity_same hchange
      cases h
      have hedit : Edit early (core (fun _ => false) [] att) ⟨att.io,
          Function.update (queues att) .req (op :: queues att .req), Function.update (pendings att) .req none, [],
          att.log⟩ := by
        rw [core_hand]
        exact .retry op hup hop
      refine .trans (.single hedit) ?_
      have hq : queues { att₁ with pendingReq := none, reqQueue := op :: att₁.reqQueue } =
          Function.update (queues att) .req (op :: queues att .req) := by
        rw [← hsame.queues]
        funext k
        cases k <;> rfl
      have hp : pendings { att₁ with pendingReq := none, reqQueue := op :: att₁.reqQueue } =
          Function.update (pendings att) .req none := by
        rw [← hsame.pendings]
        funext k
        cases k <;> rfl
      rw [core_hand, hq, hp, ← hsame.io, ← hsame.log]
  · cases h

theorem handleRsp_edits (users : Users υ) (he : ¬Quiet users → early) (link : Link) (att : BtAtt υ)
    (hup : att.io = true) (opcode : UInt8) (pdu : List UInt8) :
    Edits early (core (fun _ => false) [] att)
      (core (fun _ => false) [] (handleRsp users link att opcode pdu)) := by
  rw [handleRsp]
  split
  · exact note_edit .shutdown trivial att []
  · rename_i op hop
    simp only
    split
    · rename_i att' hverdict
      rw [core_same (wakeup_same _)]
      split at hverdict
      · exact errorRsp_edits hup hop hverdict
      · cases hverdict
    · split
      · rw [core_same (wakeup_same _)]
        exact finishReq_edits users he att attOpError []
      · rw [core_same (wakeup_same _)]
        exact finishReq_edits users he att opcode pdu

theorem handleConf_edits (users : Users υ) (he : ¬Quiet users → early) (att : BtAtt υ) (pdu : List UInt8) :
    Edits early (core (fun _ => false) [] att) (core (fun _ => false) [] (handleConf users att pdu)) := by
  rw [handleConf]
  split
  · exact note_edit .shutdown trivial att []
  · rw [core_same (wakeup_same _)]
    exact finishInd_edits users he att attOpHandleCnf []

theorem handleNotify_edits (users : Users υ) (he : ¬Quiet users → early) (att : BtAtt υ) (opcode : UInt8)
    (pdu : List UInt8) :
    Edits early (core (fun _ => false) [] att)
      (core (fun _ => false) [] (handleNotify users att opcode pdu)) := by
  simp only [handleNotify]
  split
  · exact .refl
  · have hall : ∀ (found : List AttNotify) (att : BtAtt υ), Edits early (core (fun _ => false) [] att)
        (core (fun _ => false) [] (found.foldl (fun att notify =>
          callUser users att (.notified notify.id opcode pdu)) att)) := by
      intro found
      induction found with
      | nil => exact fun att => .refl
      | cons notify found ih =>
        intro att
        refine .trans (note_edit (.notified notify.id opcode pdu) trivial att []) (.trans (user_edits ?_) (ih _))
        exact reaction_edits _ [] users he att (.notified notify.id opcode pdu)
    split
    · exact .trans (hall _ att) (user_edits (send_edits early _ [] _ _ false false none))
    · exact hall _ att

theorem canRead_edits (users : Users υ) (he : ¬Quiet users → early) (link : Link) (att : BtAtt υ)
    (hup : att.io = true) (bytes : List UInt8) :
    Edits early (core (fun _ => false) [] att)
      (core (fun _ => false) [] (canReadData users link att bytes)) := by
  simp only [canReadData]
  refine .trans (note_edit (.received (bytes.take att.mtu)) trivial att []) ?_
  have hup₁ : (att.emit (.received (bytes.take att.mtu))).io = true := hup
  generalize att.emit (.received (bytes.take att.mtu)) = att₁ at hup₁ ⊢
  split
  · exact .refl
  · split
    · exact handleRsp_edits users he link att₁ hup₁ _ _
    · exact handleConf_edits users he att₁ _
    · split
      · exact note_edit .shutdown trivial _ []
      · have hsame : SameOps att₁ { att₁ with inReq := true } := ⟨rfl, rfl, rfl, rfl⟩
        rw [← core_same hsame]
        exact handleNotify_edits users he _ _ _
    · exact handleNotify_edits users he att₁ _ _

/-- The operations of a queue are taken out of it together, once the link is down. -/
theorem takeAll_edits (k : AttQueue) (q : List (AttSendOp υ)) {c : Core υ} (hio : c.io = false)
    (hq : c.queue k = q) :
    Edits early c { c with queue := Function.update c.queue k [], hand := c.hand ++ q } := by
  induction q generalizing c with
  | nil =>
    have hsame : Function.update c.queue k [] = c.queue := by
      rw [← hq]
      exact Function.update_eq_self k c.queue
    rw [hsame, List.append_nil]
  | cons op q ih =>
    have hfirst : Edit early c { c with
        queue := Function.update c.queue k q, hand := c.hand ++ [op] } := .take k op q hq (.inr hio)
    have hrest := ih (c := { c with queue := Function.update c.queue k q, hand := c.hand ++ [op] }) hio
      (Function.update_self _ _ _)
    simp only [Function.update_idem, List.append_assoc, List.singleton_append] at hrest
    exact .head hfirst hrest

/-- The link stays as it is. -/
theorem edits_io {c c' : Core υ} (h : Edits early c c') : c'.io = c.io := by
  induction h with
  | refl => rfl
  | tail _ h ih =>
    cases h with
    | user h => cases h <;> exact ih
    | take | await | callHand | callPending | freeHand | freePending | retry | note => exact ih

theorem disc_io (users : Users υ) (att : BtAtt υ) (op : AttSendOp υ) :
    (discAttSendOp users att op).io = att.io := by
  have hcall : (callCallback users att op attOpError []).io = att.io := by
    rw [callCallback]
    split
    · exact edits_io (user_edits (reaction_edits (fun _ => false) [] users (fun _ => trivial) att
        (.called op.pdu op.userData attOpError [])))
    · rfl
  rw [discAttSendOp, (destroy_parts _ op).1, hcall]

theorem discAll_io (users : Users υ) (q : List (AttSendOp υ)) (att : BtAtt υ) :
    (q.foldl (discAttSendOp users) att).io = att.io := by
  induction q generalizing att with
  | nil => rfl
  | cons op q ih => rw [List.foldl_cons, ih, disc_io]

theorem discQueue_edits (users : Users υ) (he : ¬Quiet users → early) (k : AttQueue) (att att' : BtAtt υ)
    (hio : att.io = false)
    (hio' : att'.io = att.io) (hq : queues att' = Function.update (queues att) k [])
    (hp : pendings att' = pendings att) (hlog : att'.log = att.log) :
    Edits early (core (fun _ => false) [] att)
      (core (fun _ => false) [] ((queues att k).foldl (discAttSendOp users) att')) := by
  refine .trans ?_ (discAll_edits _ (queues att k) users he att')
  have htake : Edits early (core (fun _ => false) [] att) { core (fun _ => false) [] att with
      queue := Function.update (queues att) k [], hand := queues att k } := takeAll_edits k (queues att k) hio rfl
  rw [core_hand] at htake
  rw [core_hand, core_hand, hio', hq, hp, hlog]
  exact htake

theorem disconnect_edits (users : Users υ) (he : ¬Quiet users → early) (att : BtAtt υ) :
    Edits early { core (fun _ => false) [] att with io := false }
      (core (fun _ => false) [] (disconnectCb users att)) := by
  have hdown : ({ core (fun _ => false) [] att with io := false } : Core υ) = core (fun _ => false) []
      { att with io := false, reader := false, writerActive := false } := rfl
  rw [hdown]
  have hio : ({ att with io := false, reader := false, writerActive := false } : BtAtt υ).io = false := rfl
  rw [disconnectCb]
  generalize ({ att with io := false, reader := false, writerActive := false } : BtAtt υ) = att₀ at hio ⊢
  have hreq : (discReqQueue users att₀).io = false := (discAll_io users _ _).trans hio
  have hind : (discIndQueue users (discReqQueue users att₀)).io = false := (discAll_io users _ _).trans hreq
  have h₁ : Edits early (core (fun _ => false) [] att₀) (core (fun _ => false) [] (discReqQueue users att₀)) :=
    discQueue_edits users he .req att₀ { att₀ with reqQueue := [] } hio rfl (queues_set att₀ []).1 rfl rfl
  generalize discReqQueue users att₀ = att₁ at hreq hind h₁ ⊢
  have h₂ : Edits early (core (fun _ => false) [] att₁) (core (fun _ => false) [] (discIndQueue users att₁)) :=
    discQueue_edits users he .ind att₁ { att₁ with indQueue := [] } hreq rfl (queues_set att₁ []).2.1 rfl rfl
  generalize discIndQueue users att₁ = att₂ at hind h₂ ⊢
  have h₃ : Edits early (core (fun _ => false) [] att₂) (core (fun _ => false) [] (discWriteQueue users att₂)) :=
    discQueue_edits users he .write att₂ { att₂ with writeQueue := [] } hind rfl (queues_set att₂ []).2.2 rfl rfl
  refine .trans h₁ (.trans h₂ (.trans h₃ ?_))
  exact .trans (finishReq_edits users he _ attOpError []) (finishInd_edits users he _ attOpError [])

/-- A link that is hung up is down before anything else. -/
def begun (e : AttEvent υ) (c : Core υ) : Core υ :=
  match e with
  | .hungUp _ => { c with io := false }
  | _ => c

/-- Whatever happens to a bearer is a sequence of edits of its operations. -/
theorem step_edits (e : AttEvent υ) (he : ¬CalmEvent e → early) (hs : Sorted (core (fun _ => false) [] att))
    (h : attStep att e = some att') :
    Edits early (begun e (core (fun _ => false) [] att)) (core (fun _ => false) [] att') := by
  cases e with
  | call c =>
    obtain rfl := Option.some.inj h
    exact user_edits (userCall_edits _ [] att c he)
  | register opcode =>
    obtain rfl := Option.some.inj h
    rw [btAttRegister]
    split <;> exact .refl
  | unregister id =>
    obtain rfl := Option.some.inj h
    exact .refl
  | writable users sent =>
    obtain ⟨hup, hsome⟩ := Option.ite_none_right_eq_some.mp h
    obtain rfl := Option.some.inj hsome
    exact canWrite_edits users he sent att hup.1 hs
  | readable users link bytes =>
    obtain ⟨hup, hsome⟩ := Option.ite_none_right_eq_some.mp h
    obtain rfl := Option.some.inj hsome
    exact canRead_edits users he link att hup.1 bytes
  | writeEnded | readEnded =>
    obtain rfl := Option.some.inj h
    exact .refl
  | timedOut timer =>
    obtain ⟨-, hsome⟩ := Option.ite_none_right_eq_some.mp h
    obtain rfl := Option.some.inj hsome
    exact timeout_edits (he not_false) att timer
  | hungUp users =>
    obtain ⟨-, hsome⟩ := Option.ite_none_right_eq_some.mp h
    obtain rfl := Option.some.inj hsome
    exact disconnect_edits users he att

/-! What holds along every sequence of edits -/

theorem sorted_queue {c : Core υ} (hs : Sorted c) (k : AttQueue) (h : ∀ op ∈ q, Fits k op) :
    Sorted { c with queue := Function.update c.queue k q } := by
  refine ⟨fun j op hin => ?_, hs.under⟩
  by_cases hj : j = k
  · subst hj
    simp only [Function.update_self] at hin
    exact h op hin
  · simp only [Function.update_of_ne hj] at hin
    exact hs.queued j op hin

theorem sorted_pending {c : Core υ} (hs : Sorted c) (k : AttQueue) {o : Option (AttSendOp υ)}
    (h : ∀ op ∈ o, queueOf op.type = k) : Sorted { c with pending := Function.update c.pending k o } := by
  refine ⟨hs.queued, fun j op hin => ?_⟩
  by_cases hj : j = k
  · subst hj
    simp only [Function.update_self] at hin
    exact h op hin
  · simp only [Function.update_of_ne hj] at hin
    exact hs.under j op hin

theorem sorted_same {c c' : Core υ} (hs : Sorted c) (hq : c'.queue = c.queue) (hp : c'.pending = c.pending) :
    Sorted c' := by
  refine ⟨fun k op hin => hs.queued k op (hq ▸ hin), fun k op hin => hs.under k op (hp ▸ hin)⟩

theorem sorted_user {c c' : Core υ} (h : UserEdit early c c') (hs : Sorted c) : Sorted c' := by
  cases h with
  | accept op hio hawaited =>
    refine sorted_same (sorted_queue hs (queueOf op.type) fun op' hin => ?_) rfl rfl
    rcases List.mem_append.mp hin with hin | hin
    · exact hs.queued _ op' hin
    · rw [List.mem_singleton] at hin
      refine ⟨hin ▸ rfl, fun hwrite => ?_⟩
      rw [hin, ← Bool.not_eq_true, hawaited]
      exact not_not.mpr hwrite
  | drop k op l r hq he =>
    refine sorted_same (sorted_queue hs k fun op' hin => hs.queued k op' ?_) rfl rfl
    rw [hq]
    exact ((List.sublist_cons_self op r).append_left l).subset hin
  | cancel k op hp he =>
    refine sorted_same (sorted_pending hs k fun op' hin => ?_) rfl rfl
    obtain rfl := Option.some.inj hin
    exact hs.under k op hp

theorem sorted_edit {c c' : Core υ} (h : Edit early c c') (hs : Sorted c) : Sorted c' := by
  cases h with
  | user h => exact sorted_user h hs
  | take k op rest hq hfree =>
    refine sorted_same (sorted_queue hs k fun op' hin => hs.queued k op' ?_) rfl rfl
    rw [hq]
    exact List.mem_cons_of_mem _ hin
  | await op op' hio hh hk hp hsame =>
    obtain ⟨t, rfl⟩ := hsame
    refine sorted_same (sorted_pending hs (queueOf op.type) fun op' hin => ?_) rfl rfl
    obtain rfl := Option.some.inj hin
    rfl
  | callPending k op opcode pdu hh hp hc =>
    refine sorted_same (sorted_pending hs k fun op' hin => ?_) rfl rfl
    obtain rfl := Option.some.inj hin
    exact hs.under k op hp
  | freePending k op hp he => exact sorted_same (sorted_pending hs k fun op' hin => absurd hin (Option.not_mem_none op')) rfl rfl
  | retry op hio hp =>
    have hqueue : Sorted { c with queue := Function.update c.queue .req (op :: c.queue .req) } := by
      refine sorted_queue hs .req fun op' hin => ?_
      rcases List.mem_cons.mp hin with rfl | hin
      · exact ⟨hs.under .req _ hp, fun hwrite => nomatch hwrite⟩
      · exact hs.queued .req op' hin
    exact sorted_same (sorted_pending hqueue .req fun op' hin => absurd hin (Option.not_mem_none op')) rfl rfl
  | callHand | freeHand | note => exact sorted_same hs rfl rfl

/-- Once the link is down, a queue that is empty stays so. -/
theorem emptied_edit {c c' : Core υ} (h : Edit early c c') (k : AttQueue)
    (hgone : c.io = false ∧ c.queue k = []) : c'.io = false ∧ c'.queue k = [] := by
  obtain ⟨hio, hempty⟩ := hgone
  have hother : ∀ (j : AttQueue) (q : List (AttSendOp υ)), c.queue j ≠ [] →
      Function.update c.queue j q k = [] := by
    intro j q hne
    have hk : k ≠ j := fun he => hne (he ▸ hempty)
    rw [Function.update_of_ne hk, hempty]
  cases h with
  | user h =>
    cases h with
    | accept op hup => exact absurd (hio.symm.trans hup) Bool.false_ne_true
    | drop j op l r hq => exact ⟨hio, hother j _ (by simp [hq])⟩
    | cancel => exact ⟨hio, hempty⟩
  | take j op rest hq => exact ⟨hio, hother j _ (by simp [hq])⟩
  | retry op hup => exact absurd (hio.symm.trans hup) Bool.false_ne_true
  | await op op' hup => exact absurd (hio.symm.trans hup) Bool.false_ne_true
  | callHand | callPending | freeHand | freePending | note => exact ⟨hio, hempty⟩

/-- Nor is anything under way again. -/
theorem idle_edit {c c' : Core υ} (h : Edit early c c') (k : AttQueue)
    (hgone : c.io = false ∧ c.pending k = none) : c'.io = false ∧ c'.pending k = none := by
  obtain ⟨hio, hidle⟩ := hgone
  have hother : ∀ (j : AttQueue) (o : Option (AttSendOp υ)) (op : AttSendOp υ), c.pending j = some op →
      Function.update c.pending j o k = none := by
    intro j o op hp
    have hk : k ≠ j := by
      rintro rfl
      rw [hidle] at hp
      cases hp
    rw [Function.update_of_ne hk, hidle]
  cases h with
  | user h =>
    cases h with
    | cancel j op hp => exact ⟨hio, hother j _ op hp⟩
    | accept | drop => exact ⟨hio, hidle⟩
  | callPending j op _ _ _ hp => exact ⟨hio, hother j _ op hp⟩
  | freePending j op hp => exact ⟨hio, hother j _ op hp⟩
  | retry op hup => exact absurd (hio.symm.trans hup) Bool.false_ne_true
  | await op op' hup => exact absurd (hio.symm.trans hup) Bool.false_ne_true
  | take | callHand | freeHand | note => exact ⟨hio, hidle⟩

theorem edits_keep {P : Core υ → Prop} (hkeep : ∀ c c', Edit early c c' → P c → P c') {c c' : Core υ}
    (h : Edits early c c') (hc : P c) : P c' := by
  induction h with
  | refl => exact hc
  | tail _ h ih => exact hkeep _ _ h ih

/-- A bearer whose link is down has no operations. -/
def Closed (c : Core υ) : Prop := c.io = false → ∀ k, c.queue k = [] ∧ c.pending k = none

theorem discQueue_empty (users : Users υ) (k : AttQueue) (att : BtAtt υ) (hio : att.io = false)
    (hq : queues att k = []) (ops : List (AttSendOp υ)) :
    queues (ops.foldl (discAttSendOp users) att) k = [] := by
  have h := discAll_edits (fun _ => false) ops users (fun _ => trivial) att
  exact (edits_keep (fun _ _ h => emptied_edit h k) h ⟨hio, hq⟩).2

theorem finish_idle (users : Users υ) (att : BtAtt υ) (opcode : UInt8) (pdu : List UInt8) :
    pendings (finishReq users att opcode pdu) .req = none ∧
      pendings (finishInd users att opcode pdu) .ind = none := by
  refine ⟨?_, ?_⟩
  · rw [finishReq]
    split
    · assumption
    · rw [(destroy_parts _ _).2.2.1]
      rfl
  · rw [finishInd]
    split
    · assumption
    · rw [(destroy_parts _ _).2.2.1]
      rfl

theorem disconnect_closed (users : Users υ) (att : BtAtt υ) (k : AttQueue) :
    queues (disconnectCb users att) k = [] ∧ pendings (disconnectCb users att) k = none := by
  have hquiet : ¬Quiet users → True := fun _ => trivial
  have hkeep : ∀ (j : AttQueue) (att att' : BtAtt υ),
      Edits True (core (fun _ => false) [] att) (core (fun _ => false) [] att') →
      att.io = false ∧ queues att j = [] → att'.io = false ∧ queues att' j = [] :=
    fun j att att' h => edits_keep (fun _ _ h => emptied_edit h j) h
  rw [disconnectCb]
  have hio : ({ att with io := false, reader := false, writerActive := false } : BtAtt υ).io = false := rfl
  generalize ({ att with io := false, reader := false, writerActive := false } : BtAtt υ) = att₀ at hio ⊢
  have hreq : (discReqQueue users att₀).io = false ∧ queues (discReqQueue users att₀) .req = [] :=
    ⟨(discAll_io users _ _).trans hio, discQueue_empty users .req { att₀ with reqQueue := [] } hio rfl _⟩
  generalize discReqQueue users att₀ = att₁ at hreq ⊢
  have hreq₂ := hkeep .req att₁ (discIndQueue users att₁) (discQueue_edits users hquiet .ind att₁
    { att₁ with indQueue := [] } hreq.1 rfl (queues_set att₁ []).2.1 rfl rfl) hreq
  have hind : queues (discIndQueue users att₁) .ind = [] :=
    discQueue_empty users .ind { att₁ with indQueue := [] } hreq.1 rfl _
  generalize discIndQueue users att₁ = att₂ at hreq₂ hind ⊢
  have hedits := discQueue_edits users hquiet .write att₂ { att₂ with writeQueue := [] } hreq₂.1 rfl
    (queues_set att₂ []).2.2 rfl rfl
  have hreq₃ := hkeep .req att₂ (discWriteQueue users att₂) hedits hreq₂
  have hind₃ := hkeep .ind att₂ (discWriteQueue users att₂) hedits ⟨hreq₂.1, hind⟩
  have hwrite : queues (discWriteQueue users att₂) .write = [] :=
    discQueue_empty users .write { att₂ with writeQueue := [] } hreq₂.1 rfl _
  generalize discWriteQueue users att₂ = att₃ at hreq₃ hind₃ hwrite ⊢
  have hfirst := finishReq_edits users hquiet att₃ attOpError []
  have hlast := finishInd_edits users hquiet (finishReq users att₃ attOpError []) attOpError []
  have hall : ∀ j, queues att₃ j = [] := by
    intro j
    cases j with
    | req => exact hreq₃.2
    | ind => exact hind₃.2
    | write => exact hwrite
  refine ⟨(hkeep k att₃ _ (hfirst.trans hlast) ⟨hreq₃.1, hall k⟩).2, ?_⟩
  cases k with
  | req =>
    have hdown : (finishReq users att₃ attOpError []).io = false := (hkeep .req att₃ _ hfirst hreq₃).1
    have hidle : pendings (finishReq users att₃ attOpError []) .req = none := (finish_idle users _ _ _).1
    have h : (core (fun _ => false) [] (finishReq users att₃ attOpError [])).pending .req = none := by
      show (pendings _ _).map _ = _
      rw [hidle]
      rfl
    have hend := (edits_keep (fun _ _ h => idle_edit h .req) hlast ⟨hdown, h⟩).2
    rw [core_hand] at hend
    exact hend
  | ind => exact (finish_idle users _ _ _).2
  | write => rfl

theorem step_sorted (e : AttEvent υ) (hs : Sorted (core (fun _ => false) [] att))
    (h : attStep att e = some att') : Sorted (core (fun _ => false) [] att') := by
  refine edits_keep (fun _ _ h hs => sorted_edit h hs) (step_edits e (fun _ => trivial) hs h) ?_
  cases e <;> exact sorted_same hs rfl rfl

theorem step_closed (e : AttEvent υ) (hs : Sorted (core (fun _ => false) [] att))
    (hclosed : Closed (core (fun _ => false) [] att)) (h : attStep att e = some att') :
    Closed (core (fun _ => false) [] att') := by
  have hedits := step_edits e (fun _ => trivial) hs h
  have hio := edits_io hedits
  have hkept : begun e (core (fun _ => false) [] att) = core (fun _ => false) [] att →
      Closed (core (fun _ => false) [] att') := by
    intro hbegun hdown k
    rw [hbegun] at hio hedits
    have hdown₀ : (core (fun _ => false) [] att).io = false := hio.symm.trans hdown
    obtain ⟨hq, hp⟩ := hclosed hdown₀ k
    exact ⟨(edits_keep (fun _ _ h => emptied_edit h k) hedits ⟨hdown₀, hq⟩).2,
      (edits_keep (fun _ _ h => idle_edit h k) hedits ⟨hdown₀, hp⟩).2⟩
  cases e with
  | hungUp users =>
    obtain ⟨-, hsome⟩ := Option.ite_none_right_eq_some.mp h
    obtain rfl := Option.some.inj hsome
    rw [core_hand]
    exact fun _ k => disconnect_closed users att k
  | call | register | unregister | writable | readable | writeEnded | readEnded | timedOut => exact hkept rfl

end

end Gattlib.AttEdits
