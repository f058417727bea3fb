import Gattlib.AttEdits
import Gattlib.Library.Custody
import Mathlib.Algebra.BigOperators.Pi
import Mathlib.Tactic.Abel

namespace Gattlib.AttOperations

open AttPdus AttTransport AttEdits
open Library.Custody Library.Transition Relation

/-- What happens to the operations with some data. -/
inductive Mark
  | accepted | called | destroyed
  deriving DecidableEq

instance : Fintype AttQueue := ⟨{.req, .ind, .write}, fun k => by cases k <;> decide⟩

variable {υ : Type}

def deed : Effect υ → Option (Deed (Option υ))
  | .accepted op => some (.accepted ⟨op.userData, op.callback, op.destroy⟩)
  | .called _ u _ _ => some (.called u)
  | .destroyed _ u => some (.destroyed u)
  | .written .. | .received _ | .notified .. | .shutdown => none

def deeds (log : List (Effect υ)) : List (Deed (Option υ)) := log.filterMap deed

def tokens (op : AttSendOp υ) : Multiset (Token (Option υ)) :=
  if op.callback || op.destroy then { ⟨op.userData, op.callback, op.destroy⟩ } else 0

def allTokens (q : List (AttSendOp υ)) : Multiset (Token (Option υ)) := (q.map tokens).sum

def someTokens (o : Option (AttSendOp υ)) : Multiset (Token (Option υ)) := o.elim 0 tokens

/-- The functions that the operations there are still have. -/
def bag (c : Core υ) : Multiset (Token (Option υ)) :=
  ∑ k, allTokens (c.queue k) + ∑ k, someTokens (c.pending k) + allTokens c.hand

section

variable {early : Prop} {c c' : Core υ} {op : AttSendOp υ} {q : List (AttSendOp υ)} {k : AttQueue}
  {B : Multiset (Token (Option υ))} {L : List (Deed (Option υ))} {att att' : BtAtt υ}

@[simp] theorem allTokens_nil : allTokens ([] : List (AttSendOp υ)) = 0 := rfl

@[simp] theorem allTokens_cons (op : AttSendOp υ) (q : List (AttSendOp υ)) :
    allTokens (op :: q) = tokens op + allTokens q := by
  simp [allTokens]

@[simp] theorem allTokens_append (q q' : List (AttSendOp υ)) :
    allTokens (q ++ q') = allTokens q + allTokens q' := by
  simp [allTokens]

@[simp] theorem someTokens_none : someTokens (none : Option (AttSendOp υ)) = 0 := rfl
@[simp] theorem someTokens_some (op : AttSendOp υ) : someTokens (some op) = tokens op := rfl

@[simp] theorem deeds_append (log log' : List (Effect υ)) : deeds (log ++ log') = deeds log ++ deeds log' :=
  List.filterMap_append

theorem sum_update {α : Type} (f : α → Multiset (Token (Option υ))) (g : AttQueue → α) (k : AttQueue) (a : α) :
    ∑ j, f (Function.update g k a j) = f a + ∑ j ∈ Finset.univ \ {k}, f (g j) := by
  have happly : (fun j => f (Function.update g k a j)) = Function.update (fun j => f (g j)) k (f a) :=
    funext fun j => Function.apply_update (fun _ => f) g k a j
  rw [happly, Finset.sum_update_of_mem (Finset.mem_univ k)]

theorem sum_split {α : Type} (f : α → Multiset (Token (Option υ))) (g : AttQueue → α) (k : AttQueue) :
    ∑ j, f (g j) = f (g k) + ∑ j ∈ Finset.univ \ {k}, f (g j) := by
  rw [← sum_update, Function.update_eq_self]

/-- What is in one queue is part of the bag, and the rest does not depend on it. -/
theorem bag_queue (c : Core υ) (k : AttQueue) : ∃ X, bag c = allTokens (c.queue k) + X ∧
    ∀ q, bag { c with queue := Function.update c.queue k q } = allTokens q + X := by
  have hall : ∀ q, bag { c with queue := Function.update c.queue k q } = allTokens q +
      (∑ j ∈ Finset.univ \ {k}, allTokens (c.queue j) + ∑ j, someTokens (c.pending j) + allTokens c.hand) := by
    intro q
    rw [bag, sum_update]
    abel
  refine ⟨_, ?_, hall⟩
  rw [← hall, Function.update_eq_self]

theorem bag_pending (c : Core υ) (k : AttQueue) : ∃ X, bag c = someTokens (c.pending k) + X ∧
    ∀ o, bag { c with pending := Function.update c.pending k o } = someTokens o + X := by
  have hall : ∀ o, bag { c with pending := Function.update c.pending k o } = someTokens o +
      (∑ j, allTokens (c.queue j) + ∑ j ∈ Finset.univ \ {k}, someTokens (c.pending j) + allTokens c.hand) := by
    intro o
    rw [bag, sum_update]
    abel
  refine ⟨_, ?_, hall⟩
  rw [← hall, Function.update_eq_self]

/-! Edits as moves -/

/-- What has neither of the functions is let go without a trace. -/
theorem dead_moves (u : Option υ) (B : Multiset (Token (Option υ))) (L : List (Deed (Option υ))) :
    Moves early (({ ⟨u, false, false⟩ } : Multiset (Token (Option υ))) + B, L) (B, L) := by
  have hrelease : Move early ((⟨u, false, false⟩ : Token (Option υ)) ::ₘ B, L)
      (B, L ++ Token.letGo ⟨u, false, false⟩) := .release _ fun hc => absurd hc Bool.false_ne_true
  rw [Token.letGo, if_neg Bool.false_ne_true, List.append_nil] at hrelease
  exact .single hrelease

theorem accept_moves (op : AttSendOp υ) (B : Multiset (Token (Option υ))) (L : List (Deed (Option υ))) :
    Moves early (B, L) (tokens op + B, L ++ deeds [.accepted op]) := by
  have haccept : Moves early (B, L) (({ ⟨op.userData, op.callback, op.destroy⟩ } : Multiset (Token (Option υ))) + B,
      L ++ deeds [.accepted op]) := .single (.accept ⟨op.userData, op.callback, op.destroy⟩)
  rw [tokens]
  split
  · exact haccept
  · rename_i hnone
    rw [Bool.or_eq_true, not_or, Bool.not_eq_true, Bool.not_eq_true] at hnone
    rw [hnone.1, hnone.2] at haccept
    rw [zero_add]
    exact haccept.trans (dead_moves _ _ _)

theorem free_moves (he : op.callback = true → early) (B : Multiset (Token (Option υ)))
    (L : List (Deed (Option υ))) : Moves early (tokens op + B, L) (B, L ++ deeds (freed op)) := by
  have hdeeds : deeds (freed op) = Token.letGo ⟨op.userData, op.callback, op.destroy⟩ := by
    rw [freed, Token.letGo]
    split <;> rfl
  rw [hdeeds, tokens]
  split
  · exact .single (.release ⟨op.userData, op.callback, op.destroy⟩ he)
  · rename_i hnone
    rw [Bool.or_eq_true, not_or, Bool.not_eq_true, Bool.not_eq_true] at hnone
    rw [Token.letGo, if_neg (by simp [hnone.2]), List.append_nil, zero_add]

theorem call_moves (hc : op.callback = true) (opcode : UInt8) (pdu : List UInt8)
    (B : Multiset (Token (Option υ))) (L : List (Deed (Option υ))) :
    Moves early (tokens op + B, L)
      (tokens (heard true op) + B, L ++ deeds [.called op.pdu op.userData opcode pdu]) := by
  have hold : tokens op = { ⟨op.userData, op.callback, op.destroy⟩ } := if_pos (by simp [hc])
  have hcall : Moves early (tokens op + B, L)
      (({ ⟨op.userData, false, op.destroy⟩ } : Multiset (Token (Option υ))) + B,
        L ++ deeds [.called op.pdu op.userData opcode pdu]) := by
    rw [hold]
    exact .single (.call ⟨op.userData, op.callback, op.destroy⟩ hc)
  cases hd : op.destroy with
  | true =>
    have hnew : tokens (heard true op) = { ⟨op.userData, false, true⟩ } := by simp [tokens, heard, hd]
    rw [hnew, ← hd]
    exact hcall
  | false =>
    have hnew : tokens (heard true op) = 0 := by simp [tokens, heard, hd]
    rw [hd] at hcall
    rw [hnew, zero_add]
    exact hcall.trans (dead_moves _ _ _)

@[simp] theorem tokens_cancelled (op : AttSendOp υ) : tokens op.cancelled = 0 := rfl

/-- The holding of a core. -/
def holding (c : Core υ) : Holding (Option υ) := (bag c, deeds c.log)

theorem userEdit_moves (h : UserEdit early c c') : Moves early (holding c) (holding c') := by
  cases h with
  | accept op =>
    obtain ⟨X, hold, hnew⟩ := bag_queue c (queueOf op.type)
    have hbag : bag { c with
        queue := Function.update c.queue (queueOf op.type) (c.queue (queueOf op.type) ++ [op])
        log := c.log ++ [.accepted op] } = tokens op + bag c := by
      refine (hnew _).trans ?_
      rw [hold, allTokens_append, allTokens_cons, allTokens_nil]
      abel
    rw [holding, holding, hbag, deeds_append]
    exact accept_moves op _ _
  | drop k op l r hq he =>
    obtain ⟨X, hold, hnew⟩ := bag_queue c k
    have hbag : bag c = tokens op + bag { c with
        queue := Function.update c.queue k (l ++ r), log := c.log ++ freed op } := by
      refine hold.trans (Eq.trans ?_ (congrArg (tokens op + ·) (hnew (l ++ r)).symm))
      rw [hq, allTokens_append, allTokens_cons, allTokens_append]
      abel
    rw [holding, holding, hbag, deeds_append]
    exact free_moves (fun _ => he) _ _
  | cancel k op hp he =>
    obtain ⟨X, hold, hnew⟩ := bag_pending c k
    have hbag : bag c = tokens op + bag { c with
        pending := Function.update c.pending k (some op.cancelled), log := c.log ++ freed op } := by
      refine hold.trans (Eq.trans ?_ (congrArg (tokens op + ·) (hnew (some op.cancelled)).symm))
      rw [hp, someTokens_some, someTokens_some, tokens_cancelled, zero_add]
    rw [holding, holding, hbag, deeds_append]
    exact free_moves (fun _ => he) _ _

theorem note_deeds {e : Effect υ} (h : Neutral e) : deeds [e] = [] := by
  cases e with
  | accepted | called | destroyed => exact absurd h not_false
  | written | received | notified | shutdown => rfl

theorem edit_moves (h : Edit early c c') : Moves early (holding c) (holding c') := by
  cases h with
  | user h => exact userEdit_moves h
  | take k op rest hq =>
    have hbag : bag { c with queue := Function.update c.queue k rest, hand := c.hand ++ [op] } = bag c := by
      rw [bag, bag, sum_update, sum_split allTokens c.queue k, hq, allTokens_append, allTokens_cons, allTokens_cons,
        allTokens_nil]
      abel
    rw [holding, holding, hbag]
  | await op op' hio hh hk hp hsame =>
    obtain ⟨t, rfl⟩ := hsame
    have hbag : bag { c with
        pending := Function.update c.pending (queueOf op.type) (some { op with timeoutId := t })
        hand := [], log := c.log ++ [.written op.pdu op.userData] } = bag c := by
      rw [bag, bag, sum_update, sum_split someTokens c.pending (queueOf op.type), hp, hh, allTokens_cons,
        allTokens_nil, someTokens_none, someTokens_some]
      show _ + (tokens op + _) + 0 = _
      abel
    rw [holding, holding, hbag, deeds_append]
    show Moves early _ (_, deeds c.log ++ [])
    rw [List.append_nil]
  | callHand op rest opcode pdu hh hc =>
    have hold : bag c = tokens op + bag { c with hand := rest } := by
      rw [bag, bag, hh, allTokens_cons]
      abel
    have hnew : bag { c with
        hand := heard true op :: rest, log := c.log ++ [.called op.pdu op.userData opcode pdu] } =
          tokens (heard true op) + bag { c with hand := rest } := by
      rw [bag, bag, allTokens_cons]
      abel
    rw [holding, holding, hold, hnew, deeds_append]
    exact call_moves hc opcode pdu _ _
  | callPending k op opcode pdu hh hp hc =>
    obtain ⟨X, hold, hnew⟩ := bag_pending c k
    have hnew' : bag { c with
        pending := Function.update c.pending k (some (heard true op))
        log := c.log ++ [.called op.pdu op.userData opcode pdu] } = tokens (heard true op) + X := hnew _
    rw [hp, someTokens_some] at hold
    rw [holding, holding, hold, hnew', deeds_append]
    exact call_moves hc opcode pdu _ _
  | freeHand op rest hh he =>
    have hold : bag c = tokens op + bag { c with hand := rest, log := c.log ++ freed op } := by
      rw [bag, bag, hh, allTokens_cons]
      abel
    rw [holding, holding, hold, deeds_append]
    exact free_moves he _ _
  | freePending k op hp he =>
    obtain ⟨X, hold, hnew⟩ := bag_pending c k
    have hnew' : bag { c with
        pending := Function.update c.pending k none, log := c.log ++ freed op } = 0 + X := hnew _
    rw [hp, someTokens_some] at hold
    rw [holding, holding, hold, hnew', deeds_append, zero_add]
    exact free_moves he _ _
  | retry op hio hp =>
    have hbag : bag { c with
        pending := Function.update c.pending .req none
        queue := Function.update c.queue .req (op :: c.queue .req) } = bag c := by
      rw [bag, bag, sum_update, sum_update, sum_split allTokens c.queue .req, sum_split someTokens c.pending .req,
        hp, allTokens_cons, someTokens_none, someTokens_some]
      abel
    rw [holding, holding, hbag]
  | note e h =>
    rw [holding, holding, deeds_append, note_deeds h, List.append_nil]
    exact .refl

/-! Whole runs -/

/-- A bearer that `bt_att_new` has made. -/
def IsNew (att : BtAtt υ) : Prop := ∃ ioOnL2cap crypto mtu, att = btAttNew υ ioOnL2cap crypto mtu

theorem edits_moves (h : Edits early c c') : Moves early (holding c) (holding c') := by
  induction h with
  | refl => exact .refl
  | tail _ h ih => exact ih.trans (edit_moves h)

theorem new_sorted (h : IsNew att) : Sorted (core (fun _ => false) [] att) ∧
    Closed (core (fun _ => false) [] att) ∧ holding (core (fun _ => false) [] att) = (0, []) := by
  obtain ⟨ioOnL2cap, crypto, mtu, rfl⟩ := h
  refine ⟨⟨fun k op hin => ?_, fun k op hin => ?_⟩, fun hdown => ?_, rfl⟩
  · cases k <;> cases hin
  · cases k <;> cases hin
  · cases hdown

theorem step_moves (e : AttEvent υ) (he : ¬CalmEvent e → early) (hs : Sorted (core (fun _ => false) [] att))
    (h : attStep att e = some att') :
    Moves early (holding (core (fun _ => false) [] att)) (holding (core (fun _ => false) [] att')) := by
  have hbegun : holding (begun e (core (fun _ => false) [] att)) = holding (core (fun _ => false) [] att) := by
    cases e <;> rfl
  rw [← hbegun]
  exact edits_moves (step_edits e he hs h)

theorem reach_sorted {ok : BtAtt υ → AttEvent υ → Prop} (h : Reach attStep ok IsNew att) :
    Sorted (core (fun _ => false) [] att) ∧ Closed (core (fun _ => false) [] att) := by
  induction h with
  | start h => exact ⟨(new_sorted h).1, (new_sorted h).2.1⟩
  | next _ _ hstep ih => exact ⟨step_sorted _ ih.1 hstep, step_closed _ ih.1 ih.2 hstep⟩

theorem closed_bag (hclosed : Closed (core (fun _ => false) [] att)) (hdown : att.io = false) :
    bag (core (fun _ => false) [] att) = 0 := by
  have hq : ∀ k, allTokens ((core (fun _ => false) [] att).queue k) = 0 := fun k => by
    rw [(hclosed hdown k).1, allTokens_nil]
  have hp : ∀ k, someTokens ((core (fun _ => false) [] att).pending k) = 0 := fun k => by
    rw [(hclosed hdown k).2, someTokens_none]
  simp only [bag, hq, hp, Finset.sum_const_zero]
  rfl

theorem reach_grows (hs : Sorted (core (fun _ => false) [] att)) (h : Reach attStep AnyStep (· = att) att') :
    Sorted (core (fun _ => false) [] att') ∧ ∃ L, deeds att'.log = deeds att.log ++ L := by
  induction h with
  | start h =>
    obtain rfl := h
    exact ⟨hs, [], (List.append_nil _).symm⟩
  | next _ _ hstep ih =>
    obtain ⟨hs, L, hL⟩ := ih
    obtain ⟨L', hL'⟩ := moves_grow (step_moves _ (fun _ => trivial) hs hstep : Moves True _ _)
    exact ⟨step_sorted _ hs hstep, L ++ L', by rw [← List.append_assoc, ← hL]; exact hL'⟩

theorem timeout_log {op : AttSendOp υ} {timer : Timer} (hp : att.pendingReq = some op) (hid : timer.opId = op.id)
    (hd : op.destroy = true) :
    (timeoutCb att timer).log = att.log ++ [.destroyed op.pdu op.userData, .shutdown] := by
  have hfilter : att.pendingReq.filter (fun op => op.id == timer.opId) = some op := by
    rw [hp, hid]
    simp
  simp only [timeoutCb, hfilter, callDestroy_log, BtAtt.emit, freed, hd, if_true, List.append_assoc,
    List.singleton_append]

variable [DecidableEq υ]

/-- What happens to the operations with some data. -/
def mark (u : υ) : Effect υ → Option Mark
  | .accepted op => if op.userData = some u then some .accepted else none
  | .called _ v _ _ => if v = some u then some .called else none
  | .destroyed _ v => if v = some u then some .destroyed else none
  | .written .. | .received _ | .notified .. | .shutdown => none

def life (u : υ) (att : BtAtt υ) : List Mark := att.log.filterMap (mark u)

def markOf : Deed (Option υ) → Mark
  | .accepted _ => .accepted
  | .called _ => .called
  | .destroyed _ => .destroyed

theorem life_deeds (u : υ) (att : BtAtt υ) :
    life u att = (deedsOf (some u) (deeds att.log)).map markOf := by
  rw [life]
  induction att.log with
  | nil => rfl
  | cons e log ih =>
    have hsplit : deeds (e :: log) = deeds [e] ++ deeds log := deeds_append [e] log
    rw [List.filterMap_cons, ih, hsplit, deedsOf_append, List.map_append]
    cases e with
    | accepted op => by_cases h : op.userData = some u <;> simp [mark, deeds, deed, deedsOf, Deed.data, markOf, h]
    | called _ v => by_cases h : v = some u <;> simp [mark, deeds, deed, deedsOf, Deed.data, markOf, h]
    | destroyed _ v => by_cases h : v = some u <;> simp [mark, deeds, deed, deedsOf, Deed.data, markOf, h]
    | written | received | notified | shutdown => rfl

theorem once_count {u : υ} (hone : (life u att).count .accepted ≤ 1) :
    Once (some u) (holding (core (fun _ => false) [] att)).2 := by
  have hcount : ∀ D : List (Deed (Option υ)), (D.map markOf).count Mark.accepted = D.countP Deed.accepts := by
    intro D
    rw [List.count, List.countP_map]
    refine List.countP_congr fun d _ => ?_
    cases d <;> simp [markOf, Deed.accepts]
  rw [life_deeds, hcount] at hone
  exact hone

/-- The life of what has been sent once, in any run. -/
theorem reach_life {ok : BtAtt υ → AttEvent υ → Prop} (hok : ∀ att e, ok att e → ¬CalmEvent e → early) {u : υ}
    (h : Reach attStep ok IsNew att) (hone : (life u att).count .accepted ≤ 1) :
    Life early (some u) (deedsOf (some u) (deeds att.log))
      (tokensOf (some u) (bag (core (fun _ => false) [] att))) := by
  have hmoves : Moves early (0, []) (holding (core (fun _ => false) [] att)) := by
    clear hone
    induction h with
    | start h => rw [(new_sorted h).2.2]
    | next hreach ho hstep ih => exact ih.trans (step_moves _ (hok _ _ ho) (reach_sorted hreach).1 hstep)
  exact moves_life hmoves (once_count hone) .fresh

theorem accepted_deed {op : AttSendOp υ} {u : υ} (hin : Effect.accepted op ∈ att.log) (hu : op.userData = some u) :
    Deed.accepted ⟨op.userData, op.callback, op.destroy⟩ ∈ deedsOf (some u) (deeds att.log) := by
  refine List.mem_filter.mpr ⟨List.mem_filterMap.mpr ⟨_, hin, rfl⟩, ?_⟩
  exact decide_eq_true hu

/-- As long as nobody takes an operation back and no time runs out, nothing is destroyed before it has been
called back. Once the link is down, everything has been. -/
theorem calm_operation (u : υ) (h : Reach attStep (fun _ e => CalmEvent e) IsNew att) (op : AttSendOp υ)
    (hin : .accepted op ∈ att.log) (hu : op.userData = some u) (hc : op.callback = true) (hd : op.destroy = true)
    (hone : (life u att).count .accepted ≤ 1) :
    life u att ≠ [.accepted, .destroyed] ∧
      (att.io = false → life u att = [.accepted, .called, .destroyed]) := by
  have hlife : Life False (some u) (deedsOf (some u) (deeds att.log)) _ :=
    reach_life (fun _ _ hcalm hnot => hnot hcalm) h hone
  have hdeed := accepted_deed hin hu
  have hbag : att.io = false → tokensOf (some u) (bag (core (fun _ => false) [] att)) = 0 := fun hdown => by
    rw [closed_bag (reach_sorted h).2 hdown]
    rfl
  rw [life_deeds]
  generalize deedsOf (some u) (deeds att.log) = D at hlife hdeed
  generalize tokensOf (some u) (bag (core (fun _ => false) [] att)) = K at hlife hbag
  cases hlife with
  | fresh => cases hdeed
  | waiting t => exact ⟨by simp [markOf], fun hdown => absurd (hbag hdown) (Multiset.singleton_ne_zero _)⟩
  | called t hct => exact ⟨by simp [markOf], fun hdown => absurd (hbag hdown) (Multiset.singleton_ne_zero _)⟩
  | unheard t hearly hdt =>
    simp only [List.mem_cons, Deed.accepted.injEq, reduceCtorEq, List.not_mem_nil, or_false] at hdeed
    subst hdeed
    exact (hearly hc).elim
  | ended t hct hdt => exact ⟨by simp [markOf], fun _ => rfl⟩
  | dropped t heard hdt =>
    have ht : t.destroy = true := by
      cases heard <;>
        simp only [if_true, if_false, Bool.false_eq_true, List.mem_cons, Deed.accepted.injEq, reduceCtorEq,
          List.not_mem_nil, or_false] at hdeed <;>
        rw [← hdeed, hd]
    rw [hdt] at ht
    cases ht

/-- A request whose time runs out is destroyed without a call, and is never called back, whatever happens
then: who waits for that waits for ever. -/
theorem timed_out_unheard (u : υ) (h : Reach attStep AnyStep IsNew att) (op : AttSendOp υ)
    (hp : att.pendingReq = some op) (hu : op.userData = some u) (hc : op.callback = true) (hd : op.destroy = true)
    (timer : Timer) (htimer : timer ∈ att.timers) (hid : timer.opId = op.id)
    (hafter : Reach attStep AnyStep (· = timeoutCb att timer) att') (hone : (life u att').count .accepted ≤ 1) :
    life u att' = [.accepted, .destroyed] := by
  have hstep : attStep att (.timedOut timer) = some (timeoutCb att timer) := if_pos htimer
  have hout := Reach.next h trivial hstep
  obtain ⟨-, L, hL⟩ := reach_grows (reach_sorted hout).1 hafter
  have hlater : Life True (some u) (deedsOf (some u) (deeds att'.log)) _ :=
    reach_life (fun _ _ _ _ => trivial) (reach_trans hout hafter) hone
  have hdestroyed : deeds att'.log = deeds att.log ++ [.destroyed (some u)] ++ L := by
    rw [hL, timeout_log hp hid hd, deeds_append, ← hu]
    rfl
  have hnow : Life True (some u) (deedsOf (some u) (deeds att.log))
      (tokensOf (some u) (bag (core (fun _ => false) [] att))) := by
    refine reach_life (fun _ _ _ _ => trivial) h ?_
    rw [life_deeds, hdestroyed, deedsOf_append, deedsOf_append, List.map_append, List.map_append,
      List.count_append, List.count_append] at hone
    rw [life_deeds]
    omega
  have htoken : (⟨some u, true, true⟩ : Token (Option υ)) ∈
      tokensOf (some u) (bag (core (fun _ => false) [] att)) := by
    obtain ⟨X, hX, -⟩ := bag_pending (core (fun _ => false) [] att) .req
    have hpending : (core (fun _ => false) [] att).pending .req = some op := by
      rw [core_hand]
      exact hp
    have hop : tokens op = { ⟨some u, true, true⟩ } := by simp [tokens, hu, hc, hd]
    rw [hX, hpending, someTokens_some, hop, tokensOf, Multiset.mem_filter]
    simp
  have hwaits : deedsOf (some u) (deeds att.log) = [.accepted ⟨some u, true, true⟩] := by
    generalize deedsOf (some u) (deeds att.log) = D at hnow
    generalize tokensOf (some u) (bag (core (fun _ => false) [] att)) = K at hnow htoken
    cases hnow with
    | waiting t => rw [Multiset.mem_singleton.mp htoken]
    | called t hct => exact absurd (congrArg Token.callback (Multiset.mem_singleton.mp htoken)) (by simp)
    | fresh | unheard | ended | dropped => exact absurd htoken (Multiset.notMem_zero _)
  have hend : deedsOf (some u) (deeds att'.log) =
      .accepted ⟨some u, true, true⟩ :: .destroyed (some u) :: deedsOf (some u) L := by
    rw [hdestroyed, deedsOf_append, deedsOf_append, hwaits]
    simp [deedsOf, Deed.data]
  rw [hend] at hlater
  rw [life_deeds, hend, unheard_final hlater]
  rfl

/-! A request to read an attribute, sent with the data 7 -/

def nobody : Users ℕ := fun _ => []

def readSent : List (AttEvent ℕ) :=
  [.call (.send (encReadReq 3) true true (some 7)), .writable nobody true]

/-- The request is answered, and the link goes down. -/
def readAnswered : List (AttEvent ℕ) :=
  readSent ++ [.readable nobody ⟨1, true⟩ [attOpReadResp, 100], .hungUp nobody]

def newAtt : BtAtt ℕ := btAttNew ℕ true true 23

def attAfter (es : List (AttEvent ℕ)) : BtAtt ℕ := (exec attStep newAtt es).getD newAtt

theorem attAfter_reached (es : List (AttEvent ℕ)) (h : (exec attStep newAtt es).isSome = true) :
    Reach attStep AnyStep IsNew (attAfter es) :=
  exec_reach ⟨true, true, 23, rfl⟩ es (exec_getD h newAtt)

theorem attAfter_calm (es : List (AttEvent ℕ)) (h : (exec attStep newAtt es).isSome = true)
    (hcalm : ∀ e ∈ es, CalmEvent e) : Reach attStep (fun _ e => CalmEvent e) IsNew (attAfter es) := by
  obtain ⟨tr, hrun, hes⟩ := exec_run_from (.start ⟨true, true, 23, rfl⟩ : Run attStep IsNew [] newAtt)
    (exec_getD h newAtt)
  refine run_reach hrun fun x hx => hcalm x.2.1 ?_
  rw [List.append_nil] at hx
  rw [← hes, List.mem_reverse]
  exact List.mem_map_of_mem hx

def readOp : AttSendOp ℕ := ⟨1, 0, encReadReq 3, true, true, some 7⟩

theorem readAnswered_calm : ∀ e ∈ readAnswered, CalmEvent e := by
  have hquiet : Quiet nobody := fun _ _ hc => absurd hc (List.not_mem_nil)
  intro e he
  simp only [readAnswered, readSent, List.cons_append, List.nil_append, List.mem_cons, List.not_mem_nil,
    or_false] at he
  rcases he with rfl | rfl | rfl | rfl
  · trivial
  · exact hquiet
  · exact hquiet
  · exact hquiet

theorem calm_operation_read : life 7 (attAfter readAnswered) ≠ [.accepted, .destroyed] ∧
    ((attAfter readAnswered).io = false → life 7 (attAfter readAnswered) = [.accepted, .called, .destroyed]) :=
  calm_operation 7 (attAfter_calm readAnswered rfl readAnswered_calm) readOp (List.mem_of_mem_head? rfl) rfl rfl rfl
    (by decide)

theorem timed_out_unheard_read : life 7 (timeoutCb (attAfter readSent) ⟨1, 1⟩) = [.accepted, .destroyed] :=
  timed_out_unheard 7 (attAfter_reached readSent rfl) { readOp with timeoutId := 1 } rfl rfl rfl rfl ⟨1, 1⟩
    List.mem_cons_self rfl (.start rfl) (by decide)

end

end Gattlib.AttOperations
