import Gattlib.AttOperations

namespace Gattlib.AttOrder

open AttPdus AttTransport AttEdits AttOperations
open Library.Transition Relation

variable {υ : Type}

/-- The data of a request that is accepted. -/
def sentRequest : Effect υ → Option (Option υ)
  | .accepted op => if op.type = .req then some op.userData else none
  | _ => none

/-- The data of a request that is called back. -/
def answeredRequest : Effect υ → Option (Option υ)
  | .called sent userData _ _ => if getOpType sent.opcode = .req then some userData else none
  | _ => none

def sentRequests (log : List (Effect υ)) : List (Option υ) := log.filterMap sentRequest
def answeredRequests (log : List (Effect υ)) : List (Option υ) := log.filterMap answeredRequest

/-- The data of a request that waits for its callback. -/
def waits (op : AttSendOp υ) : Option (Option υ) :=
  if op.type = .req ∧ op.callback = true then some op.userData else none

def waiting (c : Core υ) : List (Option υ) :=
  (c.hand ++ (c.pending .req).toList ++ c.queue .req).filterMap waits

/-- The requests that have been called back, and behind them those that wait, are in the order in which
they have been sent. -/
def Ordered (c : Core υ) : Prop := (answeredRequests c.log ++ waiting c).Sublist (sentRequests c.log)

/-- What happens on the link to requests: one is written, a response is read, or the link is shut down. -/
inductive Wire
  | asked | answered | ended
  deriving DecidableEq

def wire : Effect υ → Option Wire
  | .written sent _ => if getOpType sent.opcode = .req then some .asked else none
  | .received (opcode :: _) => if getOpType opcode = .rsp then some .answered else none
  | .shutdown => some .ended
  | _ => none

def wires (log : List (Effect υ)) : List Wire := log.filterMap wire

section

variable {early : Prop} {c c' : Core υ} {op : AttSendOp υ} {att att' : BtAtt υ}

@[simp] theorem waits_cancelled (op : AttSendOp υ) : waits op.cancelled = none := by simp [waits, AttSendOp.cancelled]
@[simp] theorem waits_heard (op : AttSendOp υ) : waits (heard true op) = none := by simp [waits, heard]
@[simp] theorem waits_timer (op : AttSendOp υ) (t : ℕ) : waits { op with timeoutId := t } = waits op := rfl

theorem waits_other (h : op.type ≠ .req) : waits op = none := if_neg fun hreq => h hreq.1

theorem queueOf_req {type : AttOpType} : queueOf type = .req ↔ type = .req := by
  cases type <;> simp [queueOf]

theorem freed_requests (op : AttSendOp υ) (log : List (Effect υ)) :
    answeredRequests (log ++ freed op) = answeredRequests log ∧ sentRequests (log ++ freed op) = sentRequests log := by
  rw [answeredRequests, sentRequests, List.filterMap_append, List.filterMap_append, freed]
  split
  · exact ⟨List.append_nil _, List.append_nil _⟩
  · exact ⟨List.append_nil _, List.append_nil _⟩

theorem note_requests {e : Effect υ} (h : Neutral e) (log : List (Effect υ)) :
    answeredRequests (log ++ [e]) = answeredRequests log ∧ sentRequests (log ++ [e]) = sentRequests log := by
  rw [answeredRequests, sentRequests, List.filterMap_append, List.filterMap_append]
  cases e with
  | accepted | called | destroyed => exact absurd h not_false
  | written | received | notified | shutdown => exact ⟨List.append_nil _, List.append_nil _⟩

/-- Where nothing is sent or called back, the requests that wait may become fewer. -/
theorem ordered_fewer (ho : Ordered c) (hw : (waiting c').Sublist (waiting c))
    (hl : answeredRequests c'.log = answeredRequests c.log ∧ sentRequests c'.log = sentRequests c.log) :
    Ordered c' := by
  rw [Ordered, hl.1, hl.2]
  exact (hw.append_left _).trans ho

/-- The first request that waits is called back. -/
theorem ordered_called (ho : Ordered c) {u : Option υ} (hw : waiting c = u :: waiting c')
    (ha : answeredRequests c'.log = answeredRequests c.log ++ [u]) (hl : sentRequests c'.log = sentRequests c.log) :
    Ordered c' := by
  rw [Ordered, ha, hl, List.append_assoc, List.singleton_append, ← hw]
  exact ho

theorem userEdit_ordered (h : UserEdit early c c') (ho : Ordered c) : Ordered c' := by
  cases h with
  | accept op hio hawaited =>
    by_cases hreq : op.type = .req
    · have hqueue : queueOf op.type = .req := queueOf_req.mpr hreq
      have hop : waits op = some op.userData := by
        refine if_pos ⟨hreq, hawaited.mpr ?_⟩
        rw [hqueue]
        simp
      have hw : waiting { c with
          queue := Function.update c.queue (queueOf op.type) (c.queue (queueOf op.type) ++ [op])
          log := c.log ++ [.accepted op] } = waiting c ++ [op.userData] := by
        simp [waiting, hqueue, List.filterMap_append, hop]
      have hsent : sentRequests (c.log ++ [.accepted op]) = sentRequests c.log ++ [op.userData] := by
        rw [sentRequests, List.filterMap_append]
        simp [sentRequest, hreq, sentRequests]
      have hanswered : answeredRequests (c.log ++ [.accepted op]) = answeredRequests c.log := by
        rw [answeredRequests, List.filterMap_append]
        exact List.append_nil _
      rw [Ordered, hw, hanswered, hsent, ← List.append_assoc]
      exact ho.append_right _
    · have hqueue : AttQueue.req ≠ queueOf op.type := fun he => hreq (queueOf_req.mp he.symm)
      refine ordered_fewer ho ?_ ?_
      · simp only [waiting, Function.update_of_ne hqueue]
        exact .refl _
      · rw [answeredRequests, sentRequests, List.filterMap_append, List.filterMap_append]
        simp [answeredRequest, sentRequest, hreq, answeredRequests, sentRequests]
  | drop k op l r hq he =>
    refine ordered_fewer ho ?_ (freed_requests op _)
    by_cases hk : AttQueue.req = k
    · subst hk
      simp only [waiting, Function.update_self, hq]
      exact (((List.sublist_cons_self op r).append_left l).append_left _).filterMap _
    · simp only [waiting, Function.update_of_ne hk]
      exact .refl _
  | cancel k op hp he =>
    refine ordered_fewer ho ?_ (freed_requests op _)
    by_cases hk : AttQueue.req = k
    · subst hk
      simp only [waiting, Function.update_self, hp, List.filterMap_append, Option.toList_some,
        List.filterMap_cons, waits_cancelled, List.filterMap_nil]
      exact ((List.nil_sublist _).append_left _).append_right _
    · simp only [waiting, Function.update_of_ne hk]
      exact .refl _

theorem called_requests (op : AttSendOp υ) (opcode : UInt8) (pdu : List UInt8) (log : List (Effect υ)) :
    answeredRequests (log ++ [.called op.pdu op.userData opcode pdu]) =
        answeredRequests log ++ (if op.type = .req then [op.userData] else []) ∧
      sentRequests (log ++ [.called op.pdu op.userData opcode pdu]) = sentRequests log := by
  rw [answeredRequests, sentRequests, List.filterMap_append, List.filterMap_append, AttSendOp.type]
  refine ⟨congrArg (List.filterMap answeredRequest log ++ ·) ?_, List.append_nil _⟩
  by_cases h : getOpType op.pdu.opcode = .req <;> simp [answeredRequest, h]

theorem edit_ordered (h : Edit early c c') (hs : Sorted c) (hio : c.io = true) (ho : Ordered c) : Ordered c' := by
  cases h with
  | user h => exact userEdit_ordered h ho
  | take k op rest hq hfree =>
    have hnone : c.pending k = none := hfree.resolve_right fun hdown => Bool.false_ne_true (hdown.symm.trans hio)
    refine ordered_fewer ho ?_ ⟨rfl, rfl⟩
    by_cases hk : AttQueue.req = k
    · subst hk
      simp only [waiting, Function.update_self, hq, hnone, Option.toList_none, List.append_nil, List.append_assoc,
        List.singleton_append]
      exact .refl _
    · have hother : op.type ≠ .req := by
        intro hreq
        have hfits := (hs.queued k op (by rw [hq]; exact List.mem_cons_self)).1
        exact hk ((queueOf_req.mpr hreq).symm.trans hfits)
      simp only [waiting, Function.update_of_ne hk, List.filterMap_append, List.filterMap_cons, waits_other hother,
        List.filterMap_nil, List.append_nil]
      exact .refl _
  | await op op' hup hh hk hp hsame =>
    obtain ⟨t, rfl⟩ := hsame
    refine ordered_fewer ho ?_ ?_
    · by_cases hreq : AttQueue.req = queueOf op.type
      · rw [← hreq] at hp
        simp only [waiting, ← hreq, Function.update_self, hh, hp, Option.toList_some, Option.toList_none,
          List.nil_append, List.append_nil, List.singleton_append, List.filterMap_cons, waits_timer]
        exact .refl _
      · have hother : op.type ≠ .req := fun he => hreq (queueOf_req.mpr he).symm
        simp only [waiting, Function.update_of_ne hreq, hh, List.nil_append, List.cons_append,
          List.filterMap_cons, waits_other hother]
        exact .refl _
    · rw [answeredRequests, sentRequests, List.filterMap_append, List.filterMap_append]
      exact ⟨List.append_nil _, List.append_nil _⟩
  | callHand op rest opcode pdu hh hc =>
    obtain ⟨ha, hl⟩ := called_requests op opcode pdu c.log
    by_cases hreq : op.type = .req
    · have hop : waits op = some op.userData := if_pos ⟨hreq, hc⟩
      refine ordered_called ho ?_ (ha.trans (by rw [if_pos hreq])) hl
      simp only [waiting, hh, List.cons_append, List.filterMap_cons, hop, waits_heard]
    · refine ordered_fewer ho ?_ ⟨ha.trans (by rw [if_neg hreq, List.append_nil]), hl⟩
      simp only [waiting, hh, List.cons_append, List.filterMap_cons, waits_other hreq, waits_heard]
      exact .refl _
  | callPending k op opcode pdu hh hp hc =>
    obtain ⟨ha, hl⟩ := called_requests op opcode pdu c.log
    by_cases hk : AttQueue.req = k
    · subst hk
      have hreq : op.type = .req := queueOf_req.mp (hs.under .req op hp)
      have hop : waits op = some op.userData := if_pos ⟨hreq, hc⟩
      refine ordered_called ho ?_ (ha.trans (by rw [if_pos hreq])) hl
      simp only [waiting, Function.update_self, hh, hp, Option.toList_some, List.nil_append, List.singleton_append,
        List.filterMap_cons, hop, waits_heard]
    · have hother : op.type ≠ .req := fun hreq => hk ((queueOf_req.mpr hreq).symm.trans (hs.under k op hp))
      refine ordered_fewer ho ?_ ⟨ha.trans (by rw [if_neg hother, List.append_nil]), hl⟩
      simp only [waiting, Function.update_of_ne hk]
      exact .refl _
  | freeHand op rest hh he =>
    refine ordered_fewer ho ?_ (freed_requests op _)
    simp only [waiting, hh]
    exact (((List.sublist_cons_self op rest).append_right _).append_right _).filterMap _
  | freePending k op hp he =>
    refine ordered_fewer ho ?_ (freed_requests op _)
    by_cases hk : AttQueue.req = k
    · subst hk
      simp only [waiting, Function.update_self, hp]
      exact (((List.nil_sublist [op]).append_left _).append_right _).filterMap _
    · simp only [waiting, Function.update_of_ne hk]
      exact .refl _
  | retry op hup hp =>
    refine ordered_fewer ho ?_ ⟨rfl, rfl⟩
    simp only [waiting, Function.update_self, hp, Option.toList_some, Option.toList_none, List.append_nil,
      List.append_assoc, List.singleton_append]
    exact .refl _
  | note e h =>
    refine ordered_fewer ho ?_ (note_requests h _)
    exact .refl _

/-- As long as the link is up, requests are called back in the order in which they have been sent, though
they may be tried again and taken back in between. -/
theorem requests_in_order (h : Reach attStep AnyStep IsNew att) (hup : att.io = true) :
    (answeredRequests att.log).Sublist (sentRequests att.log) := by
  have hall : att.io = true → Ordered (core (fun _ => false) [] att) := by
    clear hup
    induction h with
    | start h =>
      intro _
      obtain ⟨ioOnL2cap, crypto, mtu, rfl⟩ := h
      exact .refl _
    | next hreach _ hstep ih =>
      rename_i s t e _
      intro hup
      have hs := (reach_sorted hreach).1
      have hedits := step_edits e (fun _ => trivial) hs hstep
      have hio := edits_io hedits
      have hbegun : begun e (core (fun _ => false) [] s) = core (fun _ => false) [] s := by
        cases e with
        | hungUp users => exact absurd (hio.symm.trans hup : _ = true) Bool.false_ne_true
        | call | register | unregister | writable | readable | writeEnded | readEnded | timedOut => rfl
      rw [hbegun] at hedits hio
      have hbefore : s.io = true := hio.symm.trans hup
      have hkeep := edits_keep (P := fun c => Sorted c ∧ c.io = true ∧ Ordered c) ?_ hedits
        ⟨hs, hbefore, ih hbefore⟩
      · exact hkeep.2.2
      · rintro c c' hedit ⟨hs, hio, ho⟩
        exact ⟨sorted_edit hedit hs, (edits_io (.single hedit)).trans hio, edit_ordered hedit hs hio ho⟩
  exact (List.sublist_append_left _ _).trans (hall hup)

/-- Two requests, of which the first one has been answered. -/
def twoSent : List (AttEvent ℕ) :=
  [.call (.send (encReadReq 3) true true (some 7)), .call (.send (encReadReq 5) true true (some 8)),
    .writable nobody true, .readable nobody ⟨1, true⟩ [attOpReadResp, 100], .writable nobody true]

theorem requests_in_order_two : (answeredRequests (attAfter twoSent).log).Sublist (sentRequests (attAfter twoSent).log) :=
  requests_in_order (attAfter_reached twoSent rfl) rfl

/-! Requests on the link -/

theorem wires_append (log log' : List (Effect υ)) : wires (log ++ log') = wires log ++ wires log' :=
  List.filterMap_append

theorem freed_wires (op : AttSendOp υ) : wires (freed op) = [] := by
  rw [freed]
  split <;> rfl

theorem userEdits_wires (h : UserEdits early c c') : wires c'.log = wires c.log := by
  induction h with
  | refl => rfl
  | tail _ h ih =>
    cases h with
    | accept op => exact (wires_append _ _).trans (by rw [ih]; exact List.append_nil _)
    | drop k op => exact (wires_append _ _).trans (by rw [ih, freed_wires, List.append_nil])
    | cancel k op => exact (wires_append _ _).trans (by rw [ih, freed_wires, List.append_nil])

/-- Nothing has happened on the link that matters to requests, and the pending one is still so. -/
structure Steady (att att' : BtAtt υ) : Prop where
  wires : wires att'.log = wires att.log
  pending : att'.pendingReq.isSome = att.pendingReq.isSome

theorem steady_trans {att'' : BtAtt υ} (h : Steady att att') (h' : Steady att' att'') : Steady att att'' :=
  ⟨h'.wires.trans h.wires, h'.pending.trans h.pending⟩

theorem userEdits_steady (h : UserEdits early (core (fun _ => false) [] att) (core (fun _ => false) [] att')) :
    Steady att att' := by
  refine ⟨userEdits_wires h, ?_⟩
  have hp := userEdits_pending h .req
  rw [core_hand, core_hand] at hp
  exact hp

theorem callUser_steady (users : Users υ) (att : BtAtt υ) (e : Effect υ) (he : wire e = none) :
    Steady att (callUser users att e) := by
  have hemit : Steady att (att.emit e) := by
    refine ⟨?_, rfl⟩
    show wires (att.log ++ [e]) = _
    rw [wires_append, wires, wires, List.filterMap_cons, he]
    exact List.append_nil _
  exact steady_trans hemit (userEdits_steady (reaction_edits _ [] users (fun _ => trivial) att e : UserEdits True _ _))

theorem callCallback_steady (users : Users υ) (att : BtAtt υ) (op : AttSendOp υ) (opcode : UInt8)
    (pdu : List UInt8) : Steady att (callCallback users att op opcode pdu) := by
  rw [callCallback]
  split
  · exact callUser_steady users att _ rfl
  · exact ⟨rfl, rfl⟩

theorem destroy_steady (att : BtAtt υ) (op : AttSendOp υ) : Steady att (destroyAttSendOp att op) := by
  rw [destroyAttSendOp, callDestroy_log]
  refine ⟨?_, rfl⟩
  show wires (att.log ++ freed op) = _
  rw [wires_append, freed_wires, List.append_nil]

theorem wakeup_steady (att : BtAtt υ) : Steady att (wakeupWriter att) := by
  obtain ⟨-, -, hp, hlog⟩ := wakeup_same att
  exact ⟨by rw [hlog], congrArg (fun P : AttQueue → Option (AttSendOp υ) => (P .req).isSome) hp⟩

theorem finish_wires (users : Users υ) (att : BtAtt υ) (opcode : UInt8) (pdu : List UInt8) :
    wires (finishReq users att opcode pdu).log = wires att.log ∧
      Steady att (finishInd users att opcode pdu) := by
  refine ⟨?_, ?_⟩
  · rw [finishReq]
    split
    · rfl
    · exact (destroy_steady _ _).wires.trans (callCallback_steady users att _ opcode pdu).wires
  · rw [finishInd]
    split
    · exact ⟨rfl, rfl⟩
    · rename_i op _
      have hclear : Steady (callCallback users att op opcode pdu)
          { callCallback users att op opcode pdu with pendingInd := none } := ⟨rfl, rfl⟩
      exact steady_trans (steady_trans (callCallback_steady users att op opcode pdu) hclear) (destroy_steady _ _)

/-- No request has been written while another one was under way. -/
structure Alternates (att : BtAtt υ) : Prop where
  chain : (wires att.log).IsChain fun a b => ¬(a = .asked ∧ b = .asked)
  under : att.io = true → (wires att.log).getLast? = some .asked → att.pendingReq.isSome

theorem alternates_steady (h : Alternates att) (hs : Steady att att') (hio : att'.io = true → att.io = true) :
    Alternates att' := by
  refine ⟨hs.wires ▸ h.chain, fun hup hlast => ?_⟩
  rw [hs.pending]
  exact h.under (hio hup) (hs.wires ▸ hlast)

theorem alternates_more (h : Alternates att) (w : Wire) (hw : wires att'.log = wires att.log ++ [w])
    (hask : w = .asked → (wires att.log).getLast? ≠ some .asked ∧ att'.pendingReq.isSome) : Alternates att' := by
  refine ⟨?_, fun _ hlast => ?_⟩
  · rw [hw, List.isChain_append]
    refine ⟨h.chain, List.isChain_singleton _, fun x hx y hy => ?_⟩
    obtain rfl := Option.some.inj hy
    rintro ⟨rfl, hasked⟩
    exact (hask hasked).1 hx
  · rw [hw, List.getLast?_concat] at hlast
    exact (hask (Option.some.inj hlast)).2

theorem handleRsp_wires (users : Users υ) (link : Link) (att : BtAtt υ) (opcode : UInt8) (pdu : List UInt8) :
    wires (handleRsp users link att opcode pdu).log = wires att.log ∨
      wires (handleRsp users link att opcode pdu).log = wires att.log ++ [.ended] := by
  rw [handleRsp]
  split
  · exact .inr (wires_append _ _)
  · rename_i op hop
    left
    simp only
    split
    · rename_i att' hverdict
      rw [(wakeup_steady _).wires]
      split at hverdict
      · unfold handleErrorRsp at hverdict
        split at hverdict
        · split at hverdict
          · cases hverdict
          · rename_i hchange
            cases hverdict
            exact congrArg wires (changeSecurity_same hchange).2.log
        · cases hverdict
      · cases hverdict
    · split
      · rw [(wakeup_steady _).wires, (finish_wires users att attOpError []).1]
      · rw [(wakeup_steady _).wires, (finish_wires users att opcode pdu).1]

theorem handleNotify_steady (users : Users υ) (att : BtAtt υ) (opcode : UInt8) (pdu : List UInt8) :
    Steady att (handleNotify users att opcode pdu) := by
  simp only [handleNotify]
  split
  · exact ⟨rfl, rfl⟩
  · have hall : ∀ (found : List AttNotify) (att : BtAtt υ), Steady att (found.foldl (fun att notify =>
        callUser users att (.notified notify.id opcode pdu)) att) := by
      intro found
      induction found with
      | nil => exact fun att => ⟨rfl, rfl⟩
      | cons notify found ih => exact fun att => steady_trans (callUser_steady users att _ rfl) (ih _)
    split
    · refine steady_trans (hall (att.notifyList.filter fun notify => opcodeMatch notify.opcode opcode) att) ?_
      exact userEdits_steady (send_edits True _ [] _ _ false false none)
    · exact hall _ att

theorem canRead_alternates (users : Users υ) (link : Link) (bytes : List UInt8) (hup : att.io = true)
    (h : Alternates att) : Alternates (canReadData users link att bytes) := by
  simp only [canReadData]
  have hquiet : ∀ bytes, wire (Effect.received bytes : Effect υ) = none → Alternates (att.emit (.received bytes)) := by
    intro bytes hnone
    refine alternates_steady h ⟨?_, rfl⟩ fun _ => hup
    show wires (att.log ++ [.received bytes]) = _
    rw [wires_append, wires, wires, List.filterMap_cons, hnone]
    exact List.append_nil _
  split
  · rename_i hbytes
    rw [hbytes]
    exact hquiet [] rfl
  · rename_i opcode pdu hbytes
    rw [hbytes]
    split
    · rename_i htype
      have hwire : wires (att.emit (.received (opcode :: pdu))).log = wires att.log ++ [.answered] := by
        show wires (att.log ++ [.received (opcode :: pdu)]) = _
        rw [wires_append]
        exact congrArg (wires att.log ++ ·) (by simp [wires, wire, htype])
      have hread : Alternates (att.emit (.received (opcode :: pdu))) :=
        alternates_more h .answered hwire fun he => nomatch he
      rcases handleRsp_wires users link (att.emit (.received (opcode :: pdu))) opcode pdu with hsame | hended
      · refine ⟨hsame ▸ hread.chain, fun _ hlast => ?_⟩
        rw [hsame, hwire, List.getLast?_concat] at hlast
        cases hlast
      · exact alternates_more hread .ended hended fun he => nomatch he
    · rename_i htype
      have hread := hquiet (opcode :: pdu) (by simp [wire, htype])
      rw [handleConf]
      split
      · exact alternates_more hread .ended (wires_append _ _) fun he => nomatch he
      · refine alternates_steady hread ?_ fun _ => hup
        exact steady_trans (finish_wires users _ _ _).2 (wakeup_steady _)
    · rename_i htype
      have hread := hquiet (opcode :: pdu) (by simp [wire, htype])
      split
      · exact alternates_more hread .ended (wires_append _ _) fun he => nomatch he
      · have hflag : Steady (att.emit (.received (opcode :: pdu)))
            { att.emit (.received (opcode :: pdu)) with inReq := true } := ⟨rfl, rfl⟩
        exact alternates_steady hread (steady_trans hflag (handleNotify_steady users _ _ _)) fun _ => hup
    · rename_i hnot _ _
      have hread := hquiet (opcode :: pdu) (if_neg hnot)
      exact alternates_steady hread (handleNotify_steady users _ _ _) fun _ => hup

theorem canWrite_alternates (users : Users υ) (sent : Bool) (hup : att.io = true)
    (hs : Sorted (core (fun _ => false) [] att)) (h : Alternates att) :
    Alternates (canWriteData users sent att) := by
  rw [canWriteData]
  split
  · exact alternates_steady h ⟨rfl, rfl⟩ fun _ => hup
  · rename_i op att₁ hpick
    obtain ⟨k, rest, hq, hp, -, hp₁, hio₁, hlog₁⟩ := pick_parts hpick
    have hin : op ∈ (core (fun _ => false) [] att).queue k := by
      show op ∈ queues att k
      rw [hq]
      exact List.mem_cons_self
    obtain ⟨hk, -⟩ := hs.queued k op hin
    have htaken : Steady att att₁ :=
      ⟨by rw [hlog₁], congrArg (fun P : AttQueue → Option (AttSendOp υ) => (P .req).isSome) hp₁⟩
    have h₁ : Alternates att₁ := alternates_steady h htaken fun _ => hup
    have hwritten : op.type ≠ .req → Steady att₁ (att₁.emit (.written op.pdu op.userData)) := by
      intro hother
      refine ⟨?_, rfl⟩
      show wires (att₁.log ++ [.written op.pdu op.userData]) = _
      rw [wires_append]
      refine (congrArg (wires att₁.log ++ ·) ?_).trans (List.append_nil _)
      rw [AttSendOp.type] at hother
      simp [wires, wire, hother]
    have hup₁ : att₁.io = true := hio₁.trans hup
    split
    · exact alternates_steady h₁ (steady_trans (callCallback_steady users _ _ _ _) (destroy_steady _ _)) fun _ => hup₁
    · split
      · rename_i htype
        have hreq : k = .req := hk.symm.trans (queueOf_req.mpr htype)
        subst hreq
        refine alternates_more h₁ .asked ?_ fun _ => ⟨fun hlast => ?_, rfl⟩
        · show wires (att₁.log ++ [.written op.pdu op.userData]) = _
          rw [wires_append]
          rw [AttSendOp.type] at htype
          exact congrArg (wires att₁.log ++ ·) (by simp [wires, wire, htype])
        · have hsome := h₁.under hup₁ hlast
          have hnone : att.pendingReq = none := hp
          rw [htaken.pending, hnone] at hsome
          cases hsome
      · rename_i htype
        have hsteady := hwritten (by rw [htype]; simp)
        exact alternates_steady h₁ ⟨hsteady.wires, hsteady.pending⟩ fun _ => hup₁
      · rename_i htype
        have hflag : Steady (att₁.emit (.written op.pdu op.userData))
            { att₁.emit (.written op.pdu op.userData) with inReq := false } := ⟨rfl, rfl⟩
        have hsteady := steady_trans (hwritten (by rw [htype]; simp)) (steady_trans hflag (destroy_steady _ op))
        exact alternates_steady h₁ hsteady fun _ => hup₁
      · rename_i hnreq _ _
        exact alternates_steady h₁ (steady_trans (hwritten hnreq) (destroy_steady _ _)) fun _ => hup₁

theorem discAll_wires (users : Users υ) (q : List (AttSendOp υ)) (att : BtAtt υ) :
    wires (q.foldl (discAttSendOp users) att).log = wires att.log := by
  induction q generalizing att with
  | nil => rfl
  | cons op q ih =>
    rw [List.foldl_cons, ih]
    exact (steady_trans (callCallback_steady users att op attOpError []) (destroy_steady _ _)).wires

theorem timeout_alternates (timer : Timer) (h : Alternates att) : Alternates (timeoutCb att timer) := by
  have hended : ∀ (op : AttSendOp υ) (att' : BtAtt υ), att'.log = att.log →
      Alternates ((att'.callDestroy op).emit .shutdown) := by
    intro op att' hlog
    refine alternates_more h .ended ?_ fun he => nomatch he
    rw [callDestroy_log]
    show wires (att'.log ++ freed op ++ [.shutdown]) = _
    rw [wires_append, wires_append, freed_wires, List.append_nil, hlog]
    rfl
  simp only [timeoutCb]
  split
  · exact hended _ _ rfl
  · exact hended _ _ rfl
  · exact alternates_steady h ⟨rfl, rfl⟩ id

theorem disconnect_wires (users : Users υ) (att : BtAtt υ) : (disconnectCb users att).io = false ∧
    wires (disconnectCb users att).log = wires att.log := by
  refine ⟨edits_io (disconnect_edits users (fun _ => trivial) att : Edits True _ _), ?_⟩
  rw [disconnectCb]
  show wires (finishInd users (finishReq users _ attOpError []) attOpError []).log = _
  rw [(finish_wires users _ attOpError []).2.wires, (finish_wires users _ attOpError []).1, discWriteQueue,
    discAll_wires, discIndQueue, discAll_wires, discReqQueue, discAll_wires]

theorem step_alternates (e : AttEvent υ) (hs : Sorted (core (fun _ => false) [] att)) (h : Alternates att)
    (hstep : attStep att e = some att') : Alternates att' := by
  have hkept : ∀ c : UserCall υ, Alternates (userCall att c) := by
    intro c
    have hedits : UserEdits True _ _ := userCall_edits (fun _ => false) [] att c fun _ => trivial
    refine alternates_steady h (userEdits_steady hedits) fun hup => ?_
    exact (edits_io (user_edits hedits)).symm.trans hup
  cases e with
  | call c =>
    obtain rfl := Option.some.inj hstep
    exact hkept c
  | register opcode =>
    obtain rfl := Option.some.inj hstep
    rw [btAttRegister]
    split
    · exact h
    · exact alternates_steady h ⟨rfl, rfl⟩ id
  | unregister | writeEnded | readEnded =>
    obtain rfl := Option.some.inj hstep
    exact alternates_steady h ⟨rfl, rfl⟩ id
  | writable users sent =>
    obtain ⟨hup, hsome⟩ := Option.ite_none_right_eq_some.mp hstep
    obtain rfl := Option.some.inj hsome
    exact canWrite_alternates users sent hup.1 hs h
  | readable users link bytes =>
    obtain ⟨hup, hsome⟩ := Option.ite_none_right_eq_some.mp hstep
    obtain rfl := Option.some.inj hsome
    exact canRead_alternates users link bytes hup.1 h
  | timedOut timer =>
    obtain ⟨-, hsome⟩ := Option.ite_none_right_eq_some.mp hstep
    obtain rfl := Option.some.inj hsome
    exact timeout_alternates timer h
  | hungUp users =>
    obtain ⟨-, hsome⟩ := Option.ite_none_right_eq_some.mp hstep
    obtain rfl := Option.some.inj hsome
    obtain ⟨hdown, hwires⟩ := disconnect_wires users att
    exact ⟨hwires ▸ h.chain, fun hup => absurd (hdown.symm.trans hup) Bool.false_ne_true⟩

/-- Between two requests on the link there is a response from the peer, or the link has been shut down. -/
theorem one_request_at_a_time (h : Reach attStep AnyStep IsNew att) :
    (wires att.log).IsChain fun a b => ¬(a = .asked ∧ b = .asked) := by
  have hall : Alternates att := by
    induction h with
    | start h =>
      obtain ⟨ioOnL2cap, crypto, mtu, rfl⟩ := h
      exact ⟨.nil, fun _ hlast => nomatch hlast⟩
    | next hreach _ hstep ih => exact step_alternates _ (reach_sorted hreach).1 ih hstep
  exact hall.chain

theorem one_request_at_a_time_two :
    (wires (attAfter twoSent).log).IsChain fun a b => ¬(a = .asked ∧ b = .asked) :=
  one_request_at_a_time (attAfter_reached twoSent rfl)

end

end Gattlib.AttOrder
