import Gattlib.AttTransport
import Gattlib.Library.Dialogue

namespace Gattlib.AttDialogues

open AttPdus AttTransport
open Library.Dialogue Library.Transition

variable {σ τ R : Type}

/-- A client as the only user of a bearer. Its state is the data of its request, and it goes on when it is
called back. -/
def reaction (client : σ → Pdu → Next σ Pdu R) : Users σ
  | .called _ (some s) opcode pdu =>
    match client s ⟨opcode, pdu⟩ with
    | .send s' req => [.send req true true (some s')]
    | .stop _ => []
  | _ => []

/-- How the client ends when it is called back. -/
def concluded (client : σ → Pdu → Next σ Pdu R) : Effect σ → Option R
  | .called _ (some s) opcode pdu =>
    match client s ⟨opcode, pdu⟩ with
    | .send _ _ => none
    | .stop r => some r
  | _ => none

def reports (client : σ → Pdu → Next σ Pdu R) (log : List (Effect σ)) : List R :=
  log.filterMap (concluded client)

/-- A bearer, the peer at the other end of the link, and the response that is under way. -/
structure World (σ τ : Type) where
  att : BtAtt σ
  peer : τ
  answer : Option Pdu

/-- The main loop lets the bearer write, a response comes in, or a notification. -/
inductive WorldEvent
  | writable
  | answered (link : Link)
  | notified (link : Link) (opcode : UInt8) (pdu : List UInt8)

def worldStep (client : σ → Pdu → Next σ Pdu R) (peer : τ → Pdu → τ × Option Pdu) (w : World σ τ) :
    WorldEvent → Option (World σ τ)
  | .writable =>
    (attStep w.att (.writable (reaction client) true)).map fun att =>
      match pickNextSendOp w.att with
      | some (op, _) => ⟨att, (peer w.peer op.pdu).1, (peer w.peer op.pdu).2⟩
      | none => { w with att := att }
  | .answered link =>
    w.answer.bind fun resp =>
      (attStep w.att (.readable (reaction client) link (resp.opcode :: resp.payload))).map fun att =>
        { w with att := att, answer := none }
  | .notified link opcode pdu =>
    if getOpType opcode = .notify then
      (attStep w.att (.readable (reaction client) link (opcode :: pdu))).map fun att => { w with att := att }
    else none

/-- There is a request that can be written, or a response that can be read. -/
def CanGoOn (client : σ → Pdu → Next σ Pdu R) (peer : τ → Pdu → τ × Option Pdu) (w : World σ τ) : Prop :=
  (w.att.reqQueue ≠ [] ∧ (worldStep client peer w .writable).isSome) ∨
    ∀ link, (worldStep client peer w (.answered link)).isSome

/-- The client has just sent its first request. -/
def Begun (mtu : ℕ) (s : σ) (req : Pdu) (t : τ) (w : World σ τ) : Prop :=
  ∃ ioOnL2cap crypto, w =
    ⟨(btAttSend (btAttNew σ ioOnL2cap crypto mtu) req true true (some s)).1, t, none⟩

/-- A request that the bearer takes. -/
def Request (mtu : ℕ) (req : Pdu) : Prop := getOpType req.opcode = .req ∧ req.length ≤ mtu

/-- A response to the request, and not one that makes the bearer change the security level of the link. -/
structure Response (mtu : ℕ) (req resp : Pdu) : Prop where
  type : getOpType resp.opcode = .rsp
  fits : resp.length ≤ mtu
  matching : resp.opcode ≠ attOpError → getReqOpcode resp.opcode = req.opcode
  error : resp.opcode = attOpError → ∃ low high ecode, resp.payload = [req.opcode, low, high, ecode] ∧
    ecode ≠ btAttErrorInsufficientEncryption ∧ ecode ≠ btAttErrorAuthentication

/-- The parties keep to the protocol: the client only sends requests of a kind, which the peer answers with
responses to them in every state that it gets to. -/
structure Proper (mtu : ℕ) (client : σ → Pdu → Next σ Pdu R) (peer : τ → Pdu → τ × Option Pdu)
    (Asked : σ → Pdu → Prop) (Good : τ → Prop) : Prop where
  requests : ∀ s req resp s' req', Asked s req → client s resp = .send s' req' → Asked s' req'
  fits : ∀ s req, Asked s req → Request mtu req
  responses : ∀ t s req, Good t → Asked s req →
    Good (peer t req).1 ∧ ∀ resp ∈ (peer t req).2, Response mtu req resp

/-- The operation is the request of a client in that state. -/
structure Asks (mtu : ℕ) (op : AttSendOp σ) (s : σ) : Prop where
  request : Request mtu op.pdu
  userData : op.userData = some s
  callback : op.callback = true

/-- A bearer that is up and carries requests only: those that are queued, the pending one, and what the
client has concluded so far. -/
structure Carries (client : σ → Pdu → Next σ Pdu R) (mtu : ℕ) (queue : List (AttSendOp σ))
    (pending : Option (AttSendOp σ)) (results : List R) (att : BtAtt σ) : Prop where
  io : att.io = true
  reader : att.reader = true
  reqQueue : att.reqQueue = queue
  pendingReq : att.pendingReq = pending
  indQueue : att.indQueue = []
  pendingInd : att.pendingInd = none
  writeQueue : att.writeQueue = []
  mtu : att.mtu = mtu
  results : reports client att.log = results

section

variable {client : σ → Pdu → Next σ Pdu R} {peer : τ → Pdu → τ × Option Pdu} {mtu : ℕ} {att att' : BtAtt σ}
  {s s' : σ} {req resp : Pdu} {op : AttSendOp σ} {queue : List (AttSendOp σ)} {pending : Option (AttSendOp σ)}
  {results : List R} {opcode : UInt8} {pdu : List UInt8} {r : R}

theorem emit_carries (h : Carries client mtu queue pending results att) (e : Effect σ) :
    Carries client mtu queue pending (results ++ (concluded client e).toList) (att.emit e) := by
  refine ⟨h.io, h.reader, h.reqQueue, h.pendingReq, h.indQueue, h.pendingInd, h.writeQueue, h.mtu, ?_⟩
  show (att.log ++ [e]).filterMap (concluded client) = _
  rw [List.filterMap_append, ← h.results, reports, List.filterMap_cons, List.filterMap_nil]
  cases concluded client e <;> rfl

/-- Nothing that the client concludes something from. -/
theorem emit_quiet (h : Carries client mtu queue pending results att) {e : Effect σ} (he : concluded client e = none) :
    Carries client mtu queue pending results (att.emit e) := by
  have hnext := emit_carries h e
  rwa [he, Option.toList_none, List.append_nil] at hnext

theorem wakeup_carries (h : Carries client mtu queue pending results att) :
    Carries client mtu queue pending results (wakeupWriter att) := by
  rw [wakeupWriter]
  split_ifs
  · exact h
  · exact h
  · exact ⟨h.io, h.reader, h.reqQueue, h.pendingReq, h.indQueue, h.pendingInd, h.writeQueue, h.mtu, h.results⟩

/-- The writer is on when a request waits that can be written. -/
theorem wakeup_active (h : Carries client mtu queue none results att) (hq : queue ≠ []) :
    (wakeupWriter att).writerActive = true := by
  have hwork : ¬(att.writeQueue = [] ∧ (att.pendingReq.isSome ∨ att.reqQueue = []) ∧
      (att.pendingInd.isSome ∨ att.indQueue = [])) := by
    rintro ⟨-, hsome | hnone, -⟩
    · rw [h.pendingReq] at hsome
      cases hsome
    · exact hq (h.reqQueue.symm.trans hnone)
  rw [wakeupWriter]
  by_cases hon : att.writerActive = true
  · rw [if_pos hon, hon]
  · rw [if_neg hon, if_neg hwork]
    exact h.io

theorem destroy_carries (h : Carries client mtu queue pending results att) (op : AttSendOp σ) :
    Carries client mtu queue pending results (destroyAttSendOp att op) := by
  have htimers : Carries client mtu queue pending results
      { att with timers := att.timers.filter fun t => t.id != op.timeoutId } :=
    ⟨h.io, h.reader, h.reqQueue, h.pendingReq, h.indQueue, h.pendingInd, h.writeQueue, h.mtu, h.results⟩
  rw [destroyAttSendOp, BtAtt.callDestroy]
  split_ifs
  · exact emit_quiet htimers rfl
  · exact htimers

theorem settle_carries (h : Carries client mtu queue pending results att) (op : AttSendOp σ) :
    Carries client mtu queue none results (destroyAttSendOp { att with pendingReq := none } op) := by
  have hnone : Carries client mtu queue none results { att with pendingReq := none } :=
    ⟨h.io, h.reader, h.reqQueue, rfl, h.indQueue, h.pendingInd, h.writeQueue, h.mtu, h.results⟩
  exact destroy_carries hnone op

/-- A request of the client goes to the queue. -/
theorem send_carries (h : Carries client mtu [] pending results att) (hreq : Request mtu req) (s : σ) :
    ∃ op, Asks mtu op s ∧ op.pdu = req ∧
      Carries client mtu [op] pending results (btAttSend att req true true (some s)).1 ∧
        (pending = none → (btAttSend att req true true (some s)).1.writerActive = true) := by
  have hio : ¬¬(att.io = true) := not_not.mpr h.io
  have hcreate : createAttSendOp att.mtu (freshId att.nextSendId) req true true (some s) =
      some ⟨freshId att.nextSendId, 0, req, true, true, some s⟩ := by
    simp [createAttSendOp, hreq.1, h.mtu, hreq.2]
  refine ⟨⟨freshId att.nextSendId, 0, req, true, true, some s⟩, ⟨hreq, rfl, rfl⟩, rfl, ?_⟩
  have htype : (⟨freshId att.nextSendId, 0, req, true, true, some s⟩ : AttSendOp σ).type = .req := hreq.1
  rw [btAttSend, if_neg hio]
  simp only [hcreate, enqueue, htype, h.reqQueue, List.nil_append]
  have hqueued : Carries client mtu [⟨freshId att.nextSendId, 0, req, true, true, some s⟩] pending results
      { att with
        nextSendId := freshId att.nextSendId + 1
        reqQueue := [⟨freshId att.nextSendId, 0, req, true, true, some s⟩] } :=
    ⟨h.io, h.reader, rfl, h.pendingReq, h.indQueue, h.pendingInd, h.writeQueue, h.mtu, h.results⟩
  have haccepted := emit_quiet hqueued
    (e := .accepted ⟨freshId att.nextSendId, 0, req, true, true, some s⟩) rfl
  refine ⟨wakeup_carries haccepted, fun hnone => ?_⟩
  subst hnone
  exact wakeup_active haccepted (List.cons_ne_nil _ _)

/-! The request is called back -/

theorem callback_reaction (hop : Asks mtu op s) (att : BtAtt σ) (opcode : UInt8) (pdu : List UInt8) :
    callCallback (reaction client) att op opcode pdu =
      (reaction client (.called op.pdu (some s) opcode pdu)).foldl userCall
        (att.emit (.called op.pdu (some s) opcode pdu)) := by
  rw [callCallback, if_pos hop.callback, hop.userData, callUser]

theorem finish_stop (hop : Asks mtu op s) (h : Carries client mtu [] (some op) [] att)
    (hc : client s ⟨opcode, pdu⟩ = .stop r) :
    Carries client mtu [] none [r] (finishReq (reaction client) att opcode pdu) := by
  have hcalls : reaction client (.called op.pdu (some s) opcode pdu) = [] := by rw [reaction, hc]
  have hresult : concluded client (.called op.pdu (some s) opcode pdu) = some r := by rw [concluded, hc]
  have hcalled := emit_carries h (.called op.pdu (some s) opcode pdu)
  rw [hresult] at hcalled
  rw [finishReq, h.pendingReq]
  simp only [callback_reaction hop, hcalls, List.foldl_nil]
  exact settle_carries hcalled _

theorem finish_send (hop : Asks mtu op s) (h : Carries client mtu [] (some op) [] att)
    (hc : client s ⟨opcode, pdu⟩ = .send s' req) (hreq : Request mtu req) :
    ∃ op', Asks mtu op' s' ∧ op'.pdu = req ∧
      Carries client mtu [op'] none [] (finishReq (reaction client) att opcode pdu) := by
  have hcalls : reaction client (.called op.pdu (some s) opcode pdu) = [.send req true true (some s')] := by
    rw [reaction, hc]
  have hresult : concluded client (.called op.pdu (some s) opcode pdu) = none := by rw [concluded, hc]
  obtain ⟨op', hop', hpdu, hsent, -⟩ := send_carries (emit_quiet h hresult) hreq s'
  refine ⟨op', hop', hpdu, ?_⟩
  rw [finishReq, h.pendingReq]
  simp only [callback_reaction hop, hcalls, List.foldl_cons, List.foldl_nil, userCall]
  exact settle_carries hsent _

/-- A response to the pending request gets to the client as it is. -/
theorem read_response (hop : Asks mtu op s) (h : Carries client mtu [] (some op) [] att)
    (hresp : Response mtu op.pdu resp) (link : Link) :
    ∃ att', Carries client mtu [] (some op) [] att' ∧
      canReadData (reaction client) link att (resp.opcode :: resp.payload) =
        wakeupWriter (finishReq (reaction client) att' resp.opcode resp.payload) := by
  have hall : (resp.opcode :: resp.payload).take att.mtu = resp.opcode :: resp.payload :=
    List.take_of_length_le (h.mtu ▸ hresp.fits)
  have hread : Carries client mtu [] (some op) [] (att.emit (.received (resp.opcode :: resp.payload))) :=
    emit_quiet h rfl
  refine ⟨_, hread, ?_⟩
  rw [canReadData, hall]
  simp only [hresp.type]
  rw [handleRsp, hread.pendingReq]
  have hreq : op.pdu.opcode ≠ 0 := by
    intro hzero
    have htype := hop.request.1
    rw [hzero] at htype
    exact absurd htype (by decide)
  by_cases herror : resp.opcode = attOpError
  · obtain ⟨low, high, ecode, hpayload, hencrypt, hauthen⟩ := hresp.error herror
    have hkeeps : changeSecurity (att.emit (.received (resp.opcode :: resp.payload))) link ecode = none := by
      simp [changeSecurity, hencrypt, hauthen]
    simp only [if_pos herror, handleErrorRsp, hpayload] at hkeeps ⊢
    simp only [hkeeps, hreq, ne_eq, not_true_eq_false, or_self, if_false]
  · simp only [if_neg herror, hresp.matching herror, hreq, ne_eq, not_true_eq_false, or_self, if_false]

theorem notify_all (found : List AttNotify) (h : Carries client mtu queue pending results att) :
    Carries client mtu queue pending results (found.foldl (fun att notify =>
        callUser (reaction client) att (.notified notify.id opcode pdu)) att) ∧
      (found.foldl (fun att notify => callUser (reaction client) att (.notified notify.id opcode pdu))
        att).writerActive = att.writerActive := by
  induction found generalizing att with
  | nil => exact ⟨h, rfl⟩
  | cons notify found ih => exact ih (emit_quiet h (e := .notified notify.id opcode pdu) rfl)

/-- A notification is nothing to the client. -/
theorem read_notification (h : Carries client mtu queue pending results att) (hn : getOpType opcode = .notify)
    (link : Link) : Carries client mtu queue pending results
        (canReadData (reaction client) link att (opcode :: pdu)) ∧
      (canReadData (reaction client) link att (opcode :: pdu)).writerActive = att.writerActive := by
  rw [canReadData]
  cases hbytes : (opcode :: pdu).take att.mtu with
  | nil => exact ⟨emit_quiet h rfl, rfl⟩
  | cons first rest =>
    have hfirst : opcode = first := by
      have hhead := congrArg List.head? (List.take_append_drop att.mtu (opcode :: pdu))
      rw [hbytes] at hhead
      exact (Option.some.inj hhead).symm
    subst hfirst
    have hreq : AttOpType.notify ≠ .req := by decide
    have hread : Carries client mtu queue pending results (att.emit (.received (opcode :: rest))) := emit_quiet h rfl
    simp only [hn, handleNotify]
    split
    · exact ⟨hread, rfl⟩
    · rw [if_neg fun hnone => hreq hnone.2]
      exact notify_all _ hread

/-! What a run over the transport and a dialogue have in common -/

/-- The dialogue from its beginning comes to the state of the peer and what the client does next. -/
def Comes (client : σ → Pdu → Next σ Pdu R) (peer : τ → Pdu → τ × Option Pdu) (first : Next σ Pdu R) (t₀ t : τ)
    (next : Next σ Pdu R) : Prop :=
  ∃ k, ∀ n, converse client peer (n + k) t₀ first = converse client peer n t next

theorem comes_answered {first : Next σ Pdu R} {t₀ t t' : τ} (h : Comes client peer first t₀ t (.send s req))
    (hp : peer t req = (t', some resp)) : Comes client peer first t₀ t' (client s resp) := by
  obtain ⟨k, hk⟩ := h
  refine ⟨k + 1, fun n => ?_⟩
  rw [← converse_answered hp, ← hk (n + 1), Nat.add_right_comm, Nat.add_assoc]

/-- Where a run is: a request is queued, or under way, or the client has concluded. -/
inductive Stage (client : σ → Pdu → Next σ Pdu R) (peer : τ → Pdu → τ × Option Pdu) (mtu : ℕ)
    (Asked : σ → Pdu → Prop) (Good : τ → Prop) (first : Next σ Pdu R) (t₀ : τ) (w : World σ τ) : Prop
  | asking (op : AttSendOp σ) (s : σ) (hop : Asks mtu op s) (hasked : Asked s op.pdu) (hgood : Good w.peer)
      (hatt : Carries client mtu [op] none [] w.att) (hon : w.att.writerActive = true) (ha : w.answer = none)
      (hcomes : Comes client peer first t₀ w.peer (.send s op.pdu))
  | awaiting (op : AttSendOp σ) (s : σ) (t : τ) (hop : Asks mtu op s) (hasked : Asked s op.pdu) (hgood : Good t)
      (hatt : Carries client mtu [] (some op) [] w.att) (ha : peer t op.pdu = (w.peer, w.answer))
      (hcomes : Comes client peer first t₀ t (.send s op.pdu))
  | ended (r : R) (hatt : Carries client mtu [] none [r] w.att) (ha : w.answer = none)
      (hcomes : Comes client peer first t₀ w.peer (.stop r))

theorem pick_queued (h : Carries client mtu [op] none results att) :
    pickNextSendOp att = some (op, { att with reqQueue := [] }) := by
  simp only [pickNextSendOp, h.writeQueue, h.pendingReq, h.reqQueue]

theorem pick_nothing (h : Carries client mtu [] pending results att) : pickNextSendOp att = none := by
  cases hp : att.pendingReq with
  | none => simp only [pickNextSendOp, h.writeQueue, hp, h.reqQueue, h.indQueue, h.pendingInd]
  | some op => simp only [pickNextSendOp, h.writeQueue, hp, h.indQueue, h.pendingInd]

/-- The request is written and is under way from then on. -/
theorem write_queued (hop : Asks mtu op s) (h : Carries client mtu [op] none results att) :
    ∃ op', Asks mtu op' s ∧ op'.pdu = op.pdu ∧
      Carries client mtu [] (some op') results (canWriteData (reaction client) true att) := by
  have htype : op.type = .req := hop.request.1
  refine ⟨{ op with timeoutId := att.nextTimer }, ⟨hop.request, hop.userData, hop.callback⟩, rfl, ?_⟩
  have htaken : Carries client mtu [] none results { att with reqQueue := [] } :=
    ⟨h.io, h.reader, rfl, h.pendingReq, h.indQueue, h.pendingInd, h.writeQueue, h.mtu, h.results⟩
  have hwritten := emit_quiet htaken (e := .written op.pdu op.userData) rfl
  rw [canWriteData, pick_queued h]
  simp only [not_true_eq_false, if_false, htype, startTimer]
  exact ⟨hwritten.io, hwritten.reader, hwritten.reqQueue, rfl, hwritten.indQueue, hwritten.pendingInd,
    hwritten.writeQueue, hwritten.mtu, hwritten.results⟩

/-- There is nothing to write, and the watch ends. -/
theorem write_nothing (h : Carries client mtu [] pending results att) :
    Carries client mtu [] pending results (canWriteData (reaction client) true att) := by
  rw [canWriteData, pick_nothing h]
  exact ⟨h.io, h.reader, h.reqQueue, h.pendingReq, h.indQueue, h.pendingInd, h.writeQueue, h.mtu, h.results⟩

theorem writable_step (hs : attStep att (.writable (reaction client) true) = some att') :
    att' = canWriteData (reaction client) true att := by
  rw [attStep] at hs
  split at hs
  · exact (Option.some.inj hs).symm
  · cases hs

theorem readable_step (h : Carries client mtu queue pending results att) (link : Link) (bytes : List UInt8) :
    attStep att (.readable (reaction client) link bytes) =
      some (canReadData (reaction client) link att bytes) := if_pos ⟨h.io, h.reader⟩

variable {Asked : σ → Pdu → Prop} {Good : τ → Prop} {first : Next σ Pdu R} {t t₀ : τ} {w w' : World σ τ}
  {e : WorldEvent}

theorem stage_writable (h : Stage client peer mtu Asked Good first t₀ w)
    (hs : worldStep client peer w .writable = some w') : Stage client peer mtu Asked Good first t₀ w' := by
  rw [worldStep] at hs
  obtain ⟨att', hatt', rfl⟩ := Option.map_eq_some_iff.mp hs
  obtain rfl := writable_step hatt'
  cases h with
  | asking op s hop hasked hgood hatt hon ha hcomes =>
    obtain ⟨op', hop', hpdu, hwritten⟩ := write_queued hop hatt
    rw [pick_queued hatt]
    rw [← hpdu] at hcomes hasked
    refine .awaiting op' s w.peer hop' hasked hgood hwritten ?_ hcomes
    rw [hpdu]
  | awaiting op s t hop hasked hgood hatt ha hcomes =>
    rw [pick_nothing hatt]
    exact .awaiting op s t hop hasked hgood (write_nothing hatt) ha hcomes
  | ended r hatt ha hcomes =>
    rw [pick_nothing hatt]
    exact .ended r (write_nothing hatt) ha hcomes

theorem stage_answered (hproper : Proper mtu client peer Asked Good)
    (h : Stage client peer mtu Asked Good first t₀ w) (link : Link)
    (hs : worldStep client peer w (.answered link) = some w') : Stage client peer mtu Asked Good first t₀ w' := by
  rw [worldStep] at hs
  obtain ⟨resp, hanswer, hs⟩ := Option.bind_eq_some_iff.mp hs
  cases h with
  | asking op s hop hasked hgood hatt hon ha hcomes =>
    rw [ha] at hanswer
    cases hanswer
  | awaiting op s t hop hasked hgood hatt ha hcomes =>
    rw [hanswer] at ha
    obtain ⟨hgood', hresponses⟩ := hproper.responses t s op.pdu hgood hasked
    rw [ha] at hgood' hresponses
    obtain ⟨att', hatt', hread⟩ := read_response hop hatt (hresponses resp rfl) link
    rw [readable_step hatt, hread] at hs
    obtain rfl := Option.some.inj hs
    have hnext := comes_answered hcomes ha
    cases hc : client s resp with
    | stop r =>
      rw [hc] at hnext
      exact .ended r (wakeup_carries (finish_stop hop hatt' hc)) rfl hnext
    | send s' req =>
      rw [hc] at hnext
      have hasked' := hproper.requests s op.pdu resp s' req hasked hc
      obtain ⟨op', hop', rfl, hsent⟩ := finish_send hop hatt' hc (hproper.fits s' req hasked')
      exact .asking op' s' hop' hasked' hgood' (wakeup_carries hsent) (wakeup_active hsent (List.cons_ne_nil _ _))
        rfl hnext
  | ended r hatt ha hcomes =>
    rw [ha] at hanswer
    cases hanswer

theorem stage_notified (h : Stage client peer mtu Asked Good first t₀ w) (link : Link) (opcode : UInt8)
    (pdu : List UInt8) (hs : worldStep client peer w (.notified link opcode pdu) = some w') :
    Stage client peer mtu Asked Good first t₀ w' := by
  rw [worldStep] at hs
  split at hs
  · rename_i hn
    obtain ⟨att', hatt', rfl⟩ := Option.map_eq_some_iff.mp hs
    cases h with
    | asking op s hop hasked hgood hatt hon ha hcomes =>
      rw [readable_step hatt] at hatt'
      obtain rfl := Option.some.inj hatt'
      obtain ⟨hread, hsame⟩ := read_notification hatt hn link
      exact .asking op s hop hasked hgood hread (hsame.trans hon) ha hcomes
    | awaiting op s t hop hasked hgood hatt ha hcomes =>
      rw [readable_step hatt] at hatt'
      obtain rfl := Option.some.inj hatt'
      exact .awaiting op s t hop hasked hgood (read_notification hatt hn link).1 ha hcomes
    | ended r hatt ha hcomes =>
      rw [readable_step hatt] at hatt'
      obtain rfl := Option.some.inj hatt'
      exact .ended r (read_notification hatt hn link).1 ha hcomes
  · cases hs

theorem new_carries (client : σ → Pdu → Next σ Pdu R) (mtu : ℕ) (ioOnL2cap crypto : Bool) :
    Carries client mtu [] none [] (btAttNew σ ioOnL2cap crypto mtu) :=
  ⟨rfl, rfl, rfl, rfl, rfl, rfl, rfl, rfl, rfl⟩

theorem stage_begun (hproper : Proper mtu client peer Asked Good) (hasked : Asked s req) (hgood : Good t)
    (h : Begun mtu s req t w) : Stage client peer mtu Asked Good (.send s req) t w := by
  obtain ⟨ioOnL2cap, crypto, rfl⟩ := h
  obtain ⟨op, hop, rfl, hsent, hon⟩ :=
    send_carries (new_carries client mtu ioOnL2cap crypto) (hproper.fits s req hasked) s
  exact .asking op s hop hasked hgood hsent (hon rfl) rfl ⟨0, fun _ => rfl⟩

theorem reach_stage (hproper : Proper mtu client peer Asked Good) (hasked : Asked s req) (hgood : Good t)
    (h : Reach (worldStep client peer) AnyStep (Begun mtu s req t) w) :
    Stage client peer mtu Asked Good (.send s req) t w := by
  refine reach_invariant (Stage client peer mtu Asked Good (.send s req) t) (fun _ => stage_begun hproper hasked hgood)
    (fun w e w' hstage _ hs => ?_) h
  cases e with
  | writable => exact stage_writable hstage hs
  | answered link => exact stage_answered hproper hstage link hs
  | notified link opcode pdu => exact stage_notified hstage link opcode pdu hs

theorem stage_once (h : Stage client peer mtu Asked Good first t₀ w) : (reports client w.att.log).length ≤ 1 := by
  cases h with
  | asking op s hop hasked hgood hatt hon ha hcomes => rw [hatt.results]; exact Nat.zero_le 1
  | awaiting op s t hop hasked hgood hatt ha hcomes => rw [hatt.results]; exact Nat.zero_le 1
  | ended r hatt ha hcomes => rw [hatt.results]; exact Nat.le_refl 1

theorem stage_result (h : Stage client peer mtu Asked Good first t₀ w) :
    ∀ r ∈ reports client w.att.log, ∃ n, converse client peer n t₀ first = .ended w.peer r := by
  intro r hr
  cases h with
  | asking op s hop hasked hgood hatt hon ha hcomes =>
    rw [hatt.results] at hr
    cases hr
  | awaiting op s t hop hasked hgood hatt ha hcomes =>
    rw [hatt.results] at hr
    cases hr
  | ended r' hatt ha hcomes =>
    rw [hatt.results] at hr
    obtain rfl := List.mem_singleton.mp hr
    obtain ⟨k, hk⟩ := hcomes
    exact ⟨0 + k, (hk 0).trans (converse_stop 0 w.peer r)⟩

/-- The run can go on, as long as the dialogue does. -/
theorem stage_live (h : Stage client peer mtu Asked Good first t₀ w) (hnone : reports client w.att.log = []) :
    CanGoOn client peer w ∨ ∃ n, converse client peer n t₀ first = .unanswered w.peer := by
  cases h with
  | asking op s hop hasked hgood hatt hon ha hcomes =>
    refine .inl (.inl ⟨?_, ?_⟩)
    · rw [hatt.reqQueue]
      exact List.cons_ne_nil _ _
    · rw [worldStep, Option.isSome_map, attStep, if_pos ⟨hatt.io, hon⟩]
      rfl
  | awaiting op s t hop hasked hgood hatt ha hcomes =>
    cases hanswer : w.answer with
    | none =>
      obtain ⟨k, hk⟩ := hcomes
      rw [hanswer] at ha
      refine .inr ⟨1 + k, (hk 1).trans ?_⟩
      rw [converse, ha]
    | some resp =>
      refine .inl (.inr fun link => ?_)
      rw [worldStep, hanswer, Option.bind_some, Option.isSome_map, readable_step hatt]
      rfl
  | ended r hatt ha hcomes =>
    rw [hatt.results] at hnone
    cases hnone

/-- A client that is the only user of the transport takes part in a dialogue with the peer, in whatever order
the main loop does its work and notifications come in between. It concludes once at most, with the result of
the dialogue, and as long as it has not, a request can be written, a response can be read, or the peer does
not answer in the dialogue either. -/
theorem transport_dialogue (client : σ → Pdu → Next σ Pdu R) (peer : τ → Pdu → τ × Option Pdu) (mtu : ℕ)
    (Asked : σ → Pdu → Prop) (Good : τ → Prop) (hproper : Proper mtu client peer Asked Good) (s : σ) (req : Pdu)
    (hasked : Asked s req) (t : τ) (hgood : Good t) (w : World σ τ)
    (h : Reach (worldStep client peer) AnyStep (Begun mtu s req t) w) :
    (reports client w.att.log).length ≤ 1 ∧
      (∀ r ∈ reports client w.att.log, ∃ n, converse client peer n t (.send s req) = .ended w.peer r) ∧
        (reports client w.att.log = [] →
          CanGoOn client peer w ∨ ∃ n, converse client peer n t (.send s req) = .unanswered w.peer) := by
  have hstage := reach_stage hproper hasked hgood h
  exact ⟨stage_once hstage, stage_result hstage, stage_live hstage⟩

/-! An attribute is read, and a notification comes in before the response -/

def readOnce (_ : Unit) (resp : Pdu) : Next Unit Pdu (List UInt8) := .stop resp.payload

def levelPeer (_ : Unit) (_ : Pdu) : Unit × Option Pdu := ((), some ⟨attOpReadResp, [100]⟩)

theorem readOnce_proper : Proper 23 readOnce levelPeer (fun _ req => req = encReadReq 3) fun _ => True := by
  refine ⟨?_, ?_, ?_⟩
  · intro s req resp s' req' _ h
    cases h
  · rintro s req rfl
    exact ⟨by decide, by decide⟩
  · rintro t s req - rfl
    refine ⟨trivial, fun resp hresp => ?_⟩
    obtain rfl := Option.some.inj hresp
    exact ⟨by decide, by decide, fun _ => by decide, fun h => absurd h (by decide)⟩

def readBegun : World Unit Unit :=
  ⟨(btAttSend (btAttNew Unit true true 23) (encReadReq 3) true true (some ())).1, (), none⟩

def readDone : World Unit Unit :=
  (exec (worldStep readOnce levelPeer) readBegun
    [.writable, .notified ⟨1, true⟩ attOpHandleNotify [3, 0, 99], .answered ⟨1, true⟩]).getD readBegun

theorem transport_dialogue_read : ∃ n, converse readOnce levelPeer n () (.send () (encReadReq 3)) = .ended () [100] :=
  (transport_dialogue readOnce levelPeer 23 (fun _ req => req = encReadReq 3) (fun _ => True) readOnce_proper () (encReadReq 3) rfl ()
    trivial readDone (exec_reach ⟨true, true, rfl⟩ _ (exec_getD rfl readBegun))).2.1 [100] (by decide)

end

end Gattlib.AttDialogues
