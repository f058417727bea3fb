import Gattlib.AttPdus
import Gattlib.Library.Transition

namespace Gattlib.AttTransport

open AttPdus

/-- `enum att_op_type` -/
inductive AttOpType
  | req | rsp | cmd | ind | notify | conf | unknown
  deriving DecidableEq

def attOpcodeTypeTable : List (UInt8 × AttOpType) :=
  [(0x01, .rsp), (0x02, .req), (0x03, .rsp), (0x04, .req), (0x05, .rsp), (0x06, .req), (0x07, .rsp),
    (0x08, .req), (0x09, .rsp), (0x0A, .req), (0x0B, .rsp), (0x0C, .req), (0x0D, .rsp), (0x0E, .req),
    (0x0F, .rsp), (0x10, .req), (0x11, .rsp), (0x12, .req), (0x13, .rsp), (0x52, .cmd), (0xD2, .cmd),
    (0x16, .req), (0x17, .rsp), (0x18, .req), (0x19, .rsp), (0x1B, .notify), (0x1D, .ind), (0x1E, .conf)]

def getOpType (opcode : UInt8) : AttOpType :=
  ((attOpcodeTypeTable.find? fun entry => entry.1 == opcode).map Prod.snd).getD .unknown

/-- The opcodes of a request and of its response. -/
def attReqRspMappingTable : List (UInt8 × UInt8) :=
  [(0x02, 0x03), (0x04, 0x05), (0x06, 0x07), (0x08, 0x09), (0x0A, 0x0B), (0x0C, 0x0D), (0x0E, 0x0F),
    (0x10, 0x11), (0x12, 0x13), (0x16, 0x17), (0x18, 0x19)]

/-- The opcode of the request, or 0. -/
def getReqOpcode (rspOpcode : UInt8) : UInt8 :=
  ((attReqRspMappingTable.find? fun entry => entry.2 == rspOpcode).map Prod.fst).getD 0

def btAttAllRequests : UInt8 := 0x00
def attOpSignedMask : UInt8 := 0x80

/-- `struct att_send_op`: whether there are a callback and a destroy function, and what both of them get.
The PDU begins with the opcode. -/
structure AttSendOp (υ : Type) where
  id : BitVec 32
  timeoutId : ℕ
  pdu : Pdu
  callback : Bool
  destroy : Bool
  userData : Option υ

/-- The type of an operation is the one of its opcode. -/
def AttSendOp.type {υ : Type} (op : AttSendOp υ) : AttOpType := getOpType op.pdu.opcode

/-- `struct att_notify` -/
structure AttNotify where
  id : BitVec 32
  opcode : UInt8

/-- A source of the main loop for an operation that is under way, and the `struct timeout_data` of it. -/
structure Timer where
  id : ℕ
  opId : BitVec 32
  deriving DecidableEq

/-- What the bearer does that others see. A callback and a destroy function are those of a PDU that has been
sent, with the data for them. -/
inductive Effect (υ : Type)
  | accepted (op : AttSendOp υ)
  | written (sent : Pdu) (userData : Option υ)
  | received (bytes : List UInt8)
  | called (sent : Pdu) (userData : Option υ) (opcode : UInt8) (pdu : List UInt8)
  | notified (id : BitVec 32) (opcode : UInt8) (pdu : List UInt8)
  | destroyed (sent : Pdu) (userData : Option υ)
  | shutdown

/-- `struct bt_att` with the sources it has in the main loop, and what it has done so far. -/
structure BtAtt (υ : Type) where
  io : Bool
  reader : Bool
  ioOnL2cap : Bool
  ioSecLevel : ℤ
  crypto : Bool
  reqQueue : List (AttSendOp υ)
  pendingReq : Option (AttSendOp υ)
  indQueue : List (AttSendOp υ)
  pendingInd : Option (AttSendOp υ)
  writeQueue : List (AttSendOp υ)
  writerActive : Bool
  notifyList : List AttNotify
  inReq : Bool
  mtu : ℕ
  nextSendId : BitVec 32
  nextRegId : BitVec 32
  timers : List Timer
  nextTimer : ℕ
  log : List (Effect υ)

/-- `bt_att_new`, where the MTU of the link is one that is allowed -/
def btAttNew (υ : Type) (ioOnL2cap crypto : Bool) (mtu : ℕ) : BtAtt υ where
  io := true
  reader := true
  ioOnL2cap := ioOnL2cap
  ioSecLevel := if ioOnL2cap then btAttSecurityAuto else btAttSecurityLow
  crypto := crypto
  reqQueue := []
  pendingReq := none
  indQueue := []
  pendingInd := none
  writeQueue := []
  writerActive := false
  notifyList := []
  inReq := false
  mtu := mtu
  nextSendId := 0
  nextRegId := 0
  timers := []
  nextTimer := 1
  log := []

variable {υ : Type}

def BtAtt.emit (att : BtAtt υ) (e : Effect υ) : BtAtt υ := { att with log := att.log ++ [e] }

/-- `op->destroy`, where there is one. -/
def BtAtt.callDestroy (att : BtAtt υ) (op : AttSendOp υ) : BtAtt υ :=
  if op.destroy then att.emit (.destroyed op.pdu op.userData) else att

def destroyAttSendOp (att : BtAtt υ) (op : AttSendOp υ) : BtAtt υ :=
  { att with timers := att.timers.filter fun t => t.id != op.timeoutId }.callDestroy op

/-- What `cancel_att_send_op` leaves of an operation. -/
def AttSendOp.cancelled (op : AttSendOp υ) : AttSendOp υ :=
  { op with callback := false, destroy := false, userData := none }

/-- `create_att_send_op` with `encode_pdu`, where there is no key to sign with. The caller gives it an id. -/
def createAttSendOp (mtu : ℕ) (id : BitVec 32) (pdu : Pdu) (callback destroy : Bool) (userData : Option υ) :
    Option (AttSendOp υ) :=
  let type := getOpType pdu.opcode
  if type = .unknown then none
  else if callback ∧ type ≠ .req ∧ type ≠ .ind then none
  else if ¬callback ∧ (type = .req ∨ type = .ind) then none
  else if pdu.length > mtu then none
  else some ⟨id, 0, pdu, callback, destroy, userData⟩

def pickNextSendOp (att : BtAtt υ) : Option (AttSendOp υ × BtAtt υ) :=
  match att.writeQueue with
  | op :: rest => some (op, { att with writeQueue := rest })
  | [] =>
    match att.pendingReq, att.reqQueue with
    | none, op :: rest => some (op, { att with reqQueue := rest })
    | _, _ =>
      match att.pendingInd, att.indQueue with
      | none, op :: rest => some (op, { att with indQueue := rest })
      | _, _ => none

def wakeupWriter (att : BtAtt υ) : BtAtt υ :=
  if att.writerActive then att
  else if att.writeQueue = [] ∧ (att.pendingReq.isSome ∨ att.reqQueue = []) ∧
      (att.pendingInd.isSome ∨ att.indQueue = []) then att
  else { att with writerActive := att.io }

/-- The ids are those of `next_send_id`, which leaves out 0 when it wraps around. -/
def freshId (next : BitVec 32) : BitVec 32 := if next < 1 then 1 else next

/-- The operation goes to the queue of its type. -/
def enqueue (att : BtAtt υ) (op : AttSendOp υ) : BtAtt υ :=
  match op.type with
  | .req => { att with reqQueue := att.reqQueue ++ [op] }
  | .ind => { att with indQueue := att.indQueue ++ [op] }
  | _ => { att with writeQueue := att.writeQueue ++ [op] }

def btAttSend (att : BtAtt υ) (pdu : Pdu) (callback destroy : Bool) (userData : Option υ) :
    BtAtt υ × BitVec 32 :=
  if ¬att.io then (att, 0)
  else
    let id := freshId att.nextSendId
    match createAttSendOp att.mtu id pdu callback destroy userData with
    | none => (att, 0)
    | some op => (wakeupWriter ((enqueue { att with nextSendId := id + 1 } op).emit (.accepted op)), id)

/-- `queue_remove_if` with `match_op_id` -/
def removeOp (id : BitVec 32) (q : List (AttSendOp υ)) : Option (AttSendOp υ × List (AttSendOp υ)) :=
  (q.find? fun op => op.id == id).map fun op => (op, q.eraseP fun op => op.id == id)

def btAttCancel (att : BtAtt υ) (id : BitVec 32) : BtAtt υ :=
  if id = 0 then att
  else
    match att.pendingReq.filter fun op => op.id == id, att.pendingInd.filter fun op => op.id == id with
    | some op, _ => { att with pendingReq := some op.cancelled }.callDestroy op
    | none, some op => { att with pendingInd := some op.cancelled }.callDestroy op
    | none, none =>
      match removeOp id att.reqQueue, removeOp id att.indQueue, removeOp id att.writeQueue with
      | some (op, rest), _, _ => wakeupWriter (destroyAttSendOp { att with reqQueue := rest } op)
      | none, some (op, rest), _ => wakeupWriter (destroyAttSendOp { att with indQueue := rest } op)
      | none, none, some (op, rest) => wakeupWriter (destroyAttSendOp { att with writeQueue := rest } op)
      | none, none, none => att

def cancelPendingReq (att : BtAtt υ) : BtAtt υ :=
  match att.pendingReq with
  | none => att
  | some op => { att with pendingReq := some op.cancelled }.callDestroy op

def cancelPendingInd (att : BtAtt υ) : BtAtt υ :=
  match att.pendingInd with
  | none => att
  | some op => { att with pendingInd := some op.cancelled }.callDestroy op

def btAttCancelAll (att : BtAtt υ) : BtAtt υ :=
  let att := att.reqQueue.foldl destroyAttSendOp { att with reqQueue := [] }
  let att := att.indQueue.foldl destroyAttSendOp { att with indQueue := [] }
  let att := att.writeQueue.foldl destroyAttSendOp { att with writeQueue := [] }
  cancelPendingInd (cancelPendingReq att)

def btAttSetMtu (att : BtAtt υ) (mtu : ℕ) : BtAtt υ :=
  if mtu < btAttDefaultLeMtu then att else { att with mtu := mtu }

/-! Callbacks -/

/-- What users of the bearer may do, also when they are called by it. -/
inductive UserCall (υ : Type)
  | send (pdu : Pdu) (callback destroy : Bool) (userData : Option υ)
  | cancel (id : BitVec 32)
  | cancelAll
  | setMtu (mtu : ℕ)

def userCall (att : BtAtt υ) : UserCall υ → BtAtt υ
  | .send pdu callback destroy userData => (btAttSend att pdu callback destroy userData).1
  | .cancel id => btAttCancel att id
  | .cancelAll => btAttCancelAll att
  | .setMtu mtu => btAttSetMtu att mtu

/-- What users do when they are called. -/
abbrev Users (υ : Type) := Effect υ → List (UserCall υ)

def callUser (users : Users υ) (att : BtAtt υ) (e : Effect υ) : BtAtt υ :=
  (users e).foldl userCall (att.emit e)

/-- `op->callback`, where there is one. -/
def callCallback (users : Users υ) (att : BtAtt υ) (op : AttSendOp υ) (opcode : UInt8) (pdu : List UInt8) :
    BtAtt υ :=
  if op.callback then callUser users att (.called op.pdu op.userData opcode pdu) else att

/-- `disc_att_send_op`, and what `can_write_data` does with an operation that is not written. -/
def discAttSendOp (users : Users υ) (att : BtAtt υ) (op : AttSendOp υ) : BtAtt υ :=
  destroyAttSendOp (callCallback users att op attOpError []) op

/-- The pending request is called back, and is destroyed as its callback leaves it. -/
def finishReq (users : Users υ) (att : BtAtt υ) (opcode : UInt8) (pdu : List UInt8) : BtAtt υ :=
  match att.pendingReq with
  | none => att
  | some op =>
    let att := callCallback users att op opcode pdu
    destroyAttSendOp { att with pendingReq := none } (att.pendingReq.getD op)

def finishInd (users : Users υ) (att : BtAtt υ) (opcode : UInt8) (pdu : List UInt8) : BtAtt υ :=
  match att.pendingInd with
  | none => att
  | some op =>
    let att := callCallback users att op opcode pdu
    destroyAttSendOp { att with pendingInd := none } (att.pendingInd.getD op)

/-! Events of the main loop -/

/-- `timeout_add` for an operation that has been written. -/
def startTimer (att : BtAtt υ) (op : AttSendOp υ) : BtAtt υ × AttSendOp υ :=
  ({ att with timers := ⟨att.nextTimer, op.id⟩ :: att.timers, nextTimer := att.nextTimer + 1 },
    { op with timeoutId := att.nextTimer })

/-- `can_write_data`: whether `io_send` succeeds is up to the link. -/
def canWriteData (users : Users υ) (sent : Bool) (att : BtAtt υ) : BtAtt υ :=
  match pickNextSendOp att with
  | none => { att with writerActive := false }
  | some (op, att) =>
    if ¬sent then discAttSendOp users att op
    else
      let att := att.emit (.written op.pdu op.userData)
      match op.type with
      | .req =>
        let (att, op) := startTimer att op
        { att with pendingReq := some op }
      | .ind =>
        let (att, op) := startTimer att op
        { att with pendingInd := some op }
      | .rsp => destroyAttSendOp { att with inReq := false } op
      | _ => destroyAttSendOp att op

/-- `timeout_cb`, where no callback for timeouts is set -/
def timeoutCb (att : BtAtt υ) (timer : Timer) : BtAtt υ :=
  let att := { att with timers := att.timers.filter fun t => t.id != timer.id }
  match att.pendingReq.filter fun op => op.id == timer.opId, att.pendingInd.filter fun op => op.id == timer.opId with
  | some op, _ => ({ att with pendingReq := none }.callDestroy op).emit .shutdown
  | none, some op => ({ att with pendingInd := none }.callDestroy op).emit .shutdown
  | none, none => att

/-- The security level that the link has, and whether another one can be set. -/
structure Link where
  security : ℤ
  settable : Bool

def btAttSetSecurity (att : BtAtt υ) (link : Link) (level : ℤ) : Option (BtAtt υ) :=
  if level < btAttSecurityAuto ∨ level > btAttSecurityHigh then none
  else if ¬att.ioOnL2cap then some { att with ioSecLevel := level }
  else if link.settable then some att
  else none

def changeSecurity (att : BtAtt υ) (link : Link) (ecode : UInt8) : Option (BtAtt υ) :=
  if att.ioSecLevel ≠ btAttSecurityAuto then none
  else
    let security := if att.ioOnL2cap then link.security else att.ioSecLevel
    if ecode = btAttErrorInsufficientEncryption ∧ security < btAttSecurityMedium then
      btAttSetSecurity att link btAttSecurityMedium
    else if ecode = btAttErrorAuthentication then
      if security < btAttSecurityMedium then btAttSetSecurity att link btAttSecurityMedium
      else if security < btAttSecurityHigh then btAttSetSecurity att link btAttSecurityHigh
      else if security < btAttSecurityFips then btAttSetSecurity att link btAttSecurityFips
      else none
    else none

/-- `handle_error_rsp`: the opcode of the request the error is for, or the bearer with the request back in
its queue. -/
def handleErrorRsp (att : BtAtt υ) (link : Link) (op : AttSendOp υ) (pdu : List UInt8) : UInt8 ⊕ BtAtt υ :=
  match pdu with
  | [opcode, _, _, ecode] =>
    match changeSecurity att link ecode with
    | none => .inl opcode
    | some att => .inr { att with pendingReq := none, reqQueue := op :: att.reqQueue }
  | _ => .inl 0

/-- `handle_rsp`. A response that is not the one awaited ends the request with an error of no bytes. -/
def handleRsp (users : Users υ) (link : Link) (att : BtAtt υ) (opcode : UInt8) (pdu : List UInt8) : BtAtt υ :=
  match att.pendingReq with
  | none => att.emit .shutdown
  | some op =>
    let verdict := if opcode = attOpError then handleErrorRsp att link op pdu else .inl (getReqOpcode opcode)
    match verdict with
    | .inr att => wakeupWriter att
    | .inl reqOpcode =>
      if reqOpcode = 0 ∨ reqOpcode ≠ op.pdu.opcode then wakeupWriter (finishReq users att attOpError [])
      else wakeupWriter (finishReq users att opcode pdu)

def handleConf (users : Users υ) (att : BtAtt υ) (pdu : List UInt8) : BtAtt υ :=
  if att.pendingInd.isNone ∨ pdu ≠ [] then att.emit .shutdown
  else wakeupWriter (finishInd users att attOpHandleCnf [])

def opcodeMatch (opcode testOpcode : UInt8) : Bool :=
  (opcode == btAttAllRequests && (getOpType testOpcode == .req || getOpType testOpcode == .cmd)) ||
    opcode == testOpcode

def respondNotSupported (att : BtAtt υ) (opcode : UInt8) : BtAtt υ :=
  (btAttSend att ⟨attOpError, [opcode, 0, 0, btAttErrorRequestNotSupported]⟩ false false none).1

/-- `handle_notify`. Without crypto a signed PDU is dropped, as there is no key for it. -/
def handleNotify (users : Users υ) (att : BtAtt υ) (opcode : UInt8) (pdu : List UInt8) : BtAtt υ :=
  if opcode &&& attOpSignedMask ≠ 0 ∧ ¬att.crypto then att
  else
    let found := att.notifyList.filter fun notify => opcodeMatch notify.opcode opcode
    let att := found.foldl (fun att notify => callUser users att (.notified notify.id opcode pdu)) att
    if found = [] ∧ getOpType opcode = .req then respondNotSupported att opcode else att

/-- `can_read_data` with the bytes that the link has. -/
def canReadData (users : Users υ) (link : Link) (att : BtAtt υ) (bytes : List UInt8) : BtAtt υ :=
  let bytes := bytes.take att.mtu
  let att := att.emit (.received bytes)
  match bytes with
  | [] => att
  | opcode :: pdu =>
    match getOpType opcode with
    | .rsp => handleRsp users link att opcode pdu
    | .conf => handleConf users att pdu
    | .req =>
      if att.inReq then { att with reader := false }.emit .shutdown
      else handleNotify users { att with inReq := true } opcode pdu
    | _ => handleNotify users att opcode pdu

/-! `queue_remove_all` with `disc_att_send_op`: a queue is emptied before its operations are called back. -/

def discReqQueue (users : Users υ) (att : BtAtt υ) : BtAtt υ :=
  att.reqQueue.foldl (discAttSendOp users) { att with reqQueue := [] }

def discIndQueue (users : Users υ) (att : BtAtt υ) : BtAtt υ :=
  att.indQueue.foldl (discAttSendOp users) { att with indQueue := [] }

def discWriteQueue (users : Users υ) (att : BtAtt υ) : BtAtt υ :=
  att.writeQueue.foldl (discAttSendOp users) { att with writeQueue := [] }

/-- What is under way is called back behind all that is queued. -/
def disconnectCb (users : Users υ) (att : BtAtt υ) : BtAtt υ :=
  let att := { att with io := false, reader := false, writerActive := false }
  let att := discWriteQueue users (discIndQueue users (discReqQueue users att))
  { finishInd users (finishReq users att attOpError []) attOpError [] with notifyList := [] }

def btAttRegister (att : BtAtt υ) (opcode : UInt8) : BtAtt υ :=
  if ¬att.io then att
  else
    let id := freshId att.nextRegId
    { att with nextRegId := id + 1, notifyList := att.notifyList ++ [⟨id, opcode⟩] }

def btAttUnregister (att : BtAtt υ) (id : BitVec 32) : BtAtt υ :=
  { att with notifyList := att.notifyList.eraseP fun notify => notify.id == id }

/-- What can happen to a bearer: its users call it, or the main loop does. -/
inductive AttEvent (υ : Type)
  | call (c : UserCall υ)
  | register (opcode : UInt8)
  | unregister (id : BitVec 32)
  | writable (users : Users υ) (sent : Bool)
  | readable (users : Users υ) (link : Link) (bytes : List UInt8)
  | writeEnded
  | readEnded
  | timedOut (timer : Timer)
  | hungUp (users : Users υ)

/-- The main loop calls what is there to be called. A watch ends when the link reports an error. -/
def attStep (att : BtAtt υ) : AttEvent υ → Option (BtAtt υ)
  | .call c => some (userCall att c)
  | .register opcode => some (btAttRegister att opcode)
  | .unregister id => some (btAttUnregister att id)
  | .writable users sent => if att.io ∧ att.writerActive then some (canWriteData users sent att) else none
  | .readable users link bytes => if att.io ∧ att.reader then some (canReadData users link att bytes) else none
  | .writeEnded => some { att with writerActive := false }
  | .readEnded => some { att with reader := false }
  | .timedOut timer => if timer ∈ att.timers then some (timeoutCb att timer) else none
  | .hungUp users => if att.io then some (disconnectCb users att) else none

end Gattlib.AttTransport
