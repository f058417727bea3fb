import Gattlib.GattDatabase

namespace Gattlib.GattServer

open Uuids (BtUuid)
open AttPdus GattDatabase Library.Buffers

def btAttPermRead : BitVec 32 := 0x01
def btAttPermWrite : BitVec 32 := 0x02
def btAttPermReadEncrypt : BitVec 32 := 0x04
def btAttPermWriteEncrypt : BitVec 32 := 0x08
def btAttPermEncrypt : BitVec 32 := btAttPermReadEncrypt ||| btAttPermWriteEncrypt
def btAttPermReadAuthen : BitVec 32 := 0x10
def btAttPermWriteAuthen : BitVec 32 := 0x20
def btAttPermAuthen : BitVec 32 := btAttPermReadAuthen ||| btAttPermWriteAuthen
def btAttPermReadSecure : BitVec 32 := 0x0100
def btAttPermWriteSecure : BitVec 32 := 0x0200
def btAttPermSecure : BitVec 32 := btAttPermReadSecure ||| btAttPermWriteSecure

/-- The masks of the read handlers and of the write handlers. -/
def readMask : BitVec 32 := btAttPermRead ||| btAttPermReadAuthen ||| btAttPermReadEncrypt
def writeMask : BitVec 32 := btAttPermWrite ||| btAttPermWriteAuthen ||| btAttPermWriteEncrypt

/-- The error code, or 0. The level is what `bt_att_get_security` returns. -/
def checkPermissions (security : Int) (a : GattDbAttribute) (mask : BitVec 32) : UInt8 :=
  let perm := a.permissions
  if perm ≠ 0 ∧ mask &&& btAttPermRead ≠ 0 ∧ perm &&& btAttPermRead = 0 then
    btAttErrorReadNotPermitted
  else if perm ≠ 0 ∧ mask &&& btAttPermWrite ≠ 0 ∧ perm &&& btAttPermWrite = 0 then
    btAttErrorWriteNotPermitted
  else
    let perm := perm &&& mask
    if perm = 0 then 0
    else if perm &&& btAttPermSecure ≠ 0 ∧ security < btAttSecurityFips then
      btAttErrorAuthentication
    else if perm &&& btAttPermAuthen ≠ 0 ∧ security < btAttSecurityHigh then
      btAttErrorAuthentication
    else if perm &&& btAttPermEncrypt ≠ 0 ∧ security < btAttSecurityMedium then
      btAttErrorInsufficientEncryption
    else 0

/-- `struct prep_write_data`: the length is that of the value, which is stored in 16 bits. The buffer of
the value may be one that `realloc` has `freed`. -/
structure PrepWriteData where
  handle : BitVec 16
  offset : BitVec 16
  length : BitVec 16
  value : List UInt8
  freed : Bool
  reliableSupported : Bool
  stored : length.toNat = value.length
  deriving DecidableEq

structure BtGattServer where
  db : GattDb
  mtu : BitVec 16
  /-- `bt_att_get_mtu` -/
  attMtu : BitVec 16
  security : Int
  prepQueue : List PrepWriteData
  maxPrepQueueLen : ℕ
  pendingReadOp : Bool
  pendingWriteOp : Bool

def defaultMaxPrepQueueLen : ℕ := 30

def btGattServerNew (db : GattDb) (mtu attMtu : BitVec 16) (security : Int) : BtGattServer where
  db := db
  mtu := BitVec.ofNat 16 (max mtu.toNat btAttDefaultLeMtu)
  attMtu := attMtu
  security := security
  prepQueue := []
  maxPrepQueueLen := defaultMaxPrepQueueLen
  pendingReadOp := false
  pendingWriteOp := false

/-- What a handler sends. A response that waits for a callback of the attribute's owner is not sent
yet, and a command is not answered at all. One that writes behind a buffer has no meaning. -/
inductive Answer
  | sent (p : Pdu)
  | silent
  | fault (f : Fault)
  deriving DecidableEq

def errorRsp (opcode : UInt8) (handle : BitVec 16) (ecode : UInt8) : Answer :=
  .sent (encErrorResp opcode handle ecode)

/-- `start > end`, or one of them is 0: the handle that is named in the error, if it is one. -/
def badRange (start end_ : BitVec 16) : Option (BitVec 16) :=
  if start = 0 ∨ end_ = 0 then some 0 else if start > end_ then some start else none

theorem badRange_none {start end_ : BitVec 16} (hstart : start ≠ 0) (hle : start.toNat ≤ end_.toNat) : badRange start end_ = none := by
  have hend : end_ ≠ 0 := by
    rintro rfl
    exact hstart (BitVec.eq_of_toNat_eq (Nat.le_zero.mp hle))
  have horder : ¬start > end_ := Nat.not_lt.mpr hle
  rw [badRange, if_neg (not_or.mpr ⟨hstart, hend⟩), if_neg horder]

/-! Read By Group Type -/

/-- The loop of `encode_read_by_grp_type_rsp`: the PDU so far, which begins with the size of the
units, and the size of their values. -/
def encodeGroups (mtu : ℕ) : List UInt8 → ℕ → List GattDbService → Option (List UInt8)
  | pdu, _, [] => some pdu
  | pdu, dataValLen, s :: q =>
    match gattDbAttributeRead s.decl 0 with
    | .asked | .failed _ => none
    | .value value =>
      if value = [] then none
      else if pdu ≠ [] ∧ value.length ≠ dataValLen then some pdu
      else
        let dataValLen := if pdu = [] then min (min (mtu - 6) 251) value.length else dataValLen
        let pdu := if pdu = [] then [UInt8.ofNat (dataValLen + 4)] else pdu
        if pdu.length + dataValLen + 4 > mtu - 1 then some pdu
        else encodeGroups mtu (pdu ++ putLe16 s.startHandle ++ putLe16 s.endHandle ++
          value.take dataValLen) dataValLen q

def readByGrpTypeCb (server : BtGattServer) (payload : List UInt8) : Answer :=
  match getUuidLe (payload.drop 4) with
  | none => errorRsp attOpReadByGroupReq 0 btAttErrorInvalidPdu
  | some type =>
    let start := getLe16 payload
    let end_ := getLe16 (payload.drop 2)
    match badRange start end_ with
    | some ehandle => errorRsp attOpReadByGroupReq ehandle btAttErrorInvalidHandle
    | none =>
      if !btUuidSame type primaryServiceUuid && !btUuidSame type secondaryServiceUuid then
        errorRsp attOpReadByGroupReq start btAttErrorUnsupportedGroupType
      else
        match gattDbReadByGroupType server.db start end_ type with
        | [] => errorRsp attOpReadByGroupReq start btAttErrorAttributeNotFound
        | q =>
          match encodeGroups server.attMtu.toNat [] 0 q with
          | none => errorRsp attOpReadByGroupReq start btAttErrorUnlikely
          | some rsp => .sent ⟨attOpReadByGroupResp, rsp⟩

/-! Read By Type -/

/-- How `process_read_by_type` ends. -/
inductive ReadResult
  | sent (pdu : List UInt8)
  | failed (handle : BitVec 16) (ecode : UInt8)
  | waiting

/-- `process_read_by_type` and `read_by_type_read_complete_cb`, which call each other. -/
def processReadByType (security : Int) (mtu : ℕ) :
    List UInt8 → ℕ → List GattDbAttribute → ReadResult
  | pdu, _, [] => .sent pdu
  | pdu, valueLen, a :: q =>
    let ecode := checkPermissions security a readMask
    if ecode ≠ 0 then .failed a.handle ecode
    else
      match gattDbAttributeRead a 0 with
      | .asked => .waiting
      | .failed err => .failed a.handle err
      | .value value =>
        if pdu ≠ [] ∧ value.length ≠ valueLen then .sent pdu
        else
          let valueLen := if pdu = [] then min (min (mtu - 4) 253) value.length else valueLen
          let pdu := if pdu = [] then [UInt8.ofNat (valueLen + 2)] else pdu
          if pdu.length + valueLen + 2 > mtu - 1 then .sent pdu
          else
            let pdu := pdu ++ putLe16 a.handle ++ value.take valueLen
            if pdu.length = mtu - 1 then .sent pdu else processReadByType security mtu pdu valueLen q

def readByTypeCb (server : BtGattServer) (payload : List UInt8) : BtGattServer × Answer :=
  match getUuidLe (payload.drop 4) with
  | none => (server, errorRsp attOpReadByTypeReq 0 btAttErrorInvalidPdu)
  | some type =>
    let start := getLe16 payload
    let end_ := getLe16 (payload.drop 2)
    match badRange start end_ with
    | some ehandle => (server, errorRsp attOpReadByTypeReq ehandle btAttErrorInvalidHandle)
    | none =>
      match gattDbReadByType server.db start end_ type with
      | [] => (server, errorRsp attOpReadByTypeReq start btAttErrorAttributeNotFound)
      | q =>
        if server.pendingReadOp then (server, errorRsp attOpReadByTypeReq start btAttErrorUnlikely)
        else
          match processReadByType server.security server.attMtu.toNat [] 0 q with
          | .sent pdu => (server, .sent ⟨attOpReadByTypeResp, pdu⟩)
          | .failed handle ecode => (server, errorRsp attOpReadByTypeReq handle ecode)
          | .waiting => ({ server with pendingReadOp := true }, .silent)

/-! Find Information -/

/-- `bt_uuid_len` -/
def btUuidLen : BtUuid → ℕ
  | .unspec => 0
  | .u16 _ => 2
  | .u32 _ => 4
  | .u128 _ => 16

/-- The loop of `encode_find_info_rsp`: the PDU so far, which begins with the format, and the size of
its UUIDs. A UUID of 32 bits is sent in its long form, and only as the first one. -/
def encodeInfos (mtu : ℕ) : List UInt8 → ℕ → List GattDbAttribute → Option (List UInt8)
  | pdu, _, [] => some pdu
  | pdu, uuidLen, a :: q =>
    if a.handle = 0 then none
    else if pdu = [] ∧ btUuidLen a.uuid = 0 then none
    else if pdu ≠ [] ∧ btUuidLen a.uuid ≠ uuidLen then some pdu
    else
      let uuidLen := if pdu = [] then (if btUuidLen a.uuid = 2 then 2 else 16) else uuidLen
      let pdu := if pdu = [] then [if uuidLen = 2 then 1 else 2] else pdu
      if pdu.length + uuidLen + 2 > mtu - 1 then some pdu
      else encodeInfos mtu (pdu ++ putLe16 a.handle ++ uuidToLe a.uuid) uuidLen q

def findInfoCb (server : BtGattServer) (payload : List UInt8) : Answer :=
  if payload.length ≠ 4 then errorRsp attOpFindInfoReq 0 btAttErrorInvalidPdu
  else
    let start := getLe16 payload
    let end_ := getLe16 (payload.drop 2)
    match badRange start end_ with
    | some ehandle => errorRsp attOpFindInfoReq ehandle btAttErrorInvalidHandle
    | none =>
      match gattDbFindInformation server.db start end_ with
      | [] => errorRsp attOpFindInfoReq start btAttErrorAttributeNotFound
      | q =>
        match encodeInfos server.attMtu.toNat [] 0 q with
        | none => errorRsp attOpFindInfoReq start btAttErrorUnlikely
        | some rsp => .sent ⟨attOpFindInfoResp, rsp⟩

/-! Find By Type Value -/

/-- `find_by_type_val_att_cb`: the response so far, and whether a service has had no handles. -/
def findByTypeValAttCb (mtu : ℕ) (data : List UInt8 × Bool) (s : GattDbService) : List UInt8 × Bool :=
  if data.2 then data
  else if data.1.length + 4 > mtu - 1 then data
  else if s.startHandle = 0 ∨ s.endHandle = 0 then (data.1, true)
  else (data.1 ++ putLe16 s.startHandle ++ putLe16 s.endHandle, false)

def findByTypeValCb (server : BtGattServer) (payload : List UInt8) : Answer :=
  if payload.length < 6 then errorRsp attOpFindByTypeReq 0 btAttErrorInvalidPdu
  else
    let start := getLe16 payload
    let end_ := getLe16 (payload.drop 2)
    if start > end_ then errorRsp attOpFindByTypeReq start btAttErrorInvalidHandle
    else
      match gattDbFindByTypeValue server.db start end_ (.u16 (getLe16 (payload.drop 4)))
          (payload.drop 6) with
      | .error f => .fault f
      | .ok found =>
        let (pdu, failed) := found.foldl (findByTypeValAttCb server.attMtu.toNat) ([], false)
        if pdu = [] then errorRsp attOpFindByTypeReq start btAttErrorAttributeNotFound
        else if failed then errorRsp attOpFindByTypeReq start btAttErrorUnlikely
        else .sent ⟨attOpFindByTypeResp, pdu⟩

/-! Reading one attribute -/

def getReadRspOpcode (opcode : UInt8) : UInt8 :=
  if opcode = attOpReadReq then attOpReadResp
  else if opcode = attOpReadBlobReq then attOpReadBlobResp
  else 0

def handleReadReq (server : BtGattServer) (opcode : UInt8) (handle offset : BitVec 16) :
    BtGattServer × Answer :=
  match gattDbGetAttribute server.db handle with
  | none => (server, errorRsp opcode handle btAttErrorInvalidHandle)
  | some a =>
    let ecode := checkPermissions server.security a readMask
    if ecode ≠ 0 then (server, errorRsp opcode handle ecode)
    else if server.pendingReadOp then (server, errorRsp opcode handle btAttErrorUnlikely)
    else
      match gattDbAttributeRead a offset with
      | .asked => ({ server with pendingReadOp := true }, .silent)
      | .failed err => (server, errorRsp opcode a.handle err)
      | .value value => (server, .sent ⟨getReadRspOpcode opcode, value.take (server.attMtu.toNat - 1)⟩)

def readCb (server : BtGattServer) (payload : List UInt8) : BtGattServer × Answer :=
  if payload.length ≠ 2 then (server, errorRsp attOpReadReq 0 btAttErrorInvalidPdu)
  else handleReadReq server attOpReadReq (getLe16 payload) 0

def readBlobCb (server : BtGattServer) (payload : List UInt8) : BtGattServer × Answer :=
  if payload.length ≠ 4 then (server, errorRsp attOpReadBlobReq 0 btAttErrorInvalidPdu)
  else handleReadReq server attOpReadBlobReq (getLe16 payload) (getLe16 (payload.drop 2))

/-! Reading some attributes -/

/-- `read_multiple_complete_cb` for the value of `a`: the response with it, or the answer to a request that
ends here. The value is read before its permissions are checked. One that the owner is asked for is not
sent yet. -/
def readMultipleValue (server : BtGattServer) (rsp : List UInt8) (a : GattDbAttribute) :
    Except Answer (List UInt8) :=
  match gattDbAttributeRead a 0 with
  | .asked => .error .silent
  | .failed err => .error (errorRsp attOpReadMultiReq a.handle err)
  | .value value =>
    let ecode := checkPermissions server.security a readMask
    if ecode ≠ 0 then .error (errorRsp attOpReadMultiReq a.handle ecode)
    else .ok (rsp ++ value.take (server.attMtu.toNat - rsp.length - 1))

/-- `read_multiple_complete_cb` and the reads that it starts, one for each handle that is left. -/
def readMultipleCompleteCb (server : BtGattServer) :
    List (BitVec 16) → List UInt8 → GattDbAttribute → Answer
  | handles, rsp, a =>
    match readMultipleValue server rsp a with
    | .error answer => answer
    | .ok rsp =>
      if rsp.length ≥ server.attMtu.toNat - 1 then .sent ⟨attOpReadMultiResp, rsp⟩
      else
        match handles with
        | [] => .sent ⟨attOpReadMultiResp, rsp⟩
        | handle :: handles =>
          match gattDbGetAttribute server.db handle with
          | none => errorRsp attOpReadMultiReq handle btAttErrorInvalidHandle
          | some b => readMultipleCompleteCb server handles rsp b

/-- The handles of the request. An odd byte at its end is left out. -/
def handlesIn : List UInt8 → List (BitVec 16)
  | a :: b :: payload => getLe16 [a, b] :: handlesIn payload
  | _ => []

def readMultipleCb (server : BtGattServer) (payload : List UInt8) : Answer :=
  if payload.length < 4 then errorRsp attOpReadMultiReq 0 btAttErrorInvalidPdu
  else
    match gattDbGetAttribute server.db (getLe16 payload) with
    | none => errorRsp attOpReadMultiReq 0 btAttErrorInvalidHandle
    | some a => readMultipleCompleteCb server (handlesIn (payload.drop 2)) [] a

/-! Writing one attribute -/

/-- A change to the attribute that `gatt_db_get_attribute` finds. -/
def updateAttribute (db : GattDb) (handle : BitVec 16) (f : GattDbAttribute → GattDbAttribute)
    (hf : ∀ a, (f a).handle = a.handle) : GattDb :=
  match db.services.findIdx? (findServiceForHandle handle) with
  | none => db
  | some i =>
    { db with
      services := db.services.modify i fun s =>
        match s.attributes.findIdx? (fun a => a.any (·.handle == handle)) with
        | none => s
        | some k => modifyAttribute s k f hf }

def storeAt (junk : ℕ → UInt8) (db : GattDb) (handle offset : BitVec 16) (data : List UInt8) : GattDb :=
  updateAttribute db handle (storeValue junk · offset data) (storeValue_handle junk offset data)

/-- The handler of the request and of the command. -/
def writeCb (junk : ℕ → UInt8) (server : BtGattServer) (opcode : UInt8) (payload : List UInt8) :
    BtGattServer × Answer :=
  let error (handle : BitVec 16) (ecode : UInt8) : BtGattServer × Answer :=
    (server, if opcode = attOpWriteCmd then .silent else errorRsp opcode handle ecode)
  if payload.length < 2 then error 0 btAttErrorInvalidPdu
  else
    let handle := getLe16 payload
    match gattDbGetAttribute server.db handle with
    | none => error handle btAttErrorInvalidHandle
    | some a =>
      let ecode := checkPermissions server.security a writeMask
      if ecode ≠ 0 then error handle ecode
      else if server.pendingWriteOp then error handle btAttErrorUnlikely
      else if a.writeFunc then ({ server with pendingWriteOp := true }, .silent)
      else ({ server with db := storeAt junk server.db handle 0 (payload.drop 2) },
        if opcode = attOpWriteCmd then .silent else .sent ⟨attOpWriteResp, []⟩)

/-! The queue of prepared writes -/

/-- `append_prep_data`: the new length is stored in 16 bits, and the buffer gets that size. If the sum
does not fit, the buffer ends before the bytes that are to go behind the others. For the size 0 `realloc`
frees the buffer and returns no other one, which is reported. -/
def appendPrepData (d : PrepWriteData) (value : List UInt8) : Except Fault (PrepWriteData × Bool) :=
  if value = [] then .ok (d, true)
  else if d.freed then .error .freed
  else if h : d.length.toNat + value.length < 65536 then
    .ok ({ d with
      length := d.length + BitVec.ofNat 16 value.length
      value := d.value ++ value
      stored := by
        have := d.stored
        rw [BitVec.toNat_add, BitVec.toNat_ofNat, List.length_append]
        omega }, true)
  else if (d.length.toNat + value.length) % 65536 = 0 then .ok ({ d with freed := true }, false)
  else .error (.write d.length.toNat)

/-- `gatt_db_service_foreach_desc`: the attributes behind the value of the characteristic at the
position `k`, up to the next declaration. -/
def descriptorsOf (s : GattDbService) (k : ℕ) : List GattDbAttribute :=
  ((s.attributes.drop (k + 2)).filterMap id).takeWhile fun a =>
    !btUuidSame characteristicUuid a.uuid && !btUuidSame includedServiceUuid a.uuid

/-- `read_ext_prop` over the descriptors: the first one of its type that is not 0 counts. -/
def readExtProp : List GattDbAttribute → UInt8
  | [] => 0
  | a :: rest =>
    if !btUuidSame extDescUuid a.uuid then readExtProp rest
    else
      match gattDbAttributeRead a 0 with
      | .value [low, _] => if low = 0 then readExtProp rest else low
      | _ => readExtProp rest

/-- `gatt_db_attribute_get_char_data` for the extended properties: the declaration must be one, of
either size. -/
def extPropOf (db : GattDb) (handle : BitVec 16) : Option UInt8 :=
  if handle = 0 then none
  else (db.services.find? (findServiceForHandle handle)).bind fun s =>
    (s.attributes.findIdx? (fun a => a.any (·.handle == handle))).bind fun k =>
      ((s.attributes[k]?).join).bind fun a =>
        if !btUuidSame characteristicUuid a.uuid then none
        else if a.valueLen ≠ 5 ∧ a.valueLen ≠ 19 then none
        else some (if (a.value.headD 0) &&& 0x80 = 0 then 0 else readExtProp (descriptorsOf s k))

def isReliableWriteSupported (db : GattDb) (handle : BitVec 16) : Bool :=
  (extPropOf db handle).any fun extProp => extProp &&& 0x01 != 0

/-- `prep_data_new`: the queue, and whether the piece is in it. -/
def prepDataNew (server : BtGattServer) (handle offset : BitVec 16) (value : List UInt8) :
    Except Fault (List PrepWriteData × Bool) :=
  (appendPrepData ⟨handle, offset, 0, [], false, isReliableWriteSupported server.db (handle - 1), rfl⟩ value).map
    fun (d, ok) => (if ok then server.prepQueue ++ [d] else server.prepQueue, ok)

/-- A piece that goes on where the last one of the queue ends is put behind it. -/
def storePrepData (server : BtGattServer) (handle offset : BitVec 16) (value : List UInt8) :
    Except Fault (List PrepWriteData × Bool) :=
  match server.prepQueue.getLast? with
  | some d =>
    if d.handle = handle ∧ offset.toNat = d.length.toNat + d.offset.toNat then
      (appendPrepData d value).map fun (d, ok) => (server.prepQueue.dropLast ++ [d], ok)
    else prepDataNew server handle offset value
  | none => prepDataNew server handle offset value

def prepWriteCb (server : BtGattServer) (payload : List UInt8) : BtGattServer × Answer :=
  if payload.length < 4 then (server, errorRsp attOpPrepWriteReq 0 btAttErrorInvalidPdu)
  else if server.prepQueue.length ≥ server.maxPrepQueueLen then
    (server, errorRsp attOpPrepWriteReq 0 btAttErrorPrepareQueueFull)
  else
    let handle := getLe16 payload
    let offset := getLe16 (payload.drop 2)
    match gattDbGetAttribute server.db handle with
    | none => (server, errorRsp attOpPrepWriteReq handle btAttErrorInvalidHandle)
    | some a =>
      let ecode := checkPermissions server.security a writeMask
      if ecode ≠ 0 then (server, errorRsp attOpPrepWriteReq handle ecode)
      else
        match storePrepData server handle offset (payload.drop 4) with
        | .error f => (server, .fault f)
        | .ok (queue, ok) => ({ server with prepQueue := queue },
          if ok then .sent ⟨attOpPrepWriteResp, payload⟩
          else errorRsp attOpPrepWriteReq handle btAttErrorInsufficientResources)

/-- `queue_remove_all` with `prep_write_data_destroy`, which frees the value of each piece. -/
def removeAll (queue : List PrepWriteData) (answer : Answer) : List PrepWriteData × Answer :=
  if queue.any (·.freed) then (queue, .fault .freed) else ([], answer)

/-- `exec_next_prep_write`, which the completion of each write calls again with the handle written.
With a callback the rest of the queue waits for it. -/
def execNextPrepWrite (junk : ℕ → UInt8) :
    BitVec 16 → GattDb → List PrepWriteData → GattDb × List PrepWriteData × Answer
  | _, db, [] => (db, [], .sent ⟨attOpExecWriteResp, []⟩)
  | ehandle, db, d :: queue =>
    match gattDbGetAttribute db d.handle with
    | none => (db, removeAll queue (errorRsp attOpExecWriteReq ehandle btAttErrorUnlikely))
    | some a =>
      if d.freed then (db, queue, .fault .freed)
      else if a.writeFunc then (db, queue, .silent)
      else execNextPrepWrite junk a.handle
        (storeAt junk db d.handle d.offset d.value) queue

def execWriteCb (junk : ℕ → UInt8) (server : BtGattServer) (payload : List UInt8) :
    BtGattServer × Answer :=
  let removed (answer : Answer) : BtGattServer × Answer :=
    let (queue, answer) := removeAll server.prepQueue answer
    ({ server with prepQueue := queue }, answer)
  let error (handle : BitVec 16) (ecode : UInt8) : BtGattServer × Answer :=
    removed (errorRsp attOpExecWriteReq handle ecode)
  match payload with
  | [flags] =>
    if flags = 0 then removed (.sent ⟨attOpExecWriteResp, []⟩)
    else if flags = 1 then
      match (if server.prepQueue.length > 1 then
          server.prepQueue.find? (fun d => !d.reliableSupported) else none) with
      | some d => error d.handle btAttErrorRequestNotSupported
      | none =>
        let (db, queue, answer) := execNextPrepWrite junk 0 server.db server.prepQueue
        ({ server with db := db, prepQueue := queue }, answer)
    else error 0 btAttErrorInvalidPdu
  | _ => error 0 btAttErrorInvalidPdu

/-! The exchange of the MTU -/

def exchangeMtuCb (server : BtGattServer) (payload : List UInt8) : BtGattServer × Answer :=
  if payload.length ≠ 2 then (server, errorRsp attOpMtuReq 0 btAttErrorInvalidPdu)
  else
    let finalMtu := max (min (getLe16 payload).toNat server.mtu.toNat) btAttDefaultLeMtu
    ({ server with mtu := BitVec.ofNat 16 finalMtu, attMtu := BitVec.ofNat 16 finalMtu },
      .sent (encMtuResp server.mtu))

/-- `gatt_server_register_att_handlers`: the handler of each opcode. Bytes that `realloc` adds are
`junk`. -/
def handleRequest (junk : ℕ → UInt8) (server : BtGattServer) (p : Pdu) : BtGattServer × Answer :=
  if p.opcode = attOpMtuReq then exchangeMtuCb server p.payload
  else if p.opcode = attOpReadByGroupReq then (server, readByGrpTypeCb server p.payload)
  else if p.opcode = attOpReadByTypeReq then readByTypeCb server p.payload
  else if p.opcode = attOpFindInfoReq then (server, findInfoCb server p.payload)
  else if p.opcode = attOpFindByTypeReq then (server, findByTypeValCb server p.payload)
  else if p.opcode = attOpWriteReq ∨ p.opcode = attOpWriteCmd then
    writeCb junk server p.opcode p.payload
  else if p.opcode = attOpReadReq then readCb server p.payload
  else if p.opcode = attOpReadBlobReq then readBlobCb server p.payload
  else if p.opcode = attOpReadMultiReq then (server, readMultipleCb server p.payload)
  else if p.opcode = attOpPrepWriteReq then prepWriteCb server p.payload
  else if p.opcode = attOpExecWriteReq then execWriteCb junk server p.payload
  else (server, .silent)

/-- The server as the peer of a client. -/
def serve (junk : ℕ → UInt8) (server : BtGattServer) (p : Pdu) : BtGattServer × Option Pdu :=
  match handleRequest junk server p with
  | (server, .sent rsp) => (server, some rsp)
  | (server, .silent) | (server, .fault _) => (server, none)

end Gattlib.GattServer
