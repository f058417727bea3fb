import Gattlib.Library.Buffers
import Gattlib.Library.Records
import Gattlib.Uuids

namespace Gattlib.AttPdus

open Uuids Library.Records Library.Buffers

/-- A PDU of the attribute protocol. It has at least the byte of its opcode. -/
structure Pdu where
  opcode : UInt8
  payload : List UInt8
  deriving DecidableEq

def Pdu.length (p : Pdu) : ℕ := p.payload.length + 1

def attOpError : UInt8 := 0x01
def attOpMtuReq : UInt8 := 0x02
def attOpMtuResp : UInt8 := 0x03
def attOpFindInfoReq : UInt8 := 0x04
def attOpFindInfoResp : UInt8 := 0x05
def attOpFindByTypeReq : UInt8 := 0x06
def attOpFindByTypeResp : UInt8 := 0x07
def attOpReadByTypeReq : UInt8 := 0x08
def attOpReadByTypeResp : UInt8 := 0x09
def attOpReadReq : UInt8 := 0x0A
def attOpReadResp : UInt8 := 0x0B
def attOpReadBlobReq : UInt8 := 0x0C
def attOpReadBlobResp : UInt8 := 0x0D
def attOpReadMultiReq : UInt8 := 0x0E
def attOpReadMultiResp : UInt8 := 0x0F
def attOpReadByGroupReq : UInt8 := 0x10
def attOpReadByGroupResp : UInt8 := 0x11
def attOpWriteReq : UInt8 := 0x12
def attOpWriteResp : UInt8 := 0x13
def attOpPrepWriteReq : UInt8 := 0x16
def attOpPrepWriteResp : UInt8 := 0x17
def attOpExecWriteReq : UInt8 := 0x18
def attOpExecWriteResp : UInt8 := 0x19
def attOpHandleNotify : UInt8 := 0x1B
def attOpHandleInd : UInt8 := 0x1D
def attOpHandleCnf : UInt8 := 0x1E
def attOpWriteCmd : UInt8 := 0x52
def attOpSignedWriteCmd : UInt8 := 0xD2

def btAttDefaultLeMtu : ℕ := 23

def btAttErrorInvalidHandle : UInt8 := 0x01
def btAttErrorReadNotPermitted : UInt8 := 0x02
def btAttErrorWriteNotPermitted : UInt8 := 0x03
def btAttErrorInvalidPdu : UInt8 := 0x04
def btAttErrorAuthentication : UInt8 := 0x05
def btAttErrorRequestNotSupported : UInt8 := 0x06
def btAttErrorInvalidOffset : UInt8 := 0x07
def btAttErrorPrepareQueueFull : UInt8 := 0x09
def btAttErrorAttributeNotFound : UInt8 := 0x0A
def btAttErrorUnlikely : UInt8 := 0x0E
def btAttErrorInsufficientEncryption : UInt8 := 0x0F
def btAttErrorUnsupportedGroupType : UInt8 := 0x10
def btAttErrorInsufficientResources : UInt8 := 0x11

def btAttSecurityAuto : ℤ := 0
def btAttSecurityLow : ℤ := 1
def btAttSecurityMedium : ℤ := 2
def btAttSecurityHigh : ℤ := 3
def btAttSecurityFips : ℤ := 4

def putLe16 (value : BitVec 16) : List UInt8 := putWord 2 value.toNat

def getLe16 (data : List UInt8) : BitVec 16 := BitVec.ofNat 16 (getWord (data.take 2))

/-- `uuid_len` and what `put_uuid_le` writes: only two of the types are sent. -/
def putUuidLe : BtUuid → Option (List UInt8)
  | .u16 value => some (putLe16 value)
  | .u128 value => some value.data.reverse
  | .u32 _ | .unspec => none

/-- `get_uuid`, and `get_uuid_le` of the server -/
def getUuidLe (data : List UInt8) : Option BtUuid :=
  if data.length = 2 then some (.u16 (getLe16 data))
  else if h : data.length = 16 then
    some (.u128 ⟨data.reverse, by rw [List.length_reverse, h]⟩)
  else none

/-- The part of a value that a buffer of `room` bytes has place for behind `least` others. The
difference is unsigned: a buffer smaller than that does not shorten the value. -/
def clipped (room least : ℕ) (value : List UInt8) : List UInt8 :=
  if least ≤ room then value.take (room - least) else value

/-- `struct att_data_list`, made by `att_data_list_alloc`: the entries have one size. -/
structure AttDataList where
  len : ℕ
  data : List (List UInt8)
  uniform : ∀ d ∈ data, d.length = len
  byte : len ≤ 255

/-! Requests over a range of handles -/

def encRange (opcode : UInt8) (start end_ : BitVec 16) (uuid : BtUuid) : Option Pdu :=
  (putUuidLe uuid).map fun data => ⟨opcode, putLe16 start ++ putLe16 end_ ++ data⟩

def decRange (opcode : UInt8) (p : Pdu) : Option (BitVec 16 × BitVec 16 × BtUuid) :=
  if p.opcode ≠ opcode then none
  else if p.length ≠ 5 + 2 ∧ p.length ≠ 5 + 16 then none
  else (getUuidLe (p.payload.drop 4)).map fun uuid =>
    (getLe16 p.payload, getLe16 (p.payload.drop 2), uuid)

def encReadByGrpReq : BitVec 16 → BitVec 16 → BtUuid → Option Pdu := encRange attOpReadByGroupReq
def decReadByGrpReq : Pdu → Option (BitVec 16 × BitVec 16 × BtUuid) := decRange attOpReadByGroupReq
def encReadByTypeReq : BitVec 16 → BitVec 16 → BtUuid → Option Pdu := encRange attOpReadByTypeReq
def decReadByTypeReq : Pdu → Option (BitVec 16 × BitVec 16 × BtUuid) := decRange attOpReadByTypeReq

def encFindInfoReq (start end_ : BitVec 16) : Pdu :=
  ⟨attOpFindInfoReq, putLe16 start ++ putLe16 end_⟩

def decFindInfoReq (p : Pdu) : Option (BitVec 16 × BitVec 16) :=
  if p.length < 5 then none
  else if p.opcode ≠ attOpFindInfoReq then none
  else some (getLe16 p.payload, getLe16 (p.payload.drop 2))

def encFindByTypeReq (start end_ : BitVec 16) (uuid : BtUuid) (value : List UInt8) (room : ℕ) :
    Option Pdu :=
  match uuid with
  | .u16 u => some ⟨attOpFindByTypeReq,
      putLe16 start ++ putLe16 end_ ++ putLe16 u ++ clipped room 7 value⟩
  | _ => none

def decFindByTypeReq (p : Pdu) : Option (BitVec 16 × BitVec 16 × BtUuid × List UInt8) :=
  if p.length < 7 then none
  else if p.opcode ≠ attOpFindByTypeReq then none
  else some (getLe16 p.payload, getLe16 (p.payload.drop 2), .u16 (getLe16 (p.payload.drop 4)),
    p.payload.drop 6)

/-! PDUs of one or two words, with or without a value -/

/-- `enc_read_req`, `enc_mtu_req` and `enc_mtu_resp` -/
def encWord (opcode : UInt8) (word : BitVec 16) : Pdu := ⟨opcode, putLe16 word⟩

def decWord (opcode : UInt8) (p : Pdu) : Option (BitVec 16) :=
  if p.length < 3 then none else if p.opcode ≠ opcode then none else some (getLe16 p.payload)

def encReadReq : BitVec 16 → Pdu := encWord attOpReadReq
def decReadReq : Pdu → Option (BitVec 16) := decWord attOpReadReq
def encMtuReq : BitVec 16 → Pdu := encWord attOpMtuReq
def decMtuReq : Pdu → Option (BitVec 16) := decWord attOpMtuReq
def encMtuResp : BitVec 16 → Pdu := encWord attOpMtuResp
def decMtuResp : Pdu → Option (BitVec 16) := decWord attOpMtuResp

def encReadBlobReq (handle offset : BitVec 16) : Pdu :=
  ⟨attOpReadBlobReq, putLe16 handle ++ putLe16 offset⟩

def decReadBlobReq (p : Pdu) : Option (BitVec 16 × BitVec 16) :=
  if p.length < 5 then none
  else if p.opcode ≠ attOpReadBlobReq then none
  else some (getLe16 p.payload, getLe16 (p.payload.drop 2))

def encWrite (opcode : UInt8) (handle : BitVec 16) (value : List UInt8) (room : ℕ) : Pdu :=
  ⟨opcode, putLe16 handle ++ clipped room 3 value⟩

def decWrite (opcode : UInt8) (p : Pdu) : Option (BitVec 16 × List UInt8) :=
  if p.length < 3 then none
  else if p.opcode ≠ opcode then none
  else some (getLe16 p.payload, p.payload.drop 2)

def encWriteReq : BitVec 16 → List UInt8 → ℕ → Pdu := encWrite attOpWriteReq
def decWriteReq : Pdu → Option (BitVec 16 × List UInt8) := decWrite attOpWriteReq
def encWriteCmd : BitVec 16 → List UInt8 → ℕ → Pdu := encWrite attOpWriteCmd
def decWriteCmd : Pdu → Option (BitVec 16 × List UInt8) := decWrite attOpWriteCmd

def encPrepWrite (opcode : UInt8) (handle offset : BitVec 16) (value : List UInt8) (room : ℕ) : Pdu :=
  ⟨opcode, putLe16 handle ++ putLe16 offset ++ clipped room 5 value⟩

def decPrepWrite (opcode : UInt8) (p : Pdu) : Option (BitVec 16 × BitVec 16 × List UInt8) :=
  if p.length < 5 then none
  else if p.opcode ≠ opcode then none
  else some (getLe16 p.payload, getLe16 (p.payload.drop 2), p.payload.drop 4)

def encPrepWriteReq : BitVec 16 → BitVec 16 → List UInt8 → ℕ → Pdu := encPrepWrite attOpPrepWriteReq
def decPrepWriteReq : Pdu → Option (BitVec 16 × BitVec 16 × List UInt8) :=
  decPrepWrite attOpPrepWriteReq
def encPrepWriteResp : BitVec 16 → BitVec 16 → List UInt8 → ℕ → Pdu :=
  encPrepWrite attOpPrepWriteResp

/-- The opcode that is looked for is the one of the request. -/
def decPrepWriteResp : Pdu → Option (BitVec 16 × BitVec 16 × List UInt8) :=
  decPrepWrite attOpPrepWriteReq

def encExecWriteReq (flags : UInt8) : Option Pdu :=
  if flags > 1 then none else some ⟨attOpExecWriteReq, [flags]⟩

def decExecWriteReq (p : Pdu) : Option UInt8 :=
  if p.length < 2 then none
  else if p.opcode ≠ attOpExecWriteReq then none
  else p.payload.head?

/-- A value is not shortened here. -/
def encIndication (handle : BitVec 16) (value : List UInt8) (room : ℕ) : Option Pdu :=
  if room < value.length + 3 then none else some ⟨attOpHandleInd, putLe16 handle ++ value⟩

/-- The caller's buffer has `vlen` bytes. -/
def decIndication (vlen : ℕ) (p : Pdu) : Option (BitVec 16 × List UInt8) :=
  if p.opcode ≠ attOpHandleInd then none
  else if p.length < 3 then none
  else some (getLe16 p.payload, (p.payload.drop 2).take vlen)

def encErrorResp (opcode : UInt8) (handle : BitVec 16) (status : UInt8) : Pdu :=
  ⟨attOpError, opcode :: putLe16 handle ++ [status]⟩

def encReadResp (value : List UInt8) (room : ℕ) : Pdu := ⟨attOpReadResp, clipped room 1 value⟩

/-- The caller's buffer has `vlen` bytes: `.error` is one of the negative error numbers. -/
def decReadResp (vlen : ℕ) (p : Pdu) : Except Int (List UInt8) :=
  if p.opcode ≠ attOpReadResp then .error (-22)
  else if vlen < p.payload.length then .error (-105)
  else .ok p.payload

/-- One byte, and no more of the PDU is looked at. -/
def encWriteResp : Pdu := ⟨attOpWriteResp, []⟩
def decWriteResp (p : Pdu) : Bool := p.opcode = attOpWriteResp
def encExecWriteResp : Pdu := ⟨attOpExecWriteResp, []⟩
def decExecWriteResp (p : Pdu) : Bool := p.opcode = attOpExecWriteResp

/-! Signed writes -/

def attSignatureLen : ℕ := 12

abbrev Signature := { bytes : List UInt8 // bytes.length = attSignatureLen }

/-- `sign` is `bt_crypto_sign_att` with the key and the counter of the call, and may fail. It is given
the PDU up to the end of the value. -/
def encSignedWriteCmd (sign : List UInt8 → Option Signature) (handle : BitVec 16) (value : List UInt8)
    (room : ℕ) : Option Pdu :=
  let data := putLe16 handle ++ clipped room (3 + attSignatureLen) value
  (sign (attOpSignedWriteCmd :: data)).map fun signature => ⟨attOpSignedWriteCmd, data ++ signature.1⟩

def decSignedWriteCmd (p : Pdu) : Option (BitVec 16 × List UInt8 × Signature) :=
  if h : p.length < 3 + attSignatureLen then none
  else if p.opcode ≠ attOpSignedWriteCmd then none
  else
    let vlen := p.length - (3 + attSignatureLen)
    some (getLe16 p.payload, (p.payload.drop 2).take vlen,
      ⟨(p.payload.drop (2 + vlen)).take attSignatureLen, by
        simp only [Pdu.length, attSignatureLen] at h
        simp only [vlen, List.length_take, List.length_drop, Pdu.length, attSignatureLen]
        omega⟩)

/-! Responses with a list of entries. Their buffer is one of the size of the MTU, a `uint16_t`, so
that the offset, which is another, does not wrap around. -/

def encReadByGrpResp (list : AttDataList) (mtu : BitVec 16) : Option Pdu :=
  if mtu.toNat < list.len + 2 then none
  else some ⟨attOpReadByGroupResp, UInt8.ofNat list.len ::
    (fitting list.len mtu.toNat 2 list.data).flatten⟩

/-- `MIN(len - 2, list->len)`, with an unsigned difference -/
def entryRoom (list : AttDataList) (mtu : BitVec 16) : ℕ :=
  if 2 ≤ mtu.toNat then min (mtu.toNat - 2) list.len else list.len

def encReadByTypeResp (list : AttDataList) (mtu : BitVec 16) : Pdu :=
  ⟨attOpReadByTypeResp, UInt8.ofNat (entryRoom list mtu) ::
    (fitting (entryRoom list mtu) mtu.toNat 2
      (list.data.map (List.take (entryRoom list mtu)))).flatten⟩

def encFindInfoResp (format : UInt8) (list : AttDataList) (mtu : BitVec 16) : Option Pdu :=
  if mtu.toNat < list.len + 2 then none
  else some ⟨attOpFindInfoResp, format :: (fitting list.len mtu.toNat 2 list.data).flatten⟩

/-- The entries that a loop over `num`, a `uint16_t`, copies out of the PDU. -/
def entriesOf (elen : UInt8) (data : List UInt8) : AttDataList where
  len := elen.toNat
  data := splitRecords elen.toNat (data.length / elen.toNat % 65536) data
  uniform := by
    refine splitRecords_size (Nat.le_trans (Nat.mul_le_mul_right _ (Nat.mod_le _ _)) ?_)
    rw [Nat.mul_comm]
    exact Nat.mul_div_le _ _
  byte := by
    have := elen.toNat_lt
    omega

def decList (opcode : UInt8) (leastLen leastEntry : ℕ) (p : Pdu) : Option AttDataList :=
  if p.opcode ≠ opcode then none
  else if p.length < leastLen then none
  else
    match p.payload with
    | [] => none
    | elen :: data =>
      if elen.toNat < leastEntry then none
      else if data.length % elen.toNat ≠ 0 then none
      else some (entriesOf elen data)

def decReadByGrpResp : Pdu → Option AttDataList := decList attOpReadByGroupResp 7 5
def decReadByTypeResp : Pdu → Option AttDataList := decList attOpReadByTypeResp 5 3

/-- The size of an entry: that of the PDU's first two bytes is part of it, and stays alone when the
format is neither of the two. -/
def findInfoEntry (format : UInt8) : UInt8 :=
  if format = 1 then 2 + 2 else if format = 2 then 2 + 16 else 2

/-- A PDU without a format is read behind its end. An incomplete last entry is left out. -/
def decFindInfoResp (p : Pdu) : Except Fault (Option (UInt8 × AttDataList)) :=
  if p.opcode ≠ attOpFindInfoResp then .ok none
  else
    match p.payload with
    | [] => .error (.read 1)
    | format :: data => .ok (some (format, entriesOf (findInfoEntry format) data))

/-- `struct att_range` -/
structure AttRange where
  start : BitVec 16
  end_ : BitVec 16
  deriving DecidableEq

def putRange (range : AttRange) : List UInt8 := putLe16 range.start ++ putLe16 range.end_

def getRange (data : List UInt8) : AttRange := ⟨getLe16 data, getLe16 (data.drop 2)⟩

def encFindByTypeResp (matches_ : List AttRange) (mtu : BitVec 16) : Pdu :=
  ⟨attOpFindByTypeResp, (fitting 4 mtu.toNat 1 (matches_.map putRange)).flatten⟩

/-- The empty list is NULL. -/
def decFindByTypeResp (p : Pdu) : List AttRange :=
  if p.length < 5 then []
  else if p.opcode ≠ attOpFindByTypeResp then []
  else if p.payload.length % 4 ≠ 0 then []
  else (splitRecords 4 (p.payload.length / 4) p.payload).map getRange

section

variable {value : BitVec 16} {data rest : List UInt8} {uuid : BtUuid} {room least : ℕ}

@[simp] theorem putLe16_length (value : BitVec 16) : (putLe16 value).length = 2 :=
  putWord_length 2 _

@[simp] theorem getLe16_putLe16 (value : BitVec 16) (rest : List UInt8) :
    getLe16 (putLe16 value ++ rest) = value := by
  have htake : (putLe16 value ++ rest).take 2 = putLe16 value := by
    rw [← putLe16_length value, List.take_left]
  have hlt : value.toNat < 256 ^ 2 := value.isLt
  rw [getLe16, htake, putLe16, getWord_putWord, Nat.mod_eq_of_lt hlt, BitVec.ofNat_toNat,
    BitVec.setWidth_eq]

@[simp] theorem getLe16_alone (value : BitVec 16) : getLe16 (putLe16 value) = value := by
  have h := getLe16_putLe16 value []
  rwa [List.append_nil] at h

@[simp] theorem drop_putLe16 (value : BitVec 16) (rest : List UInt8) (n : ℕ) :
    (putLe16 value ++ rest).drop (n + 2) = rest.drop n := by
  rw [Nat.add_comm, ← List.drop_drop, ← putLe16_length value, List.drop_left]

theorem putLe16_getLe16 (h : 2 ≤ data.length) : putLe16 (getLe16 data) = data.take 2 := by
  have hlen : (data.take 2).length = 2 := by
    rw [List.length_take]
    omega
  have hlt := getWord_lt (data.take 2)
  rw [hlen] at hlt
  have hmod : getWord (data.take 2) % 2 ^ 16 = getWord (data.take 2) := Nat.mod_eq_of_lt hlt
  rw [putLe16, getLe16, BitVec.toNat_ofNat, hmod]
  have hput := putWord_getWord (data.take 2)
  rwa [hlen] at hput

theorem getUuidLe_putUuidLe (h : putUuidLe uuid = some data) : getUuidLe data = some uuid := by
  cases uuid with
  | unspec | u32 _ => simp [putUuidLe] at h
  | u16 value =>
    obtain rfl : putLe16 value = data := Option.some.inj h
    rw [getUuidLe, if_pos (putLe16_length value), getLe16_alone]
  | u128 value =>
    obtain rfl : value.data.reverse = data := Option.some.inj h
    have hlen : value.data.reverse.length = 16 := by rw [List.length_reverse, value.size]
    simp only [getUuidLe, hlen, Nat.reduceEqDiff, if_false, dite_true, List.reverse_reverse]

theorem putUuidLe_getUuidLe (h : getUuidLe data = some uuid) : putUuidLe uuid = some data := by
  rw [getUuidLe] at h
  by_cases h2 : data.length = 2
  · rw [if_pos h2] at h
    obtain rfl := Option.some.inj h
    rw [putUuidLe, putLe16_getLe16 (by omega), ← h2, List.take_length]
  · rw [if_neg h2] at h
    by_cases h16 : data.length = 16
    · rw [dif_pos h16] at h
      obtain rfl := Option.some.inj h
      rw [putUuidLe, List.reverse_reverse]
    · rw [dif_neg h16] at h
      cases h

theorem putUuidLe_length (h : putUuidLe uuid = some data) : data.length = 2 ∨ data.length = 16 := by
  cases uuid with
  | unspec | u32 _ => simp [putUuidLe] at h
  | u16 value =>
    obtain rfl : putLe16 value = data := Option.some.inj h
    exact .inl (putLe16_length value)
  | u128 value =>
    obtain rfl : value.data.reverse = data := Option.some.inj h
    exact .inr (by rw [List.length_reverse, value.size])

theorem clipped_fits (h : least ≤ room) (hv : data.length ≤ room - least) :
    clipped room least data = data := by
  rw [clipped, if_pos h, List.take_of_length_le hv]

end

end Gattlib.AttPdus
