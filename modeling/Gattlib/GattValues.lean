import Gattlib.GattDiscovery

namespace Gattlib.GattValues

open AttPdus GattDiscovery Library.Buffers Library.Dialogue

/-- What a callback of the user gets: a status, and a buffer with the number of its bytes in 16 bits. -/
structure GAttribResult where
  status : UInt8
  pdu : List UInt8
  len : BitVec 16
  deriving DecidableEq

/-- `attrib_callback_result`, for a callback that is the user's own -/
def attribCallbackResult (p : Pdu) : GAttribResult where
  status := statusOf p
  pdu := p.opcode :: p.payload
  len := BitVec.ofNat 16 p.length

/-! Reading -/

/-- `struct read_long_data`: there is no buffer before the first response has come. -/
structure ReadLongData where
  handle : BitVec 16
  buffer : Option (List UInt8)
  size : BitVec 16

/-- The size is kept in 16 bits, and `realloc` gives the buffer the sum of it and of the part. An error
ends the reading as if it were the end of the value. -/
def readBlobHelper (room : ℕ) (longRead : ReadLongData) (buffer : List UInt8) (p : Pdu) :
    Next ReadLongData Pdu GAttribResult :=
  if statusOf p ≠ 0 ∨ p.length = 1 then .stop ⟨0, buffer, longRead.size⟩
  else
    let buffer := buffer.take longRead.size.toNat ++ p.payload
    let size := longRead.size + BitVec.ofNat 16 p.payload.length
    if p.length < room then .stop ⟨0, buffer, size⟩
    else .send ⟨longRead.handle, some buffer, size⟩ (encReadBlobReq longRead.handle (size - 1))

def readCharHelper (room : ℕ) (longRead : ReadLongData) (p : Pdu) :
    Next ReadLongData Pdu GAttribResult :=
  if statusOf p ≠ 0 ∨ p.length < room then .stop (attribCallbackResult p)
  else
    .send ⟨longRead.handle, some (p.opcode :: p.payload), BitVec.ofNat 16 p.length⟩
      (encReadBlobReq longRead.handle (BitVec.ofNat 16 p.length - 1))

/-- The callback of the request under way. -/
def readCharCb (room : ℕ) (longRead : ReadLongData) (p : Pdu) : Next ReadLongData Pdu GAttribResult :=
  match longRead.buffer with
  | none => readCharHelper room longRead p
  | some buffer => readBlobHelper room longRead buffer p

def gattReadChar (handle : BitVec 16) : Next ReadLongData Pdu GAttribResult :=
  .send ⟨handle, none, 0⟩ (encReadReq handle)

/-! Writing -/

/-- How a write ends: the user's callback is called, the next part is read outside of the value, or a
request could not be encoded. -/
inductive Written
  | called (result : GAttribResult)
  | fault (f : Fault)
  | lost

/-- `struct write_long_data` -/
structure WriteLongData where
  handle : BitVec 16
  offset : BitVec 16
  value : List UInt8

/-- A write waits for the answer to a part, or for the last one, which goes to the user's callback. -/
inductive Writing
  | part (longWrite : WriteLongData)
  | last

def attWriteAllPrepWrites : UInt8 := 1

def executeWrite (flags : UInt8) : Next Writing Pdu Written :=
  match encExecWriteReq flags with
  | some req => .send .last req
  | none => .stop .lost

/-- The number of bytes that are left is unsigned. Behind the end of the value it is so large that the
request is filled, which has place for a part unless the buffer has five bytes. -/
def prepareWrite (room : ℕ) (longWrite : WriteLongData) : Next Writing Pdu Written :=
  if longWrite.value.length < longWrite.offset.toNat ∧ room ≠ 5 then
    .stop (.fault (.read longWrite.value.length))
  else
    .send (.part longWrite) (encPrepWriteReq longWrite.handle longWrite.offset
      (longWrite.value.drop longWrite.offset.toNat) room)

/-- The offset goes on by what the answer has behind its five first bytes. -/
def prepareWriteCb (room : ℕ) (longWrite : WriteLongData) (p : Pdu) : Next Writing Pdu Written :=
  if statusOf p ≠ 0 then .stop (.called (attribCallbackResult p))
  else
    let longWrite := { longWrite with offset := longWrite.offset + BitVec.ofNat 16 p.length - 5 }
    if longWrite.offset.toNat = longWrite.value.length then executeWrite attWriteAllPrepWrites
    else prepareWrite room longWrite

def writeCharCb (room : ℕ) : Writing → Pdu → Next Writing Pdu Written
  | .part longWrite, p => prepareWriteCb room longWrite p
  | .last, p => .stop (.called (attribCallbackResult p))

/-- The room for the value of a request is an unsigned difference as well. -/
def gattWriteChar (room : ℕ) (handle : BitVec 16) (value : List UInt8) : Next Writing Pdu Written :=
  if room < 3 ∨ value.length ≤ room - 3 then .send .last (encWriteReq handle value room)
  else prepareWrite room ⟨handle, 0, value⟩

end Gattlib.GattValues
