import Gattlib.AttPdus
import Gattlib.CharacteristicDiscovery
import Gattlib.Library.Dialogue
import Gattlib.PrimaryServices
import Gattlib.UuidText

namespace Gattlib.GattDiscovery

open Uuids UuidText AttPdus Library.Buffers Library.Dialogue
open PrimaryServices (GattlibPrimaryService)
open CharacteristicDiscovery (GattlibCharacteristic)

def attEcodeInvalidPdu : UInt8 := 0x04
def attEcodeAttrNotFound : UInt8 := 0x0A
def attEcodeUnlikely : UInt8 := 0x0E
def attEcodeIo : UInt8 := 0x80

def gattPrimSvcUuid : BtUuid := .u16 0x2800
def gattCharacUuid : BtUuid := .u16 0x2803

/-- The status that `attrib_callback_result` passes on with a response. -/
def statusOf (p : Pdu) : UInt8 :=
  if p.opcode = attOpError then (p.payload[3]?).getD attEcodeUnlikely else 0

/-- How a procedure ends: with a call of the user's callback, by a read behind an entry, or without a
call, because the next request could not be encoded. -/
inductive Ended (ρ : Type)
  | called (err : UInt8) (results : List ρ)
  | fault (f : Fault)
  | lost

/-- `n` bytes of an allocation from `i` on. -/
def readBytes (data : List UInt8) (i n : ℕ) : Except Fault (List UInt8) :=
  if i + n ≤ data.length then .ok ((data.drop i).take n) else .error (.read data.length)

/-- `get_uuid128` of the bytes from `i` on: two for the short type, else sixteen. -/
def getUuid128 (short : Bool) (data : List UInt8) (i : ℕ) : Except Fault BtUuid :=
  if short then (readBytes data i 2).map fun val => btUuidToUuid128 .unspec (.u16 (getLe16 val))
  else if h : i + 16 ≤ data.length then
    .ok (.u128 ⟨((data.drop i).take 16).reverse, by
      rw [List.length_reverse, List.length_take, List.length_drop]
      omega⟩)
  else .error (.read data.length)

/-- `bt_uuid_to_string`, which has the format of `gattlib_uuid_to_string` for a long UUID. -/
def btUuidToString (uuid : BtUuid) (n : ℕ) : List UInt8 :=
  match btUuidToUuid128 .unspec uuid with
  | .u128 value => (gattlibUuidToString (.uuid128 value) n).2
  | _ => Library.Text.snprintf n (Library.Text.chars "NULL")

/-! Primary services -/

/-- `struct gatt_primary` -/
structure GattPrimary where
  uuid : List UInt8
  range : AttRange
  deriving DecidableEq

/-- `struct discover_primary` -/
structure DiscoverPrimary where
  start : BitVec 16
  primaries : List GattPrimary

/-- A `bt_uuid_t` in memory: its union has 16 bytes, the last four of which a UUID of 32 bits leaves unset. -/
structure StoredUuid where
  uuid : BtUuid
  last : List UInt8
  four : last.length = 4

/-- `put_uuid_le` reverses the whole union for every type but the short one, and as many of these bytes are
sent as the type has: those at the end of the union for a UUID of 32 bits, and none for an unspecified one. -/
def StoredUuid.value (stored : StoredUuid) : List UInt8 :=
  match stored.uuid with
  | .u16 value => putLe16 value
  | .u32 _ => stored.last.reverse
  | .u128 value => value.data.reverse
  | .unspec => []

def encodeDiscoverPrimary (start end_ : BitVec 16) (uuid : Option StoredUuid) (room : ℕ) : Option Pdu :=
  match uuid with
  | none => encReadByGrpReq start end_ gattPrimSvcUuid
  | some stored => encFindByTypeReq start end_ gattPrimSvcUuid stored.value room

def primaryOf (short : Bool) (data : List UInt8) : Except Fault GattPrimary :=
  (getUuid128 short data 4).map fun uuid128 =>
    ⟨btUuidToString uuid128 (maxLenUuidStr + 1), ⟨getLe16 data, getLe16 (data.drop 2)⟩⟩

def primaryAllCb (room : ℕ) (dp : DiscoverPrimary) (p : Pdu) :
    Next DiscoverPrimary Pdu (Ended GattPrimary) :=
  let status := statusOf p
  if status ≠ 0 then
    .stop (.called (if status = attEcodeAttrNotFound then 0 else status) dp.primaries)
  else
    match decReadByGrpResp p with
    | none => .stop (.called attEcodeIo dp.primaries)
    | some list =>
      if list.len ≠ 6 ∧ list.len ≠ 20 then .stop (.called attEcodeInvalidPdu dp.primaries)
      else
        match list.data.mapM (primaryOf (list.len == 6)) with
        | .error f => .stop (.fault f)
        | .ok found =>
          let end_ := (found.getLast?.map fun primary => primary.range.end_).getD 0
          let dp := { dp with primaries := dp.primaries ++ found }
          if end_ < dp.start then .stop (.called attEcodeUnlikely dp.primaries)
          else
            let dp := { dp with start := end_ + 1 }
            if end_ ≠ 0xFFFF then
              match encodeDiscoverPrimary dp.start 0xFFFF none room with
              | some req => .send dp req
              | none => .stop .lost
            else .stop (.called 0 dp.primaries)

/-- `gatt_discover_primary` without a UUID: `none` is the return value 0. -/
def discoverPrimaryAll (room : ℕ) : Option (Next DiscoverPrimary Pdu (Ended GattPrimary)) :=
  (encodeDiscoverPrimary 0x0001 0xFFFF none room).map (.send ⟨0x0001, []⟩)

/-- `struct discover_primary` of a search for one UUID, which collects ranges. -/
structure DiscoverByUuid where
  uuid : StoredUuid
  start : BitVec 16
  ranges : List AttRange

def primaryByUuidCb (room : ℕ) (dp : DiscoverByUuid) (p : Pdu) :
    Next DiscoverByUuid Pdu (Ended AttRange) :=
  let status := statusOf p
  if status ≠ 0 then .stop (.called (if status = attEcodeAttrNotFound then 0 else status) dp.ranges)
  else
    match (decFindByTypeResp p).getLast? with
    | none => .stop (.called 0 dp.ranges)
    | some range =>
      let dp := { dp with ranges := dp.ranges ++ decFindByTypeResp p }
      if range.end_ = 0xFFFF then .stop (.called 0 dp.ranges)
      else if range.end_ < dp.start then .stop (.called attEcodeUnlikely dp.ranges)
      else
        let dp := { dp with start := range.end_ + 1 }
        match encodeDiscoverPrimary dp.start 0xFFFF (some dp.uuid) room with
        | some req => .send dp req
        | none => .stop (.called 0 dp.ranges)

def discoverPrimaryByUuid (uuid : StoredUuid) (room : ℕ) :
    Option (Next DiscoverByUuid Pdu (Ended AttRange)) :=
  (encodeDiscoverPrimary 0x0001 0xFFFF (some uuid) room).map (.send ⟨uuid, 0x0001, []⟩)

/-! Characteristics -/

/-- `struct gatt_char` -/
structure GattChar where
  uuid : List UInt8
  handle : BitVec 16
  properties : UInt8
  valueHandle : BitVec 16
  deriving DecidableEq

/-- `struct discover_char` -/
structure DiscoverChar where
  uuid : Option BtUuid
  start : BitVec 16
  end_ : BitVec 16
  characteristics : List GattChar

/-- `bt_uuid_cmp` with the UUID that is looked for, if there is one, does not return 0. -/
def skipped (wanted : Option BtUuid) (uuid : BtUuid) : Bool :=
  wanted.any fun w => btUuidToUuid128 .unspec w != btUuidToUuid128 .unspec uuid

/-- An entry: its handle, and the characteristic unless it is skipped. -/
def charOf (wanted : Option BtUuid) (short : Bool) (value : List UInt8) :
    Except Fault (BitVec 16 × Option GattChar) := do
  let handle ← readBytes value 0 2
  let uuid128 ← getUuid128 short value 5
  if skipped wanted uuid128 then return (getLe16 handle, none)
  let properties ← readBytes value 2 1
  let valueHandle ← readBytes value 3 2
  return (getLe16 handle, some ⟨btUuidToString uuid128 (maxLenUuidStr + 1), getLe16 handle,
    properties.headD 0, getLe16 valueHandle⟩)

def charDiscoveredCb (dc : DiscoverChar) (p : Pdu) : Next DiscoverChar Pdu (Ended GattChar) :=
  let status := statusOf p
  if status = attEcodeAttrNotFound then
    .stop (.called (if dc.characteristics = [] then status else 0) dc.characteristics)
  else if status ≠ 0 then .stop (.called status dc.characteristics)
  else
    match decReadByTypeResp p with
    | none => .stop (.called attEcodeIo dc.characteristics)
    | some list =>
      match list.data.mapM (charOf dc.uuid (list.len == 7)) with
      | .error f => .stop (.fault f)
      | .ok found =>
        let last := (found.getLast?.map Prod.fst).getD 0
        let dc := { dc with characteristics := dc.characteristics ++ found.filterMap Prod.snd }
        if last < dc.start then .stop (.called attEcodeUnlikely dc.characteristics)
        else
          let dc := { dc with start := last + 1 }
          if last ≠ 0 ∧ dc.start < dc.end_ then
            match encReadByTypeReq dc.start dc.end_ gattCharacUuid with
            | some req => .send dc req
            | none => .stop .lost
          else .stop (.called 0 dc.characteristics)

def gattDiscoverChar (start end_ : BitVec 16) (uuid : Option BtUuid) :
    Option (Next DiscoverChar Pdu (Ended GattChar)) :=
  (encReadByTypeReq start end_ gattCharacUuid).map (.send ⟨uuid, start, end_, []⟩)

/-! Descriptors -/

/-- `struct gatt_desc` -/
structure GattDesc where
  uuid : List UInt8
  handle : BitVec 16
  uuid16 : BitVec 16
  deriving DecidableEq

/-- `struct discover_desc` -/
structure DiscoverDesc where
  uuid : Option BtUuid
  start : BitVec 16
  end_ : BitVec 16
  descriptors : List GattDesc

/-- The loop over the entries: the handle of the last one that was looked at, the descriptors, and
whether the one that is looked for is there, which ends the loop. -/
def descsOf (wanted : Option BtUuid) (short : Bool) :
    BitVec 16 → List (List UInt8) → Except Fault (BitVec 16 × List GattDesc × Bool)
  | last, [] => .ok (last, [], false)
  | _, value :: rest => do
    let handle ← readBytes value 0 2
    let uuid128 ← getUuid128 short value 2
    if skipped wanted uuid128 then descsOf wanted short (getLe16 handle) rest
    else
      let desc : GattDesc := ⟨btUuidToString uuid128 (maxLenUuidStr + 1), getLe16 handle,
        if short then getLe16 (value.drop 2) else 0⟩
      if wanted.isSome then return (getLe16 handle, [desc], true)
      let (last, descs, found) ← descsOf wanted short (getLe16 handle) rest
      return (last, desc :: descs, found)

def descDiscoveredCb (dd : DiscoverDesc) (p : Pdu) : Next DiscoverDesc Pdu (Ended GattDesc) :=
  let status := statusOf p
  if status = attEcodeAttrNotFound then
    .stop (.called (if dd.descriptors = [] then status else 0) dd.descriptors)
  else if status ≠ 0 then .stop (.called status dd.descriptors)
  else
    match decFindInfoResp p with
    | .error f => .stop (.fault f)
    | .ok none => .stop (.called attEcodeIo dd.descriptors)
    | .ok (some (format, list)) =>
      match descsOf dd.uuid (format == 1) 0xFFFF list.data with
      | .error f => .stop (.fault f)
      | .ok (last, descs, uuidFound) =>
        let dd := { dd with descriptors := dd.descriptors ++ descs }
        if last < dd.start then .stop (.called attEcodeUnlikely dd.descriptors)
        else
          let dd := { dd with start := last + 1 }
          if last < dd.end_ ∧ !uuidFound then .send dd (encFindInfoReq dd.start dd.end_)
          else .stop (.called 0 dd.descriptors)

def gattDiscoverDesc (start end_ : BitVec 16) (uuid : Option BtUuid) :
    Next DiscoverDesc Pdu (Ended GattDesc) :=
  .send ⟨uuid, start, end_, []⟩ (encFindInfoReq start end_)

/-! What the library of this repository makes of the lists: its callbacks leave the arrays empty when
the status is an error, and the functions return success all the same. -/

/-- The UUID of a text that is none is left as it was. -/
def uuidOfText (text : List UInt8) : Uuid :=
  match gattlibStringToUuid text (maxLenUuidStr + 1) with
  | .ok uuid => uuid
  | .error _ => .other sdpUuidUnspec

def primaryServiceOf (primary : GattPrimary) : GattlibPrimaryService where
  attrHandleStart := primary.range.start
  attrHandleEnd := primary.range.end_
  uuid := uuidOfText primary.uuid

/-- `primary_all_cb` of `gattlib_discover.c`. -/
def gattlibPrimaryAllCb (status : UInt8) (services : List GattPrimary) : List GattlibPrimaryService :=
  if status ≠ 0 then [] else services.map primaryServiceOf

def characteristicOf (c : GattChar) : GattlibCharacteristic where
  handle := c.handle
  properties := BitVec.ofNat 8 c.properties.toNat
  valueHandle := c.valueHandle
  uuid := uuidOfText c.uuid

def gattlibCharacteristicCb (status : UInt8) (characteristics : List GattChar) :
    List GattlibCharacteristic :=
  if status ≠ 0 then [] else characteristics.map characteristicOf

/-- `gattlib_descriptor_t` -/
structure GattlibDescriptor where
  handle : BitVec 16
  uuid16 : BitVec 16
  uuid : Uuid

def descriptorOf (d : GattDesc) : GattlibDescriptor := ⟨d.handle, d.uuid16, uuidOfText d.uuid⟩

/-- `char_desc_cb` -/
def gattlibDescriptorCb (status : UInt8) (descriptors : List GattDesc) : List GattlibDescriptor :=
  if status ≠ 0 then [] else descriptors.map descriptorOf

section

variable {data value : List UInt8} {i n : ℕ} {short : Bool} {wanted : Option BtUuid} {p : Pdu}

theorem readBytes_ok (h : i + n ≤ data.length) : readBytes data i n = .ok ((data.drop i).take n) :=
  if_pos h

theorem readBytes_fault (h : ¬i + n ≤ data.length) : readBytes data i n = .error (.read data.length) :=
  if_neg h

/-- The bytes of a UUID in a PDU. -/
def uuidSize (short : Bool) : ℕ := if short then 2 else 16

/-- The UUID that `get_uuid128` reads when its bytes are there. -/
def uuid128At (short : Bool) (data : List UInt8) (i : ℕ) : BtUuid :=
  btUuidToUuid128 .unspec ((getUuidLe ((data.drop i).take (uuidSize short))).getD .unspec)

theorem getUuid128_ok (h : i + uuidSize short ≤ data.length) :
    getUuid128 short data i = .ok (uuid128At short data i) := by
  cases short with
  | true =>
    have hlen : ((data.drop i).take 2).length = 2 := by
      rw [List.length_take, List.length_drop]
      have : i + 2 ≤ data.length := h
      omega
    rw [getUuid128, if_pos rfl, readBytes_ok (n := 2) h, uuid128At, uuidSize, if_pos rfl, getUuidLe,
      if_pos hlen]
    rfl
  | false =>
    have h16 : i + 16 ≤ data.length := h
    have hlen : ((data.drop i).take 16).length = 16 := by
      rw [List.length_take, List.length_drop]
      omega
    rw [getUuid128, if_neg (by decide), dif_pos h16, uuid128At, uuidSize, if_neg (by decide), getUuidLe,
      if_neg (by omega), dif_pos hlen]
    rfl

theorem getUuid128_fault (h : ¬i + uuidSize short ≤ data.length) :
    getUuid128 short data i = .error (.read data.length) := by
  cases short with
  | true =>
    rw [getUuid128, if_pos rfl, readBytes_fault (n := 2) h]
    rfl
  | false =>
    have h16 : ¬i + 16 ≤ data.length := h
    rw [getUuid128, if_neg (by decide), dif_neg h16]

/-- The entry of a service, when all of it is there. -/
def primaryAt (short : Bool) (data : List UInt8) : GattPrimary :=
  ⟨btUuidToString (uuid128At short data 4) (maxLenUuidStr + 1), ⟨getLe16 data, getLe16 (data.drop 2)⟩⟩

theorem primaryOf_ok (h : 4 + uuidSize short ≤ data.length) :
    primaryOf short data = .ok (primaryAt short data) := by
  rw [primaryOf, getUuid128_ok h]
  rfl

/-- The entry of a characteristic declaration, when all of it is there. -/
def charAt (wanted : Option BtUuid) (short : Bool) (value : List UInt8) : BitVec 16 × Option GattChar :=
  let uuid128 := uuid128At short value 5
  (getLe16 value, if skipped wanted uuid128 then none else
    some ⟨btUuidToString uuid128 (maxLenUuidStr + 1), getLe16 value, (value.drop 2).headD 0,
      getLe16 (value.drop 3)⟩)

theorem getLe16_take (h : 2 ≤ n) (data : List UInt8) : getLe16 (data.take n) = getLe16 data := by
  rw [getLe16, getLe16, List.take_take, Nat.min_eq_left h]

theorem charOf_ok (h : 5 + uuidSize short ≤ value.length) :
    charOf wanted short value = .ok (charAt wanted short value) := by
  have hsize : 2 ≤ uuidSize short := by
    rw [uuidSize]
    split <;> omega
  have hhead : (List.take 1 (List.drop 2 value)).headD 0 = (value.drop 2).headD 0 := by
    cases value.drop 2 <;> rfl
  rw [charOf, readBytes_ok (by omega), getUuid128_ok h, readBytes_ok (by omega), readBytes_ok (by omega)]
  simp only [bind, Except.bind, pure, Except.pure, List.drop_zero, getLe16_take (Nat.le_refl 2), hhead,
    charAt]
  split <;> rfl

theorem decReadByType_size {list : AttDataList} (h : decReadByTypeResp p = some list) :
    3 ≤ list.len := by
  simp only [decReadByTypeResp, decList] at h
  split at h
  · cases h
  · split at h
    · cases h
    · split at h
      · cases h
      · split at h
        · cases h
        · rename_i hsize
          split at h
          · cases h
          · obtain rfl := Option.some.inj h
            exact Nat.le_of_not_lt hsize

theorem charOf_fault (hhandle : 2 ≤ value.length) (h : ¬5 + uuidSize short ≤ value.length) :
    charOf wanted short value = .error (.read value.length) := by
  rw [charOf, readBytes_ok (by omega), getUuid128_fault h]
  rfl

/-! The UUIDs go through their text -/

theorem denoted_long (v : Uint128) :
    denoted (uuidOfText (btUuidToString (.u128 v) (maxLenUuidStr + 1))) = denoted (.uuid128 v) := by
  have htext : btUuidToString (.u128 v) (maxLenUuidStr + 1) = longText (fieldsOf v) :=
    congrArg Prod.snd (toString_uuid128 (by decide))
  rw [uuidOfText, htext]
  by_cases h : InBase (fieldsOf v)
  · obtain ⟨x, rfl⟩ := inBase_uuid.mp h
    rw [parse_base]
    exact (denoted_base x).symm
  · rw [parse_long h]

/-- A UUID and its long form have the same text. -/
theorem toString_expanded (uuid : BtUuid) :
    btUuidToString (btUuidToUuid128 .unspec uuid) (maxLenUuidStr + 1) =
      btUuidToString uuid (maxLenUuidStr + 1) := by cases uuid <;> rfl

/-- The UUID that the library reads from the text denotes the number that the peer's does. -/
theorem denoted_text {uuid : BtUuid} (h : uuid ≠ .unspec) :
    denoted (uuidOfText (btUuidToString uuid (maxLenUuidStr + 1))) = denoted (btUuidToUuid uuid) := by
  cases uuid with
  | unspec => exact absurd rfl h
  | u128 v => exact denoted_long v
  | u16 x =>
    obtain ⟨v, hv, hd⟩ := btExpanded16 .unspec x
    have htext : btUuidToString (.u16 x) (maxLenUuidStr + 1) = btUuidToString (.u128 v) (maxLenUuidStr + 1) := by
      rw [btUuidToString, hv]
      rfl
    rw [htext, denoted_long]
    exact hd
  | u32 y =>
    obtain ⟨v, hv, hd⟩ := btExpanded32 .unspec y
    have htext : btUuidToString (.u32 y) (maxLenUuidStr + 1) = btUuidToString (.u128 v) (maxLenUuidStr + 1) := by
      rw [btUuidToString, hv]
      rfl
    rw [htext, denoted_long]
    exact hd

end

end Gattlib.GattDiscovery
