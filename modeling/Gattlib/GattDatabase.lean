import Gattlib.AttPdus
import Gattlib.Library.Transition

namespace Gattlib.GattDatabase

open Uuids AttPdus Library.Buffers Library.Transition

/-- `struct gatt_db_attribute`: the first `valueLen` of the allocated bytes are its value, unless
a callback of the owner stands in for it. -/
structure GattDbAttribute where
  handle : BitVec 16
  uuid : BtUuid
  permissions : BitVec 32
  value : List UInt8
  valueLen : BitVec 16
  readFunc : Bool
  writeFunc : Bool
  allocated : valueLen.toNat ≤ value.length
  deriving DecidableEq

/-- `struct gatt_db_service`: `attributes` of C are the declaration and the `others`, each of which
stays NULL until it is added. -/
structure GattDbService where
  active : Bool
  decl : GattDbAttribute
  others : List (Option GattDbAttribute)
  fits : decl.handle.toNat + others.length < 65536
  deriving DecidableEq

structure GattDb where
  nextHandle : BitVec 16
  services : List GattDbService
  deriving DecidableEq

def primaryServiceUuid : BtUuid := .u16 0x2800
def secondaryServiceUuid : BtUuid := .u16 0x2801
def includedServiceUuid : BtUuid := .u16 0x2802
def characteristicUuid : BtUuid := .u16 0x2803
def extDescUuid : BtUuid := .u16 0x2900

/-- `bt_uuid_cmp` returns 0. -/
def btUuidSame (uuid1 uuid2 : BtUuid) : Bool :=
  btUuidToUuid128 .unspec uuid1 == btUuidToUuid128 .unspec uuid2

/-- `uuid_to_le`: a UUID of 32 bits is written in its long form. -/
def uuidToLe : BtUuid → List UInt8
  | .u16 value => putLe16 value
  | uuid =>
    match btUuidToUuid128 .unspec uuid with
    | .u128 value => value.data.reverse
    | _ => []

def newAttribute (handle : BitVec 16) (type : BtUuid) (val : List UInt8) : GattDbAttribute where
  handle := handle
  uuid := type
  permissions := 0
  value := val
  valueLen := BitVec.ofNat 16 val.length
  readFunc := false
  writeFunc := false
  allocated := by
    rw [BitVec.toNat_ofNat]
    exact Nat.mod_le _ _

namespace GattDbService

def numHandles (s : GattDbService) : ℕ := s.others.length + 1

def attributes (s : GattDbService) : List (Option GattDbAttribute) := some s.decl :: s.others

/-- `gatt_db_service_get_handles` -/
def startHandle (s : GattDbService) : BitVec 16 := s.decl.handle

def endHandle (s : GattDbService) : BitVec 16 :=
  s.decl.handle + BitVec.ofNat 16 s.numHandles - 1

end GattDbService

/-! Inserting and removing services -/

def gattDbNew : GattDb := ⟨1, []⟩

/-- What `find_insert_loc` finds: a service that the range begins or ends in, or the number of
services to go in behind. -/
inductive InsertLoc
  | occupied (i : ℕ)
  | after (i : ℕ)

def findInsertLoc (start end_ : BitVec 16) : ℕ → List GattDbService → InsertLoc
  | i, [] => .after i
  | i, s :: services =>
    if s.startHandle ≤ start ∧ start ≤ s.endHandle then .occupied i
    else if s.startHandle ≤ end_ ∧ end_ ≤ s.endHandle then .occupied i
    else if end_ < s.startHandle then .after i
    else findInsertLoc start end_ (i + 1) services

def declUuid (primary : Bool) : BtUuid := if primary then primaryServiceUuid else secondaryServiceUuid

/-- `gatt_db_attribute_get_service_uuid` of the service's declaration -/
def serviceUuid (s : GattDbService) : Option BtUuid :=
  getUuidLe (s.decl.value.take s.decl.valueLen.toNat)

/-- The service is one that the same call has made before. -/
def serviceMatches (s : GattDbService) (handle : BitVec 16) (uuid : BtUuid) (primary : Bool)
    (numHandles : BitVec 16) : Bool :=
  btUuidSame s.decl.uuid (declUuid primary) &&
    (serviceUuid s).any (btUuidSame · uuid) &&
    s.numHandles == numHandles.toNat && s.startHandle == handle

/-- `gatt_db_service_create`, and the fields that `gatt_db_insert_service` sets -/
def gattDbServiceCreate (uuid : BtUuid) (handle : BitVec 16) (primary : Bool) (numHandles : BitVec 16)
    (h : handle.toNat + (numHandles.toNat - 1) < 65536) : GattDbService where
  active := false
  decl := newAttribute handle (declUuid primary) (uuidToLe uuid)
  others := List.replicate (numHandles.toNat - 1) none
  fits := by
    rw [List.length_replicate]
    exact h

/-- The position of the service is the attribute that is returned. -/
def gattDbInsertService (db : GattDb) (handle : BitVec 16) (uuid : BtUuid) (primary : Bool)
    (numHandles : BitVec 16) : GattDb × Option ℕ :=
  if handle < 1 then (db, none)
  else if h : numHandles < 1 ∨ handle.toNat + numHandles.toNat - 1 > 65535 then (db, none)
  else
    match findInsertLoc handle (handle + numHandles - 1) 0 db.services with
    | .occupied i =>
      (db, if db.services[i]?.any (serviceMatches · handle uuid primary numHandles) then some i else none)
    | .after i =>
      let service := gattDbServiceCreate uuid handle primary numHandles (by
        rw [not_or] at h
        have hpos : ¬numHandles.toNat < 1 := h.1
        omega)
      ({ services := db.services.insertIdx i service
         nextHandle := BitVec.ofNat 16
           (max (handle.toNat + numHandles.toNat) db.nextHandle.toNat) }, some i)

def gattDbAddService (db : GattDb) (uuid : BtUuid) (primary : Bool) (numHandles : BitVec 16) :
    GattDb × Option ℕ :=
  gattDbInsertService db db.nextHandle uuid primary numHandles

def gattDbRemoveService (db : GattDb) (i : ℕ) : GattDb :=
  { db with services := db.services.eraseIdx i }

def gattDbClear (_db : GattDb) : GattDb := { services := [], nextHandle := 0 }

def matchRange (start end_ : BitVec 16) (s : GattDbService) : Bool :=
  s.startHandle ≤ end_ && s.endHandle ≥ start

def gattDbClearRange (db : GattDb) (start end_ : BitVec 16) : GattDb :=
  if start > end_ then db
  else { db with services := db.services.filter (fun s => !matchRange start end_ s) }

/-! Filling a service -/

/-- The first attribute that is not there yet, but for the last `endOffset`. -/
def getAttributeIndex (s : GattDbService) (endOffset : ℕ) : ℕ :=
  let i := ((s.attributes.take (s.numHandles - endOffset)).takeWhile Option.isSome).length
  if i = s.numHandles - endOffset then 0 else i

def getHandleAtIndex (s : GattDbService) (i : ℕ) : BitVec 16 :=
  ((s.attributes[i]?).join.map GattDbAttribute.handle).getD 0

/-- `attributes[i] = a` -/
def setAttribute (s : GattDbService) (i : ℕ) (a : GattDbAttribute) : GattDbService :=
  { s with
    others := s.others.set (i - 1) (some a)
    fits := by
      rw [List.length_set]
      exact s.fits }

/-- `set_attribute_data` -/
def setAttributeData (a : GattDbAttribute) (readFunc writeFunc : Bool) (permissions : BitVec 32) :
    GattDbAttribute :=
  { a with readFunc := readFunc, writeFunc := writeFunc, permissions := permissions }

/-- The handle 0 asks for the next one. -/
def serviceInsertCharacteristic (s : GattDbService) (handle : BitVec 16) (uuid : BtUuid)
    (permissions : BitVec 32) (properties : UInt8) (readFunc writeFunc : Bool) : Option GattDbService :=
  if handle ≠ 0 ∧ handle ≤ s.startHandle then none
  else if handle = 0xFFFF then none
  else
    let i := getAttributeIndex s 1
    if i = 0 then none
    else
      let handle := if handle = 0 then getHandleAtIndex s (i - 1) + 2 else handle
      let value := properties :: putLe16 handle ++ uuidToLe uuid
      let s := setAttribute s i (newAttribute (handle - 1) characteristicUuid value)
      some (setAttribute s (i + 1)
        (setAttributeData (newAttribute handle uuid []) readFunc writeFunc permissions))

def serviceInsertDescriptor (s : GattDbService) (handle : BitVec 16) (uuid : BtUuid)
    (permissions : BitVec 32) (readFunc writeFunc : Bool) : Option GattDbService :=
  let i := getAttributeIndex s 0
  if i = 0 then none
  else if handle ≠ 0 ∧ handle ≤ s.startHandle then none
  else
    let handle := if handle = 0 then getHandleAtIndex s (i - 1) + 1 else handle
    some (setAttribute s i
      (setAttributeData (newAttribute handle uuid []) readFunc writeFunc permissions))

/-- `gatt_db_service_add_included` and `attribute_update` -/
def serviceAddIncluded (s included : GattDbService) : Option GattDbService :=
  let value := putLe16 included.startHandle ++ putLe16 included.endHandle ++
    if included.decl.valueLen = 2 then included.decl.value.take 2 else []
  let index := getAttributeIndex s 0
  if index = 0 then none
  else some (setAttribute s index
    (newAttribute (getHandleAtIndex s (index - 1) + 1) includedServiceUuid value))

/-- `gatt_db_service_set_active`, without the callbacks that are told -/
def setActive (s : GattDbService) (active : Bool) : GattDbService := { s with active := active }

/-! What the server looks for -/

def findServiceForHandle (handle : BitVec 16) (s : GattDbService) : Bool :=
  s.startHandle ≤ handle && handle ≤ s.endHandle

/-- The position of the service and that of the attribute in it. -/
def gattDbGetAttribute (db : GattDb) (handle : BitVec 16) : Option GattDbAttribute :=
  if handle = 0 then none
  else (db.services.find? (findServiceForHandle handle)).bind fun s =>
    (s.attributes.find? (fun a => a.any (·.handle == handle))).join

/-- The services that `gatt_db_read_by_group_type` queues: it stops at the first one whose
declaration has another size than the first. -/
def readByGroupType (start end_ : BitVec 16) (type : BtUuid) :
    BitVec 16 → List GattDbService → List GattDbService
  | _, [] => []
  | uuidSize, s :: services =>
    if !s.active then readByGroupType start end_ type uuidSize services
    else if !btUuidSame type s.decl.uuid then readByGroupType start end_ type uuidSize services
    else if s.endHandle < start ∨ s.startHandle > end_ then
      readByGroupType start end_ type uuidSize services
    else if s.startHandle < start ∨ s.startHandle > end_ then
      readByGroupType start end_ type uuidSize services
    else if uuidSize = 0 then s :: readByGroupType start end_ type s.decl.valueLen services
    else if uuidSize ≠ s.decl.valueLen then []
    else s :: readByGroupType start end_ type uuidSize services

def gattDbReadByGroupType (db : GattDb) (start end_ : BitVec 16) (type : BtUuid) :
    List GattDbService :=
  readByGroupType start end_ type 0 db.services

/-- The loop of `read_by_type` and of `find_information` over the attributes of a service. -/
def attributesIn (start end_ : BitVec 16) (keep : GattDbAttribute → Bool) :
    List (Option GattDbAttribute) → List GattDbAttribute
  | [] => []
  | none :: rest => attributesIn start end_ keep rest
  | some a :: rest =>
    if a.handle < start then attributesIn start end_ keep rest
    else if a.handle > end_ then []
    else if keep a then a :: attributesIn start end_ keep rest
    else attributesIn start end_ keep rest

def readByType (start end_ : BitVec 16) (type : BtUuid) (s : GattDbService) : List GattDbAttribute :=
  if !s.active then []
  else attributesIn start end_ (fun a => btUuidSame type a.uuid) s.attributes

def gattDbReadByType (db : GattDb) (start end_ : BitVec 16) (type : BtUuid) : List GattDbAttribute :=
  db.services.flatMap (readByType start end_ type)

def findInformation (start end_ : BitVec 16) (s : GattDbService) : List GattDbAttribute :=
  if !s.active then []
  else if s.decl.handle.toNat + s.numHandles - 1 < start.toNat then []
  else attributesIn start end_ (fun _ => true) s.attributes

def gattDbFindInformation (db : GattDb) (start end_ : BitVec 16) : List GattDbAttribute :=
  db.services.flatMap (findInformation start end_)

/-- `memcmp` of a value and the bytes that are looked for returns 0. It reads as many bytes of the value
as are looked for, wherever the first one that differs is. -/
def startsWith (value sought : List UInt8) : Except Fault Bool :=
  if value.length < sought.length then .error (.read value.length)
  else .ok (value.take sought.length == sought)

/-- `find_by_type` goes through all attributes, whoever may read them. -/
def findByType (start end_ : BitVec 16) (type : BtUuid) (value : List UInt8) (s : GattDbService) :
    Except Fault (List GattDbAttribute) :=
  if !s.active then .ok []
  else ((s.attributes.filterMap id).filter fun a =>
    !(a.handle < start || a.handle > end_) && btUuidSame type a.uuid).filterM fun a =>
      startsWith a.value value

/-- The services of the attributes that are found. -/
def gattDbFindByTypeValue (db : GattDb) (start end_ : BitVec 16) (type : BtUuid) (value : List UInt8) :
    Except Fault (List GattDbService) :=
  (db.services.mapM fun s => (findByType start end_ type value s).map (·.map fun _ => s)).map List.flatten

/-! The value of an attribute -/

/-- What `gatt_db_attribute_read` does: it asks the owner's callback, or answers by itself. -/
inductive ReadAnswer
  | asked
  | failed (ecode : UInt8)
  | value (data : List UInt8)
  deriving DecidableEq


def gattDbAttributeRead (a : GattDbAttribute) (offset : BitVec 16) : ReadAnswer :=
  if a.readFunc then .asked
  else if offset > a.valueLen then .failed btAttErrorInvalidOffset
  else .value ((a.value.take a.valueLen.toNat).drop offset.toNat)

/-- `realloc` to `offset` bytes and those of the new value. What it adds in front of them is
`junk`, except in the first allocation. -/
def grownFront (junk : ℕ → UInt8) (a : GattDbAttribute) (offset : ℕ) : List UInt8 :=
  (List.range offset).map fun i => if a.valueLen = 0 then 0 else (a.value[i]?).getD (junk i)

/-- `gatt_db_attribute_write` to a value that is stored in the database. -/
def storeValue (junk : ℕ → UInt8) (a : GattDbAttribute) (offset : BitVec 16) (data : List UInt8) :
    GattDbAttribute :=
  if data = [] then a
  else if offset ≥ a.valueLen ∨ data.length > a.valueLen.toNat - offset.toNat then
    { a with
      value := grownFront junk a offset.toNat ++ data
      valueLen := BitVec.ofNat 16 (data.length + offset.toNat)
      allocated := by
        simp only [grownFront, List.length_append, List.length_map, List.length_range,
          BitVec.toNat_ofNat]
        omega }
  else
    { a with
      value := a.value.take offset.toNat ++ data ++ a.value.drop (offset.toNat + data.length)
      allocated := by
        have := a.allocated
        simp only [List.length_append, List.length_take, List.length_drop]
        omega }

/-- `gatt_db_attribute_reset`: a buffer whose length is 0 is kept. -/
def gattDbAttributeReset (a : GattDbAttribute) : GattDbAttribute :=
  if a.valueLen = 0 then a
  else
    { a with
      value := []
      valueLen := 0
      allocated := Nat.le_refl 0 }

theorem gattDbAttributeReset_handle (a : GattDbAttribute) : (gattDbAttributeReset a).handle = a.handle := by
  rw [gattDbAttributeReset]
  split <;> rfl

/-- A change to the attribute at the position `k` of a service, which keeps its handle. -/
def modifyAttribute (s : GattDbService) (k : ℕ) (f : GattDbAttribute → GattDbAttribute)
    (hf : ∀ a, (f a).handle = a.handle) : GattDbService :=
  match k with
  | 0 =>
    { s with
      decl := f s.decl
      fits := by
        rw [hf]
        exact s.fits }
  | k + 1 =>
    { s with
      others := s.others.modify k (Option.map f)
      fits := by
        rw [List.length_modify]
        exact s.fits }

theorem storeValue_handle (junk : ℕ → UInt8) (offset : BitVec 16) (data : List UInt8)
    (a : GattDbAttribute) : (storeValue junk a offset data).handle = a.handle := by
  rw [storeValue]
  split
  · rfl
  · split <;> rfl

/-! Histories of a database. A service is named by its position, an attribute by its position in
the service. -/

inductive DbEvent
  | insertService (handle : BitVec 16) (uuid : BtUuid) (primary : Bool) (numHandles : BitVec 16)
  | addService (uuid : BtUuid) (primary : Bool) (numHandles : BitVec 16)
  | removeService (i : ℕ)
  | clear
  | clearRange (start end_ : BitVec 16)
  | setActive (i : ℕ) (active : Bool)
  | insertCharacteristic (i : ℕ) (handle : BitVec 16) (uuid : BtUuid) (permissions : BitVec 32)
      (properties : UInt8) (readFunc writeFunc : Bool)
  | insertDescriptor (i : ℕ) (handle : BitVec 16) (uuid : BtUuid) (permissions : BitVec 32)
      (readFunc writeFunc : Bool)
  | addIncluded (i included : ℕ)
  | store (i k : ℕ) (junk : ℕ → UInt8) (offset : BitVec 16) (data : List UInt8)
  | reset (i k : ℕ)

/-- A change to the service at a position, if there is one. -/
def onService (db : GattDb) (i : ℕ) (f : GattDbService → GattDbService) : Option GattDb :=
  (db.services[i]?).map fun s => { db with services := db.services.set i (f s) }

/-- A call with a pointer to a service that is not in the database has no next state. One that
fails leaves the database as it is. -/
def dbStep (db : GattDb) : DbEvent → Option GattDb
  | .insertService handle uuid primary numHandles =>
    some (gattDbInsertService db handle uuid primary numHandles).1
  | .addService uuid primary numHandles => some (gattDbAddService db uuid primary numHandles).1
  | .removeService i => (db.services[i]?).map fun _ => gattDbRemoveService db i
  | .clear => some (gattDbClear db)
  | .clearRange start end_ => some (gattDbClearRange db start end_)
  | .setActive i active => onService db i (setActive · active)
  | .insertCharacteristic i handle uuid permissions properties readFunc writeFunc =>
    onService db i fun s =>
      (serviceInsertCharacteristic s handle uuid permissions properties readFunc writeFunc).getD s
  | .insertDescriptor i handle uuid permissions readFunc writeFunc =>
    onService db i fun s =>
      (serviceInsertDescriptor s handle uuid permissions readFunc writeFunc).getD s
  | .addIncluded i included =>
    (db.services[included]?).bind fun o => onService db i fun s => (serviceAddIncluded s o).getD s
  | .store i k junk offset data =>
    onService db i fun s => modifyAttribute s k (storeValue junk · offset data)
      (storeValue_handle junk offset data)
  | .reset i k => onService db i fun s => modifyAttribute s k gattDbAttributeReset gattDbAttributeReset_handle

end Gattlib.GattDatabase
