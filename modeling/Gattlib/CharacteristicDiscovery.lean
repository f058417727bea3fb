import Gattlib.ObjectPaths
import Mathlib.Data.List.Nodup
import Mathlib.Data.List.Perm.Subperm

namespace Gattlib.CharacteristicDiscovery

open Library.Memory Library.Text Gattlib.Strings Gattlib.State Gattlib.Registry Gattlib.Connection
open Gattlib.Uuids Gattlib.UuidText Gattlib.Notifications Gattlib.BluezObjects
open Gattlib.Events Gattlib.PrimaryServices Gattlib.ObjectPaths

/-- What a proxy of `org.bluez.GattCharacteristic1` reads. A property that is not set is `none`. -/
structure CharacteristicProxy where
  uuid : Option CString
  service : Option CString
  flags : Option (List CString)
  deriving DecidableEq

/-- A `GDBusObject` of BlueZ, with all that is read of its characteristic. -/
structure GattObject where
  path : CString
  gattService1 : Interface GattService1
  gattCharacteristic1 : Interface CharacteristicProxy
  battery1 : Interface Unit
  deriving DecidableEq

structure DiscoveryBackend where
  deviceObjectPath : CString
  dbusObjects : List GattObject

/-- `gattlib_characteristic_t` -/
structure GattlibCharacteristic where
  handle : BitVec 16
  properties : BitVec 8
  valueHandle : BitVec 16
  uuid : Uuid

def gattlibCharacteristicBroadcast : BitVec 8 := 0x01
def gattlibCharacteristicRead : BitVec 8 := 0x02
def gattlibCharacteristicWriteWithoutResp : BitVec 8 := 0x04
def gattlibCharacteristicWrite : BitVec 8 := 0x08
def gattlibCharacteristicNotify : BitVec 8 := 0x10
def gattlibCharacteristicIndicate : BitVec 8 := 0x20

/-- The property a flag stands for, if it is one of those that are looked for. -/
def flagProperty (flag : CString) : BitVec 8 :=
  if flag.bytes = chars "broadcast" then gattlibCharacteristicBroadcast
  else if flag.bytes = chars "read" then gattlibCharacteristicRead
  else if flag.bytes = chars "write" then gattlibCharacteristicWrite
  else if flag.bytes = chars "write-without-response" then gattlibCharacteristicWriteWithoutResp
  else if flag.bytes = chars "notify" then gattlibCharacteristicNotify
  else if flag.bytes = chars "indicate" then gattlibCharacteristicIndicate
  else 0

/-- The array has been zeroed, and a text that is not a UUID leaves its entry so. -/
def entryUuid (text : List UInt8) : Uuid :=
  match gattlibStringToUuid text 37 with
  | .error _ => .other 0
  | .ok uuid => uuid

def characteristicEntry (handle : BitVec 32) (flags : List CString) (uuid : CString) :
    GattlibCharacteristic where
  handle := handle.setWidth 16
  valueHandle := handle.setWidth 16
  properties := flags.foldl (fun properties flag => properties ||| flagProperty flag) 0
  uuid := entryUuid uuid.bytes

/-- The characteristic that is made up for a battery. -/
def batteryEntry : GattlibCharacteristic where
  handle := 0
  valueHandle := 0
  properties := gattlibCharacteristicRead ||| gattlibCharacteristicNotify
  uuid := entryUuid (chars "00002a19-0000-1000-8000-00805f9b34fb")

/-- The array: what has been written, with the object it is from, and how often there was
not enough space. `count` is the number of the writes. -/
structure Filled where
  writes : List (GattObject × GattlibCharacteristic) := []
  skipped : Nat := 0

/-- A characteristic in the range. A property that is not set is read through NULL. -/
def addCharacteristic (countMax : Nat) (object : GattObject) (characteristic : CharacteristicProxy)
    (handle : BitVec 32) (s : Filled) : Option Filled :=
  if countMax ≤ s.writes.length then some { s with skipped := s.skipped + 1 }
  else
    match characteristic.flags, characteristic.uuid with
    | some flags, some uuid =>
      some { s with writes := s.writes ++ [(object, characteristicEntry handle flags uuid)] }
    | _, _ => none

def addBattery (countMax : Nat) (object : GattObject) (s : Filled) : Filled :=
  if countMax ≤ s.writes.length then { s with skipped := s.skipped + 1 }
  else { s with writes := s.writes ++ [(object, batteryEntry)] }

/-- The loop over the characteristics of a service. `unset` is what the variable `handle`
holds before it is read, and `none` the use of a NULL property. -/
def addCharacteristicsFromService (unset : GattObject → BitVec 32) (start last : BitVec 32)
    (countMax : Nat) (servicePath : CString) : List GattObject → Filled → Option Filled
  | [], s => some s
  | object :: objects, s =>
    match object.gattCharacteristic1 with
    | .absent | .closed =>
      addCharacteristicsFromService unset start last countMax servicePath objects s
    | .opened characteristic =>
      match characteristic.service with
      | none => addCharacteristicsFromService unset start last countMax servicePath objects s
      | some service =>
        if service ≠ servicePath then
          addCharacteristicsFromService unset start last countMax servicePath objects s
        else
          let handle := pathHandle object.path (unset object)
          if handle < start ∨ last < handle then
            addCharacteristicsFromService unset start last countMax servicePath objects s
          else
            (addCharacteristic countMax object characteristic handle s).bind
              (addCharacteristicsFromService unset start last countMax servicePath objects)

/-- The loop over the services and the batteries. -/
def discoverLoop (b : DiscoveryBackend) (unset : GattObject → BitVec 32) (start last : BitVec 32)
    (countMax : Nat) : List GattObject → Filled → Option Filled
  | [], s => some s
  | object :: objects, s =>
    match object.gattService1 with
    | .absent =>
      discoverLoop b unset start last countMax objects
        (if hasInterface object.battery1 then addBattery countMax object s else s)
    | .closed => discoverLoop b unset start last countMax objects s
    | .opened service =>
      match service.device with
      | none => none
      | some device =>
        if device ≠ b.deviceObjectPath then discoverLoop b unset start last countMax objects s
        else
          (addCharacteristicsFromService unset start last countMax object.path b.dbusObjects
            s).bind (discoverLoop b unset start last countMax objects)

/-- The objects that the array has space for. -/
def counted (object : GattObject) : Bool :=
  hasInterface object.gattCharacteristic1 || hasInterface object.battery1

/-- What D-Bus and the allocator answer. -/
structure RangeOutcome where
  manager : Option Nat
  error : Option GError
  calloc : Bool

/-- A return of the function: its code, `count_max`, the array, and what it has stored. -/
structure RangeDiscovered where
  ret : Ret
  countMax : Nat := 0
  filled : Filled := {}
  stored : Option (List GattlibCharacteristic) := none

def gattlibDiscoverCharRange (w : World) (connection : Nat) (b : DiscoveryBackend)
    (unset : GattObject → BitVec 32) (o : RangeOutcome) (start last : BitVec 16) :
    Option RangeDiscovered × World :=
  if gattlibConnectionIsValid w connection = false then
    (some { ret := gattlibDeviceDisconnected }, w)
  else
    match w.devices.cell connection with
    | none => (some { ret := gattlibDeviceDisconnected }, w)
    | some device =>
      match getDeviceManagerFromAdapter w device.adapter o.manager with
      | (none, w) => (some { ret := proxyErrorCode o.error }, w)
      | (some _, w) =>
        if o.calloc then
          let countMax := b.dbusObjects.countP counted
          ((discoverLoop b unset (start.setWidth 32) (last.setWidth 32) countMax b.dbusObjects
            {}).map (fun s =>
              { ret := gattlibSuccess
                countMax := countMax
                filled := s
                stored := some (s.writes.map Prod.snd) }), w)
        else (some { ret := gattlibOutOfMemory }, w)

def gattlibDiscoverChar (w : World) (connection : Nat) (b : DiscoveryBackend)
    (unset : GattObject → BitVec 32) (o : RangeOutcome) : Option RangeDiscovered × World :=
  gattlibDiscoverCharRange w connection b unset o 0x00 0xFF

/-- The range that `gattlib_discover_char` of the backend without D-Bus asks for. -/
def bluezDiscoverCharRange : BitVec 16 × BitVec 16 := (0x0001, 0xffff)

/-- An opened proxy reads the properties that its interface declares. -/
def Readable (object : GattObject) : Prop :=
  (∀ service ∈ proxyOf object.gattService1, service.device.isSome = true) ∧
    ∀ c ∈ proxyOf object.gattCharacteristic1, c.uuid.isSome = true ∧ c.service.isSome = true ∧
      c.flags.isSome = true

/-- Objects as BlueZ exports them: their paths are distinct, those of characteristics end with
a handle, and a battery is not a characteristic. -/
structure Exported (objects : List GattObject) : Prop where
  distinct : (objects.map GattObject.path).Nodup
  handles : ∀ object ∈ objects, hasInterface object.gattCharacteristic1 = true →
    (handleOf object.path).isSome = true
  separate : ∀ object ∈ objects, hasInterface object.gattCharacteristic1 = true →
    hasInterface object.battery1 = false
  readable : ∀ object ∈ objects, Readable object

/-- The path is that of a service of the device. -/
def ownService (b : DiscoveryBackend) (object : GattObject) : Bool :=
  (proxyOf object.gattService1).any (fun service => service.device == some b.deviceObjectPath)

def belongsTo (service object : GattObject) : Bool :=
  (proxyOf object.gattCharacteristic1).any (fun c => c.service == some service.path)

/-- A characteristic of a service of the device. -/
def own (b : DiscoveryBackend) (object : GattObject) : Bool :=
  b.dbusObjects.any (fun service => ownService b service && belongsTo service object)

def inRange (start last : BitVec 16) (object : GattObject) : Bool :=
  (handleOf object.path).any (fun n => start.toNat ≤ n && n ≤ last.toNat)

/-- Discovery is exact: apart from the batteries it gives the characteristics of the device in
the range, each once, and there is space for all of them. -/
structure Exact (b : DiscoveryBackend) (start last : BitVec 16) (r : RangeDiscovered) : Prop where
  success : r.ret = gattlibSuccess
  stored : r.stored = some (r.filled.writes.map Prod.snd)
  characteristics : ((r.filled.writes.map Prod.fst).filter
      (fun object => hasInterface object.gattCharacteristic1)).Perm
    (b.dbusObjects.filter (fun object => own b object && inRange start last object))
  once : (r.filled.writes.map Prod.fst).Nodup
  handles : ∀ write ∈ r.filled.writes, hasInterface write.1.gattCharacteristic1 = true →
    handleOf write.1.path = some write.2.handle.toNat ∧ write.2.valueHandle = write.2.handle
  synthetic : ∀ write ∈ r.filled.writes, hasInterface write.1.gattCharacteristic1 = false →
    write.2 = batteryEntry
  bounded : r.filled.writes.length ≤ r.countMax
  unskipped : r.filled.skipped = 0

def entryOf (unset : GattObject → BitVec 32) (object : GattObject) : GattlibCharacteristic :=
  match proxyOf object.gattCharacteristic1 with
  | none => batteryEntry
  | some c => characteristicEntry (pathHandle object.path (unset object)) (c.flags.getD [])
      (c.uuid.getD object.path)

section

variable {b : DiscoveryBackend} {unset : GattObject → BitVec 32} {start last : BitVec 16}
variable {objects : List GattObject} {object service : GattObject} {s : Filled} {countMax n : Nat}

theorem inRange_iff (h : handleOf object.path = some n) (handle : BitVec 32) :
    inRange start last object = true ↔ ¬(pathHandle object.path handle < start.setWidth 32 ∨
      last.setWidth 32 < pathHandle object.path handle) := by
  have hlt := handleOf_lt h
  have hs := start.isLt
  have hl := last.isLt
  rw [pathHandle_eq h, inRange, h, Option.any_some, Bool.and_eq_true, decide_eq_true_iff,
    decide_eq_true_iff, BitVec.lt_def, BitVec.lt_def, BitVec.toNat_ofNat, BitVec.toNat_setWidth,
    BitVec.toNat_setWidth]
  omega

theorem opened_interface {α : Type} {i : Interface α} {proxy : α} (h : i = .opened proxy) :
    hasInterface i = true := by
  rw [h]
  rfl

/-- What the loop over the characteristics adds for a service. -/
def added (unset : GattObject → BitVec 32) (start last : BitVec 16) (service : GattObject)
    (objects : List GattObject) : List (GattObject × GattlibCharacteristic) :=
  (objects.filter (fun object => belongsTo service object && inRange start last object)).map
    (fun object => (object, entryOf unset object))

theorem added_other (h : (belongsTo service object && inRange start last object) = false) :
    added unset start last service (object :: objects) = added unset start last service objects := by
  rw [added, List.filter_cons, h]
  rfl

theorem added_own (h : (belongsTo service object && inRange start last object) = true) :
    added unset start last service (object :: objects) =
      (object, entryOf unset object) :: added unset start last service objects := by
  rw [added, List.filter_cons, h]
  rfl

/-- With space for what it adds, the loop over the characteristics adds it. -/
theorem addCharacteristics_adds (hh : ∀ object ∈ objects,
      hasInterface object.gattCharacteristic1 = true → (handleOf object.path).isSome = true)
    (hr : ∀ object ∈ objects, Readable object)
    (hspace : s.writes.length + (added unset start last service objects).length ≤ countMax) :
    addCharacteristicsFromService unset (start.setWidth 32) (last.setWidth 32) countMax
      service.path objects s =
      some { s with writes := s.writes ++ added unset start last service objects } := by
  induction objects generalizing s with
  | nil => rw [addCharacteristicsFromService, added, List.filter_nil, List.map_nil, List.append_nil]
  | cons object objects ih =>
    have ih := fun {s : Filled} => ih (s := s) (fun x hx => hh x (List.mem_cons_of_mem object hx))
      (fun x hx => hr x (List.mem_cons_of_mem object hx))
    rw [addCharacteristicsFromService]
    cases hc : object.gattCharacteristic1 with
    | absent | closed =>
      have hother : belongsTo service object = false := by rw [belongsTo, hc]; rfl
      rw [added_other (by rw [hother, Bool.false_and])] at hspace ⊢
      exact ih hspace
    | opened c =>
      obtain ⟨hu, hservice, hf⟩ := (hr object List.mem_cons_self).2 c (by rw [hc]; rfl)
      obtain ⟨path, hpath⟩ := Option.isSome_iff_exists.mp hservice
      obtain ⟨uuid, huuid⟩ := Option.isSome_iff_exists.mp hu
      obtain ⟨flags, hflags⟩ := Option.isSome_iff_exists.mp hf
      obtain ⟨n, hn⟩ := Option.isSome_iff_exists.mp
        (hh object List.mem_cons_self (opened_interface hc))
      have hbelongs : belongsTo service object = (path == service.path) := by
        rw [belongsTo, hc, proxyOf, Option.any_some, hpath]
        rfl
      dsimp only
      rw [hpath]
      dsimp only
      by_cases hsame : path = service.path
      · rw [beq_iff_eq.mpr hsame] at hbelongs
        rw [if_neg (not_not.mpr hsame)]
        by_cases hin : inRange start last object = true
        · have hentry : entryOf unset object =
              characteristicEntry (pathHandle object.path (unset object)) flags uuid := by
            rw [entryOf, hc, proxyOf]
            dsimp only
            rw [hflags, huuid]
            rfl
          rw [added_own (by rw [hbelongs, hin]; rfl), List.length_cons] at hspace
          rw [if_neg ((inRange_iff hn _).mp hin), added_own (by rw [hbelongs, hin]; rfl),
            addCharacteristic, if_neg (by omega), hflags, huuid]
          dsimp only [Option.bind_some]
          rw [ih (by rw [List.length_append, List.length_singleton]; omega), hentry,
            List.append_assoc, List.singleton_append]
        · have hout := (Bool.not_eq_true _).mp hin
          rw [if_pos (not_not.mp (mt (inRange_iff hn _).mpr hin))]
          rw [added_other (by rw [hout, Bool.and_false])] at hspace ⊢
          exact ih hspace
      · rw [beq_false_of_ne hsame] at hbelongs
        rw [if_pos hsame]
        rw [added_other (by rw [hbelongs, Bool.false_and])] at hspace ⊢
        exact ih hspace

/-- A battery that is not a service as well is given a characteristic. -/
def madeUp (object : GattObject) : Bool :=
  !hasInterface object.gattService1 && hasInterface object.battery1

/-- What the loop over the services adds for an object. -/
def addedFor (b : DiscoveryBackend) (unset : GattObject → BitVec 32) (start last : BitVec 16)
    (object : GattObject) : List (GattObject × GattlibCharacteristic) :=
  if ownService b object then added unset start last object b.dbusObjects
  else if madeUp object then [(object, batteryEntry)]
  else []

theorem addBattery_adds (hspace : s.writes.length + 1 ≤ countMax) :
    addBattery countMax object s = { s with writes := s.writes ++ [(object, batteryEntry)] } := by
  rw [addBattery, if_neg (by omega)]

theorem discoverLoop_adds (unset : GattObject → BitVec 32) (he : Exported b.dbusObjects)
    (hr : ∀ object ∈ objects, Readable object)
    (hspace : s.writes.length + (objects.flatMap (addedFor b unset start last)).length ≤ countMax) :
    discoverLoop b unset (start.setWidth 32) (last.setWidth 32) countMax objects s =
      some { s with writes := s.writes ++ objects.flatMap (addedFor b unset start last) } := by
  induction objects generalizing s with
  | nil => rw [discoverLoop, List.flatMap_nil, List.append_nil]
  | cons object objects ih =>
    have ih := fun {s : Filled} => ih (s := s) (fun x hx => hr x (List.mem_cons_of_mem object hx))
    rw [List.flatMap_cons] at hspace ⊢
    rw [List.length_append] at hspace
    rw [discoverLoop]
    cases hs : object.gattService1 with
    | absent =>
      have hservice : ownService b object = false := by rw [ownService, hs]; rfl
      have hmade : madeUp object = hasInterface object.battery1 := by
        rw [madeUp, hs]
        exact Bool.true_and _
      rw [addedFor, hservice, hmade] at hspace ⊢
      dsimp only
      cases hb : hasInterface object.battery1 with
      | false =>
        rw [hb] at hspace
        exact ih (by simpa using hspace)
      | true =>
        rw [hb, if_neg (by decide), if_pos rfl, List.length_singleton] at hspace
        rw [if_pos rfl, if_neg (by decide), if_pos rfl, addBattery_adds (by omega),
          ih (by rw [List.length_append, List.length_singleton]; omega), List.append_assoc]
    | closed =>
      have hnone : addedFor b unset start last object = [] := by
        rw [addedFor, ownService, madeUp, hs]
        rfl
      rw [hnone] at hspace ⊢
      exact ih (by simpa using hspace)
    | opened service =>
      obtain ⟨device, hdevice⟩ := Option.isSome_iff_exists.mp
        ((hr object List.mem_cons_self).1 service (by rw [hs]; rfl))
      have hservice : ownService b object = (device == b.deviceObjectPath) := by
        rw [ownService, hs, proxyOf, Option.any_some, hdevice]
        rfl
      have hmade : madeUp object = false := by rw [madeUp, hs]; rfl
      rw [addedFor, hservice, hmade] at hspace ⊢
      dsimp only
      rw [hdevice]
      dsimp only
      by_cases hsame : device = b.deviceObjectPath
      · rw [beq_iff_eq.mpr hsame, if_pos rfl] at hspace ⊢
        rw [if_neg (not_not.mpr hsame),
          addCharacteristics_adds he.handles he.readable (by omega), Option.bind_some,
          ih (by rw [List.length_append]; omega), List.append_assoc]
      · rw [beq_false_of_ne hsame] at hspace ⊢
        rw [if_pos hsame]
        exact ih (by simpa using hspace)

/-! What is added, and where it is from -/

theorem mem_added : object ∈ (added unset start last service objects).map Prod.fst ↔
    object ∈ objects ∧ belongsTo service object = true ∧ inRange start last object = true := by
  rw [added, List.map_map]
  simp [List.mem_filter]

theorem belongsTo_interface (h : belongsTo service object = true) :
    hasInterface object.gattCharacteristic1 = true := by
  unfold belongsTo at h
  cases hc : object.gattCharacteristic1 with
  | absent | closed =>
    rw [hc] at h
    cases h
  | opened c => rfl

theorem ownService_interface (h : ownService b service = true) :
    hasInterface service.gattService1 = true := by
  unfold ownService at h
  cases hs : service.gattService1 with
  | absent | closed =>
    rw [hs] at h
    cases h
  | opened s => rfl

theorem belongsTo_path {service' : GattObject} (h : belongsTo service object = true)
    (h' : belongsTo service' object = true) : service.path = service'.path := by
  unfold belongsTo at h h'
  cases hc : proxyOf object.gattCharacteristic1 with
  | none =>
    rw [hc] at h
    cases h
  | some c =>
    rw [hc, Option.any_some, beq_iff_eq] at h h'
    rw [h, Option.some.injEq] at h'
    exact h'

/-- No entry is made up for a characteristic. -/
theorem not_madeUp (he : Exported objects) (ho : object ∈ objects)
    (hc : hasInterface object.gattCharacteristic1 = true) : ¬madeUp object = true := by
  rw [madeUp, he.separate object ho hc, Bool.and_false]
  exact Bool.false_ne_true

/-- An object is added for itself, as a battery, or for the service it belongs to. -/
theorem mem_addedFor : object ∈ (addedFor b unset start last service).map Prod.fst ↔
    (ownService b service = true ∧ object ∈ b.dbusObjects ∧ belongsTo service object = true ∧
      inRange start last object = true) ∨ (madeUp service = true ∧ object = service) := by
  unfold addedFor
  cases hs : ownService b service with
  | true =>
    have hmade : madeUp service = false := by rw [madeUp, ownService_interface hs]; rfl
    rw [if_pos rfl, mem_added, hmade]
    simp
  | false =>
    rw [if_neg (by decide)]
    cases hm : madeUp service with
    | true => simp
    | false => simp

theorem added_nodup (hn : objects.Nodup) :
    ((added unset start last service objects).map Prod.fst).Nodup := by
  rw [added, List.map_map]
  exact (hn.filter _).map_on (fun x _ y _ h => h)

theorem addedFor_nodup (hn : b.dbusObjects.Nodup) :
    ((addedFor b unset start last service).map Prod.fst).Nodup := by
  unfold addedFor
  split
  · exact added_nodup hn
  · split
    · exact List.nodup_singleton _
    · exact List.nodup_nil

theorem exported_nodup (he : Exported objects) : objects.Nodup := he.distinct.of_map

/-- No object is added twice. -/
theorem adds_nodup (he : Exported b.dbusObjects) :
    ((b.dbusObjects.flatMap (addedFor b unset start last)).map Prod.fst).Nodup := by
  rw [List.map_flatMap, List.nodup_flatMap]
  refine ⟨fun object _ => addedFor_nodup (exported_nodup he), ?_⟩
  have hdistinct := List.pairwise_map.mp he.distinct
  refine hdistinct.imp_of_mem (fun {x y} hx hy hne => ?_)
  intro object hox hoy
  obtain ⟨_, ho, hbx, _⟩ | ⟨hmx, rfl⟩ := mem_addedFor.mp hox
  · obtain ⟨_, _, hby, _⟩ | ⟨hmy, rfl⟩ := mem_addedFor.mp hoy
    · exact hne (belongsTo_path hbx hby)
    · exact absurd hmy (not_madeUp he ho (belongsTo_interface hbx))
  · obtain ⟨_, ho, hby, _⟩ | ⟨_, rfl⟩ := mem_addedFor.mp hoy
    · exact absurd hmx (not_madeUp he ho (belongsTo_interface hby))
    · exact hne rfl

theorem mem_adds : object ∈ (b.dbusObjects.flatMap (addedFor b unset start last)).map Prod.fst ↔
    object ∈ b.dbusObjects ∧
      (own b object = true ∧ inRange start last object = true ∨ madeUp object = true) := by
  rw [List.map_flatMap, List.mem_flatMap, own, List.any_eq_true]
  constructor
  · rintro ⟨service, hs, hm⟩
    obtain ⟨hown, ho, hbelongs, hin⟩ | ⟨hmade, rfl⟩ := mem_addedFor.mp hm
    · exact ⟨ho, Or.inl ⟨⟨service, hs, by rw [hown, hbelongs]; rfl⟩, hin⟩⟩
    · exact ⟨hs, Or.inr hmade⟩
  · rintro ⟨ho, ⟨⟨service, hs, hown⟩, hin⟩ | hmade⟩
    · obtain ⟨hservice, hbelongs⟩ := Bool.and_eq_true_iff.mp hown
      exact ⟨service, hs, mem_addedFor.mpr (Or.inl ⟨hservice, ho, hbelongs, hin⟩)⟩
    · exact ⟨object, ho, mem_addedFor.mpr (Or.inr ⟨hmade, rfl⟩)⟩

theorem own_interface (h : own b object = true) :
    hasInterface object.gattCharacteristic1 = true := by
  rw [own, List.any_eq_true] at h
  obtain ⟨service, _, h⟩ := h
  exact belongsTo_interface (Bool.and_eq_true_iff.mp h).2

/-- The counting pass leaves space for all that is added. -/
theorem adds_counted (he : Exported b.dbusObjects) :
    (b.dbusObjects.flatMap (addedFor b unset start last)).length ≤
      b.dbusObjects.countP counted := by
  have hsub : (b.dbusObjects.flatMap (addedFor b unset start last)).map Prod.fst ⊆
      b.dbusObjects.filter counted := by
    intro object hm
    obtain ⟨ho, ⟨hown, _⟩ | hmade⟩ := mem_adds.mp hm
    · rw [List.mem_filter, counted, own_interface hown]
      exact ⟨ho, rfl⟩
    · rw [List.mem_filter, counted, (Bool.and_eq_true_iff.mp hmade).2, Bool.or_true]
      exact ⟨ho, rfl⟩
  have hlength := (List.subperm_of_subset (adds_nodup he) hsub).length_le
  rw [List.length_map] at hlength
  rw [List.countP_eq_length_filter]
  exact hlength

/-- What is added for a characteristic says its handle, what is added for a battery is made up. -/
theorem adds_entries {write : GattObject × GattlibCharacteristic}
    (h : write ∈ b.dbusObjects.flatMap (addedFor b unset start last)) :
    own b write.1 = true ∧ write.2 = entryOf unset write.1 ∨
      madeUp write.1 = true ∧ write.2 = batteryEntry := by
  obtain ⟨service, hs, hm⟩ := List.mem_flatMap.mp h
  unfold addedFor at hm
  split at hm
  · next hown =>
    obtain ⟨object, ho, rfl⟩ := List.mem_map.mp hm
    have hbelongs := (Bool.and_eq_true_iff.mp (List.mem_filter.mp ho).2).1
    exact Or.inl ⟨List.any_eq_true.mpr ⟨service, hs, by rw [hown, hbelongs]; rfl⟩, rfl⟩
  · split at hm
    · next hmade =>
      rw [List.mem_singleton.mp hm]
      exact Or.inr ⟨hmade, rfl⟩
    · cases hm

theorem entryOf_handle (unset : GattObject → BitVec 32) (h : handleOf object.path = some n)
    (ho : own b object = true) :
    (entryOf unset object).handle.toNat = n ∧
      (entryOf unset object).valueHandle = (entryOf unset object).handle := by
  rw [own, List.any_eq_true] at ho
  obtain ⟨service, _, ho⟩ := ho
  have hbelongs := (Bool.and_eq_true_iff.mp ho).2
  have hlt := handleOf_lt h
  unfold belongsTo at hbelongs
  unfold entryOf
  cases hp : proxyOf object.gattCharacteristic1 with
  | none =>
    rw [hp] at hbelongs
    cases hbelongs
  | some c =>
    refine ⟨?_, rfl⟩
    dsimp only [characteristicEntry]
    rw [pathHandle_eq h, BitVec.toNat_setWidth, BitVec.toNat_ofNat]
    omega

/-- The array that is filled with what is added is exact. -/
theorem filled_exact (he : Exported b.dbusObjects) (unset : GattObject → BitVec 32)
    (start last : BitVec 16) :
    Exact b start last
      { ret := gattlibSuccess
        countMax := b.dbusObjects.countP counted
        filled := ⟨b.dbusObjects.flatMap (addedFor b unset start last), 0⟩
        stored := some ((b.dbusObjects.flatMap (addedFor b unset start last)).map Prod.snd) } where
  success := rfl
  stored := rfl
  characteristics := by
    dsimp only
    apply (List.perm_ext_iff_of_nodup ((adds_nodup he).filter _)
      ((exported_nodup he).filter _)).mpr
    intro object
    rw [List.mem_filter, mem_adds, List.mem_filter, Bool.and_eq_true]
    constructor
    · rintro ⟨⟨ho, hown | hmade⟩, hc⟩
      · exact ⟨ho, hown⟩
      · exact absurd hmade (not_madeUp he ho hc)
    · rintro ⟨ho, hown⟩
      exact ⟨⟨ho, Or.inl hown⟩, own_interface hown.1⟩
  once := adds_nodup he
  handles := by
    intro write hw hc
    have ho := (mem_adds.mp (List.mem_map_of_mem hw)).1
    obtain ⟨hown, hentry⟩ | ⟨hmade, _⟩ := adds_entries hw
    · obtain ⟨n, hn⟩ := Option.isSome_iff_exists.mp (he.handles write.1 ho hc)
      obtain ⟨hhandle, hvalue⟩ := entryOf_handle unset hn hown
      rw [hentry, hn, hhandle]
      exact ⟨rfl, hvalue⟩
    · exact absurd hmade (not_madeUp he ho hc)
  synthetic := by
    intro write hw hc
    obtain ⟨hown, _⟩ | ⟨_, hentry⟩ := adds_entries hw
    · rw [own_interface hown] at hc
      cases hc
    · exact hentry
  bounded := adds_counted he
  unskipped := rfl

end

/-- The call gets as far as the loops. -/
def reachesLoops (w : World) (connection : Nat) (o : RangeOutcome) : Bool :=
  gattlibConnectionIsValid w connection && (w.devices.cell connection).any (fun device =>
    (getDeviceManagerFromAdapter w device.adapter o.manager).1.isSome) && o.calloc

/-- What a call gives that gets as far as the loops. -/
theorem discover_adds {w : World} {connection : Nat} {b : DiscoveryBackend} {o : RangeOutcome}
    (unset : GattObject → BitVec 32) (hreach : reachesLoops w connection o = true)
    (he : Exported b.dbusObjects) (start last : BitVec 16) :
    (gattlibDiscoverCharRange w connection b unset o start last).1 = some
      { ret := gattlibSuccess
        countMax := b.dbusObjects.countP counted
        filled := ⟨b.dbusObjects.flatMap (addedFor b unset start last), 0⟩
        stored := some ((b.dbusObjects.flatMap (addedFor b unset start last)).map Prod.snd) } := by
  unfold reachesLoops at hreach
  rw [Bool.and_eq_true, Bool.and_eq_true, Option.any_eq_true] at hreach
  obtain ⟨⟨hvalid, device, hdevice, hmanager⟩, hcalloc⟩ := hreach
  have hspace : ({} : Filled).writes.length +
      (b.dbusObjects.flatMap (addedFor b unset start last)).length ≤
      b.dbusObjects.countP counted := by
    rw [List.length_nil, Nat.zero_add]
    exact adds_counted he
  have hloop := discoverLoop_adds unset he he.readable hspace
  unfold gattlibDiscoverCharRange
  rw [hvalid, if_neg (by decide), hdevice]
  obtain ⟨manager, w', hfound⟩ := manager_found hmanager
  dsimp only
  rw [hfound, hcalloc]
  dsimp only
  rw [if_pos rfl, hloop]
  rfl

/-- A call that does not get as far as the loops lists nothing. -/
theorem discover_nothing {w : World} {connection : Nat} {o : RangeOutcome}
    (hreach : reachesLoops w connection o = false) (b : DiscoveryBackend)
    (unset : GattObject → BitVec 32) (start last : BitVec 16) :
    ∃ r, (gattlibDiscoverCharRange w connection b unset o start last).1 = some r ∧
      r.filled.writes = [] := by
  unfold reachesLoops at hreach
  unfold gattlibDiscoverCharRange
  cases hvalid : gattlibConnectionIsValid w connection with
  | false => exact ⟨_, rfl, rfl⟩
  | true =>
    rw [if_neg (by decide)]
    cases hdevice : w.devices.cell connection with
    | none => exact ⟨_, rfl, rfl⟩
    | some device =>
      rw [hvalid, hdevice, Option.any_some, Bool.true_and] at hreach
      dsimp only
      generalize getDeviceManagerFromAdapter w device.adapter o.manager = found at hreach ⊢
      obtain ⟨manager, x⟩ := found
      cases manager with
      | none => exact ⟨_, rfl, rfl⟩
      | some manager =>
        have hcalloc : o.calloc = false := hreach
        dsimp only
        rw [hcalloc, if_neg (by decide)]
        exact ⟨_, rfl, rfl⟩

/-- Discovery in a range is exact. -/
theorem range_exact (w : World) (connection : Nat) (b : DiscoveryBackend)
    (unset : GattObject → BitVec 32) (o : RangeOutcome) (start last : BitVec 16)
    (hreach : reachesLoops w connection o = true) (he : Exported b.dbusObjects) :
    ∃ r, (gattlibDiscoverCharRange w connection b unset o start last).1 = some r ∧
      Exact b start last r :=
  ⟨_, discover_adds unset hreach he start last, filled_exact he unset start last⟩

/-- "/d/service0010", a service of the device -/
def service0010 : GattObject where
  path := ⟨devicePath.bytes ++ slashService ++ [48, 48, 49, 48], by decide⟩
  gattService1 := .opened ⟨some devicePath, true, humanInterface⟩
  gattCharacteristic1 := .absent
  battery1 := .absent

/-- A characteristic of the service -/
def characteristicAt (path : CString) : GattObject where
  path := path
  gattService1 := .absent
  gattCharacteristic1 := .opened ⟨some humanInterface, some service0010.path, some []⟩
  battery1 := .absent

def char0012 : GattObject :=
  characteristicAt ⟨service0010.path.bytes ++ slashChar ++ [48, 48, 49, 50], by decide⟩

def char0100 : GattObject :=
  characteristicAt ⟨service0010.path.bytes ++ slashChar ++ [48, 49, 48, 48], by decide⟩

/-- The device with its service and one characteristic -/
def backendWith (object : GattObject) : DiscoveryBackend := ⟨devicePath, [object, service0010]⟩

theorem characteristicAt_readable (path : CString) : Readable (characteristicAt path) := by
  refine ⟨fun service hs => absurd hs (by simp [characteristicAt, proxyOf]), fun c hc => ?_⟩
  cases hc
  exact ⟨rfl, rfl, rfl⟩

theorem backendWith_exported {path : CString} (hne : path ≠ service0010.path)
    (hh : (handleOf path).isSome = true) :
    Exported (backendWith (characteristicAt path)).dbusObjects where
  distinct := by
    rw [backendWith, List.map_cons, List.map_singleton, List.nodup_cons, List.mem_singleton]
    exact ⟨hne, List.nodup_singleton _⟩
  handles := by
    intro object ho hc
    obtain rfl | ho := List.mem_cons.mp ho
    · exact hh
    · rw [List.mem_singleton.mp ho] at hc
      cases hc
  separate := by
    intro object ho hc
    obtain rfl | ho := List.mem_cons.mp ho
    · rfl
    · rw [List.mem_singleton.mp ho]
      rfl
  readable := by
    intro object ho
    obtain rfl | ho := List.mem_cons.mp ho
    · exact characteristicAt_readable path
    · rw [List.mem_singleton.mp ho]
      refine ⟨fun service hs => ?_, fun c hc => absurd hc (by simp [service0010, proxyOf])⟩
      cases hs
      rfl

def rangeAnswer : RangeOutcome := ⟨some 1, none, true⟩

theorem range_exact_one : ∃ r, (gattlibDiscoverCharRange discovered 0 (backendWith char0012)
    (fun _ => 0) rangeAnswer 0x0010 0x0020).1 = some r ∧
    Exact (backendWith char0012) 0x0010 0x0020 r :=
  range_exact discovered 0 (backendWith char0012) (fun _ => 0) rangeAnswer 0x0010 0x0020 (by decide)
    (backendWith_exported (by decide) (by decide))

/-- The array that has been stored has an entry with the handle, from the object. -/
def Lists (r : RangeDiscovered) (object : GattObject) (n : Nat) : Prop :=
  ∃ entry, (object, entry) ∈ r.filled.writes ∧ entry.handle.toNat = n ∧
    ∃ entries ∈ r.stored, entry ∈ entries

/-- Every characteristic of the device is listed whose handle is in the range that the other
backend asks for. -/
def MissesNothing (b : DiscoveryBackend) (r : RangeDiscovered) : Prop :=
  ∀ object ∈ b.dbusObjects, own b object = true → ∀ n ∈ handleOf object.path,
    bluezDiscoverCharRange.1.toNat ≤ n → n ≤ bluezDiscoverCharRange.2.toNat → Lists r object n

/-- Full discovery misses nothing exactly if no characteristic of the device has a handle
above 0xFF. -/
theorem misses_nothing_iff (w : World) (connection : Nat) (b : DiscoveryBackend)
    (unset : GattObject → BitVec 32) (o : RangeOutcome) (hreach : reachesLoops w connection o = true)
    (he : Exported b.dbusObjects) :
    (∃ r, (gattlibDiscoverChar w connection b unset o).1 = some r ∧ MissesNothing b r) ↔
      ∀ object ∈ b.dbusObjects, own b object = true → ∀ n ∈ handleOf object.path, n ≤ 0xFF := by
  have hr := discover_adds unset hreach he 0x00 0xFF
  constructor
  · rintro ⟨r, hcall, hall⟩ object ho hown n hn
    cases hr.symm.trans hcall
    by_cases hzero : n = 0
    · omega
    · have hlt := handleOf_lt hn
      have hlow : bluezDiscoverCharRange.1.toNat ≤ n := Nat.one_le_iff_ne_zero.mpr hzero
      have hhigh : n ≤ bluezDiscoverCharRange.2.toNat := Nat.le_of_lt_succ hlt
      obtain ⟨entry, hw, _⟩ := hall object ho hown n hn hlow hhigh
      obtain ⟨_, ⟨_, hin⟩ | hmade⟩ := mem_adds.mp (List.mem_map_of_mem hw)
      · rw [inRange, hn, Option.any_some, Bool.and_eq_true, decide_eq_true_iff,
          decide_eq_true_iff] at hin
        exact hin.2
      · exact absurd hmade (not_madeUp he ho (own_interface hown))
  · intro hall
    refine ⟨_, hr, fun object ho hown n hn _ _ => ?_⟩
    have hle := hall object ho hown n hn
    have hin : inRange 0x00 0xFF object = true := by
      rw [inRange, hn, Option.any_some, Bool.and_eq_true, decide_eq_true_iff, decide_eq_true_iff]
      exact ⟨Nat.zero_le n, hle⟩
    have hadded : object ∈
        (b.dbusObjects.flatMap (addedFor b unset 0x00 0xFF)).map Prod.fst :=
      mem_adds.mpr ⟨ho, Or.inl ⟨hown, hin⟩⟩
    obtain ⟨⟨_, entry⟩, hw, rfl⟩ := List.mem_map.mp hadded
    have hhandle := (filled_exact he unset 0x00 0xFF).handles _ hw (own_interface hown)
    have hvalue := hn.symm.trans hhandle.1
    exact ⟨entry, hw, (Option.some.inj hvalue).symm, _, rfl, List.mem_map_of_mem hw⟩

theorem misses_nothing_small : ∃ r, (gattlibDiscoverChar discovered 0 (backendWith char0012)
    (fun _ => 0) rangeAnswer).1 = some r ∧ MissesNothing (backendWith char0012) r :=
  (misses_nothing_iff discovered 0 (backendWith char0012) (fun _ => 0) rangeAnswer (by decide)
    (backendWith_exported (by decide) (by decide))).mpr (by decide)

/-- A characteristic with the handle 0x0100 is missed. -/
theorem handle_missed : ¬∀ (w : World) (connection : Nat) (b : DiscoveryBackend)
    (unset : GattObject → BitVec 32) (o : RangeOutcome), reachesLoops w connection o = true →
    Exported b.dbusObjects →
    ∃ r, (gattlibDiscoverChar w connection b unset o).1 = some r ∧ MissesNothing b r := by
  intro h
  obtain ⟨r, hcall, hall⟩ := h discovered 0 (backendWith char0100) (fun _ => 0) rangeAnswer
    (by decide) (backendWith_exported (by decide) (by decide))
  have hempty : r.filled.writes = [] := by
    cases hcall
    rfl
  obtain ⟨entry, hw, _⟩ := hall char0100 List.mem_cons_self (by decide) 256 (by decide) (by decide)
    (by decide)
  rw [hempty] at hw
  cases hw

end Gattlib.CharacteristicDiscovery
