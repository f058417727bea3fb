import Gattlib.CharacteristicDiscovery
import Gattlib.CharacteristicOperations

namespace Gattlib.CharacteristicHandles

open Library.Transition Gattlib.Strings Gattlib.State Gattlib.Registry Gattlib.RegistryFacts
open Gattlib.Connection Gattlib.Events Gattlib.Uuids Gattlib.BluezObjects Gattlib.PrimaryServices
open Gattlib.ObjectPaths Gattlib.CharacteristicLookup Gattlib.CharacteristicOperations
open Gattlib.CharacteristicDiscovery

/-- `handle_dbus_gattcharacteristic_from_path`, which is given NULL where any UUID will do. -/
def gattcharacteristicFromPath (unset : BluezObject → Uuid) (b : GattBackend) (uuid : Option Uuid)
    (object : BluezObject) : Bool :=
  match uuid with
  | some uuid => handleDbusGattcharacteristicFromPath unset b uuid object
  | none => (proxyOf object.gattCharacteristic1).any (fun characteristic =>
      characteristic.device == some b.deviceObjectPath)

/-- The loop over the objects. The variable `char_handle` keeps what has been read before. -/
def handleLoop (unset : BluezObject → Uuid) (b : GattBackend) (handle : BitVec 32) :
    List BluezObject → BitVec 32 → DbusCharacteristic
  | [], _ => .none
  | object :: objects, charHandle =>
    if hasInterface object.gattCharacteristic1 then
      let charHandle := pathHandle object.path charHandle
      if charHandle ≠ handle then handleLoop unset b handle objects charHandle
      else if gattcharacteristicFromPath unset b none object then .gatt object
      else handleLoop unset b handle objects charHandle
    else handleLoop unset b handle objects charHandle

def getCharacteristicFromHandle (w : World) (connection : Nat) (b : GattBackend)
    (unset : BluezObject → Uuid) (charHandle : BitVec 32) (manager : Option Nat)
    (handle : BitVec 32) : DbusCharacteristic × World :=
  if gattlibConnectionIsConnected w connection = false then (.none, w)
  else
    match w.devices.cell connection with
    | none => (.none, w)
    | some device =>
      match getDeviceManagerFromAdapter w device.adapter manager with
      | (none, w) => (.none, w)
      | (some _, w) => (handleLoop unset b handle b.dbusObjects charHandle, w)

/-- What the two functions that write by handle share. -/
def writeByHandle (options : BitVec 32) (found : DbusCharacteristic) (buffer : List UInt8)
    (a : Answers) : Effect :=
  match found with
  | .none => { ret := gattlibNotFound }
  | found => writeChar (gattMember found) buffer options a

def gattlibWriteCharByHandle (found : DbusCharacteristic) (buffer : List UInt8) (a : Answers) :
    Effect :=
  writeByHandle bluezGattWriteValueTypeWriteWithResponse found buffer a

def gattlibWriteWithoutResponseCharByHandle (found : DbusCharacteristic) (buffer : List UInt8)
    (a : Answers) : Effect :=
  writeByHandle bluezGattWriteValueTypeWriteWithoutResponse found buffer a

/-! The objects as the lookups see them -/

/-- The device that a proxy of the service reads. -/
def deviceOf (b : DiscoveryBackend) (servicePath : CString) : Option CString :=
  (b.dbusObjects.find? (fun service => service.path == servicePath)).bind (fun service =>
    (proxyOf service.gattService1).bind GattService1.device)

def characteristicOf (b : DiscoveryBackend) : Interface CharacteristicProxy →
    Interface GattCharacteristic1
  | .absent => .absent
  | .closed => .closed
  | .opened c => .opened ⟨c.uuid, c.service.bind (deviceOf b)⟩

def bluezObject (b : DiscoveryBackend) (object : GattObject) : BluezObject where
  path := object.path
  gattService1 := object.gattService1
  gattCharacteristic1 := characteristicOf b object.gattCharacteristic1
  battery1 := object.battery1

def lookupBackend (b : DiscoveryBackend) : GattBackend :=
  ⟨b.deviceObjectPath, b.dbusObjects.map (bluezObject b)⟩

/-- Two characteristics of the device have not the same handle. -/
def UniqueHandles (b : DiscoveryBackend) : Prop :=
  ∀ x ∈ b.dbusObjects, ∀ y ∈ b.dbusObjects, own b x = true → own b y = true →
    handleOf x.path = handleOf y.path → x = y

/-- The objects among which a handle is looked up. -/
def hasHandle (b : DiscoveryBackend) (handle : BitVec 32) (object : GattObject) : Bool :=
  own b object && handleOf object.path == some handle.toNat

section

variable {b : DiscoveryBackend} {object service : GattObject} {handle : BitVec 32}

theorem deviceOf_service (he : Exported b.dbusObjects) (hs : service ∈ b.dbusObjects) :
    deviceOf b service.path = (proxyOf service.gattService1).bind GattService1.device := by
  have hfind : b.dbusObjects.find? (fun x => x.path == service.path) = some service :=
    (find_of_distinct GattObject.path _ service.path b.dbusObjects (fun _ => beq_iff_eq) he.distinct
      service).mpr ⟨hs, rfl⟩
  rw [deviceOf, hfind]
  rfl

/-- A characteristic is of the device if the proxy of its service says so. -/
theorem own_iff (he : Exported b.dbusObjects) (object : GattObject) :
    own b object = true ↔ ∃ c path, proxyOf object.gattCharacteristic1 = some c ∧
      c.service = some path ∧ deviceOf b path = some b.deviceObjectPath := by
  rw [own, List.any_eq_true]
  constructor
  · rintro ⟨service, hs, hown⟩
    obtain ⟨hservice, hbelongs⟩ := Bool.and_eq_true_iff.mp hown
    rw [belongsTo, Option.any_eq_true] at hbelongs
    obtain ⟨c, hc, hpath⟩ := hbelongs
    refine ⟨c, service.path, hc, beq_iff_eq.mp hpath, ?_⟩
    rw [ownService, Option.any_eq_true] at hservice
    obtain ⟨s, hproxy, hdevice⟩ := hservice
    rw [deviceOf_service he hs, hproxy, Option.bind_some]
    exact beq_iff_eq.mp hdevice
  · rintro ⟨c, path, hc, hservice, hdevice⟩
    rw [deviceOf, Option.bind_eq_some_iff] at hdevice
    obtain ⟨service, hfind, hdevice⟩ := hdevice
    rw [Option.bind_eq_some_iff] at hdevice
    obtain ⟨s, hproxy, hdevice⟩ := hdevice
    have hfound := List.find?_some hfind
    have hpath : service.path = path := beq_iff_eq.mp hfound
    refine ⟨service, List.mem_of_find?_eq_some hfind, ?_⟩
    rw [ownService, hproxy, Option.any_some, hdevice, belongsTo, hc, Option.any_some, hservice,
      hpath, beq_self_eq_true, beq_self_eq_true]
    rfl

theorem interface_bluez (b : DiscoveryBackend) (object : GattObject) :
    hasInterface (bluezObject b object).gattCharacteristic1 =
      hasInterface object.gattCharacteristic1 := by
  rw [bluezObject]
  dsimp only
  cases object.gattCharacteristic1 with
  | absent | closed | opened c => rfl

/-- The lookup takes the characteristics of the device. -/
theorem gattcharacteristicFromPath_own (he : Exported b.dbusObjects) (unset : BluezObject → Uuid)
    (object : GattObject) :
    gattcharacteristicFromPath unset (lookupBackend b) none (bluezObject b object) = own b object := by
  rw [Bool.eq_iff_iff, own_iff he, gattcharacteristicFromPath, bluezObject]
  dsimp only
  cases object.gattCharacteristic1 with
  | absent | closed => simp [characteristicOf, proxyOf]
  | opened c =>
    rw [characteristicOf, proxyOf, Option.any_some, beq_iff_eq, lookupBackend, proxyOf,
      Option.bind_eq_some_iff]
    constructor
    · rintro ⟨path, hservice, hdevice⟩
      exact ⟨c, path, rfl, hservice, hdevice⟩
    · rintro ⟨c', path, hc, hservice, hdevice⟩
      cases hc
      exact ⟨path, hservice, hdevice⟩

/-- The loop finds the first characteristic of the device with the handle. -/
theorem handleLoop_find (he : Exported b.dbusObjects) (unset : BluezObject → Uuid)
    {objects : List GattObject} (hh : ∀ object ∈ objects,
      hasInterface object.gattCharacteristic1 = true → (handleOf object.path).isSome = true)
    (charHandle : BitVec 32) :
    handleLoop unset (lookupBackend b) handle (objects.map (bluezObject b)) charHandle =
      match objects.find? (hasHandle b handle) with
      | none => .none
      | some object => .gatt (bluezObject b object) := by
  induction objects generalizing charHandle with
  | nil => rfl
  | cons object objects ih =>
    have ih := ih (fun x hx => hh x (List.mem_cons_of_mem object hx))
    rw [List.map_cons, handleLoop, interface_bluez, List.find?_cons]
    by_cases hc : hasInterface object.gattCharacteristic1 = true
    · obtain ⟨n, hn⟩ := Option.isSome_iff_exists.mp (hh object List.mem_cons_self hc)
      have hread : pathHandle (bluezObject b object).path charHandle = BitVec.ofNat 32 n :=
        pathHandle_eq hn charHandle
      have hlt := handleOf_lt hn
      have hsame : BitVec.ofNat 32 n = handle ↔ n = handle.toNat := by
        rw [← BitVec.toNat_inj, BitVec.toNat_ofNat, Nat.mod_eq_of_lt (by omega)]
      rw [if_pos hc, hread, hasHandle, hn, gattcharacteristicFromPath_own he]
      dsimp only
      by_cases heq : n = handle.toNat
      · rw [if_neg (not_not.mpr (hsame.mpr heq)), heq, beq_self_eq_true, Bool.and_true]
        cases own b object with
        | true => rfl
        | false => exact ih _
      · have hne : (some n == some handle.toNat) = false :=
          beq_false_of_ne (fun h => heq (Option.some.inj h))
        rw [if_pos (fun h => heq (hsame.mp h)), hne, Bool.and_false]
        exact ih _
    · have hother : own b object = false := by
        by_contra hown
        exact hc (own_interface ((Bool.not_eq_false _).mp hown))
      rw [if_neg hc, hasHandle, hother, Bool.false_and]
      exact ih charHandle

theorem find_unique (hu : UniqueHandles b) (ho : object ∈ b.dbusObjects)
    (hh : hasHandle b handle object = true) :
    b.dbusObjects.find? (hasHandle b handle) = some object := by
  cases hf : b.dbusObjects.find? (hasHandle b handle) with
  | none => exact absurd hh (List.find?_eq_none.mp hf object ho)
  | some x =>
    have hfound := List.find?_some hf
    obtain ⟨hx, hxhandle⟩ := Bool.and_eq_true_iff.mp hfound
    obtain ⟨hown, hhandle⟩ := Bool.and_eq_true_iff.mp hh
    rw [hu x (List.mem_of_find?_eq_some hf) object ho hx hown
      ((beq_iff_eq.mp hxhandle).trans (beq_iff_eq.mp hhandle).symm)]

/-- On a connected device the call runs its loop. -/
theorem lookup_loop {w : World} {connection : Nat} {manager : Option Nat} (gb : GattBackend)
    (unset : BluezObject → Uuid) (charHandle : BitVec 32)
    (hconnected : gattlibConnectionIsConnected w connection = true)
    (hmanager : managerOpens w connection manager = true) (handle : BitVec 32) :
    (getCharacteristicFromHandle w connection gb unset charHandle manager handle).1 =
      handleLoop unset gb handle gb.dbusObjects charHandle := by
  rw [managerOpens, Option.any_eq_true] at hmanager
  obtain ⟨device, hdevice, hmanager⟩ := hmanager
  unfold getCharacteristicFromHandle
  obtain ⟨m, w', hfound⟩ := manager_found hmanager
  rw [hconnected, if_neg (by decide), hdevice]
  dsimp only
  rw [hfound]

/-- What a handle is looked up as. -/
theorem lookup_find {w : World} {connection : Nat} {manager : Option Nat}
    (he : Exported b.dbusObjects) (unset : BluezObject → Uuid) (charHandle : BitVec 32)
    (hconnected : gattlibConnectionIsConnected w connection = true)
    (hmanager : managerOpens w connection manager = true) (handle : BitVec 32) :
    (getCharacteristicFromHandle w connection (lookupBackend b) unset charHandle manager
      handle).1 = match b.dbusObjects.find? (hasHandle b handle) with
        | none => .none
        | some object => .gatt (bluezObject b object) := by
  rw [lookup_loop (lookupBackend b) unset charHandle hconnected hmanager handle]
  exact handleLoop_find he unset he.handles charHandle

end

/-- What the lookup of handles is for: an entry that discovery has returned is looked up as
the object it is from, and a handle that the device has not is not found. -/
structure Usable (b : DiscoveryBackend) (r : RangeDiscovered)
    (lookup : BitVec 32 → DbusCharacteristic) : Prop where
  discovered : ∀ write ∈ r.filled.writes,
    hasInterface write.1.gattCharacteristic1 = true →
      lookup (write.2.handle.setWidth 32) = .gatt (bluezObject b write.1)
  unknown : ∀ handle : BitVec 32, (∀ object ∈ b.dbusObjects, own b object = true →
    handleOf object.path ≠ some handle.toNat) → lookup handle = .none

/-- The handles that discovery has returned can be used while the device is connected. -/
theorem handles_usable (w w' : World) (connection : Nat) (b : DiscoveryBackend)
    (unset : GattObject → BitVec 32) (o : RangeOutcome) (start last : BitVec 16)
    (unset' : BluezObject → Uuid) (charHandle : BitVec 32) (manager : Option Nat)
    (he : Exported b.dbusObjects) (hu : UniqueHandles b)
    (hconnected : gattlibConnectionIsConnected w' connection = true)
    (hmanager : managerOpens w' connection manager = true) :
    ∃ r, (gattlibDiscoverCharRange w connection b unset o start last).1 = some r ∧
      Usable b r (fun handle => (getCharacteristicFromHandle w' connection (lookupBackend b) unset'
        charHandle manager handle).1) := by
  have hunknown : ∀ handle : BitVec 32, (∀ object ∈ b.dbusObjects, own b object = true →
      handleOf object.path ≠ some handle.toNat) →
      (getCharacteristicFromHandle w' connection (lookupBackend b) unset' charHandle manager
        handle).1 = .none := by
    intro handle hnone
    have hnot : b.dbusObjects.find? (hasHandle b handle) = none := by
      apply List.find?_eq_none.mpr
      intro object ho hh
      obtain ⟨hown, hsame⟩ := Bool.and_eq_true_iff.mp hh
      exact hnone object ho hown (beq_iff_eq.mp hsame)
    rw [lookup_find he unset' charHandle hconnected hmanager, hnot]
  cases hreach : reachesLoops w connection o with
  | false =>
    obtain ⟨r, hr, hempty⟩ := discover_nothing hreach b unset start last
    refine ⟨r, hr, fun write hw => ?_, hunknown⟩
    rw [hempty] at hw
    cases hw
  | true =>
    refine ⟨_, discover_adds unset hreach he start last, fun write hw hc => ?_, hunknown⟩
    have hexact := filled_exact he unset start last
    obtain ⟨ho, ⟨hown, _⟩ | hmade⟩ := mem_adds.mp (List.mem_map_of_mem hw)
    · have hhandle := (hexact.handles write hw hc).1
      have hwidth : (write.2.handle.setWidth 32).toNat = write.2.handle.toNat := by
        have hlt := write.2.handle.isLt
        rw [BitVec.toNat_setWidth]
        omega
      have hfound : hasHandle b (write.2.handle.setWidth 32) write.1 = true := by
        rw [hasHandle, hown, hhandle, hwidth, beq_self_eq_true]
        rfl
      rw [lookup_find he unset' charHandle hconnected hmanager, find_unique hu ho hfound]
    · exact absurd hmade (not_madeUp he ho hc)

theorem backendWith_unique (path : CString) :
    UniqueHandles (backendWith (characteristicAt path)) := by
  have hown : ∀ x ∈ (backendWith (characteristicAt path)).dbusObjects,
      own (backendWith (characteristicAt path)) x = true → x = characteristicAt path := by
    intro x hx hown
    obtain rfl | hx := List.mem_cons.mp hx
    · rfl
    · rw [List.mem_singleton.mp hx] at hown
      cases own_interface hown
  intro x hx y hy hxown hyown _
  rw [hown x hx hxown, hown y hy hyown]

/-- The handle of the one characteristic of a connected device -/
theorem handles_usable_one : ∃ w, exec deviceStep opened resolvedEvents = some w ∧
    ∃ r, (gattlibDiscoverCharRange w 0 (backendWith char0012) (fun _ => 0) rangeAnswer 0x0001
      0xffff).1 = some r ∧ Usable (backendWith char0012) r (fun handle =>
        (getCharacteristicFromHandle w 0 (lookupBackend (backendWith char0012)) stackZero 0 none
          handle).1) :=
  ⟨_, rfl, handles_usable _ _ 0 (backendWith char0012) (fun _ => 0) rangeAnswer 0x0001 0xffff
    stackZero 0 none (backendWith_exported (by decide) (by decide))
    (backendWith_unique _) (by decide) (by decide)⟩

/-! Writing by handle -/

section

variable {b : DiscoveryBackend} {r : RangeDiscovered} {lookup : BitVec 32 → DbusCharacteristic}
variable {write : GattObject × GattlibCharacteristic}

/-- A write by a handle that discovery has returned is a write of its object. -/
theorem write_discovered (h : Usable b r lookup) (hw : write ∈ r.filled.writes)
    (hc : hasInterface write.1.gattCharacteristic1 = true) (options : BitVec 32)
    (buffer : List UInt8) (a : Answers) :
    writeByHandle options (lookup (write.2.handle.setWidth 32)) buffer a =
      writeChar (.characteristic (bluezObject b write.1)) buffer options a := by
  rw [h.discovered write hw hc]
  rfl

/-- A write by a handle that the device has not makes no call. -/
theorem write_unknown (h : Usable b r lookup) {handle : BitVec 32}
    (hnone : ∀ object ∈ b.dbusObjects, own b object = true →
      handleOf object.path ≠ some handle.toNat) (options : BitVec 32) (buffer : List UInt8)
    (a : Answers) :
    writeByHandle options (lookup handle) buffer a = { ret := gattlibNotFound } := by
  rw [h.unknown handle hnone]
  rfl

end

end Gattlib.CharacteristicHandles
