import Gattlib.BluezObjects
import Gattlib.Changes
import Gattlib.Library.Transition
import Gattlib.UuidText

namespace Gattlib.CharacteristicLookup

open Library.Memory Library.Transition Gattlib.Strings Gattlib.State Gattlib.Registry Gattlib.RegistryFacts
open Gattlib.Connection Gattlib.Events Gattlib.Changes Gattlib.Uuids Gattlib.UuidText
open Gattlib.BluezObjects

/-- `struct dbus_characteristic`. A proxy is named by its object. -/
inductive DbusCharacteristic
  | none
  | gatt (object : BluezObject)
  | batteryLevel (object : BluezObject)
  deriving DecidableEq

def mCccUuid : Uuid := .uuid16 0x2902

/-- The variable `characteristic_uuid`. A text that is not a UUID leaves it as it is found
on the stack, which `unset` says for each object. -/
def characteristicUuid (unset : BluezObject → Uuid) (object : BluezObject) (text : CString) : Uuid :=
  match gattlibStringToUuid text.bytes (text.bytes.length + 1) with
  | .error _ => unset object
  | .ok uuid => uuid

/-- Whether the characteristic of an object is the one that is looked for. -/
def handleDbusGattcharacteristicFromPath (unset : BluezObject → Uuid) (b : GattBackend) (uuid : Uuid)
    (object : BluezObject) : Bool :=
  match object.gattCharacteristic1 with
  | .absent | .closed => false
  | .opened characteristic =>
    match characteristic.uuid with
    | .none => false
    | some text =>
      if gattlibUuidCmp uuid (characteristicUuid unset object text) ≠ 0 then false
      else characteristic.device == some b.deviceObjectPath

/-- A battery is stored, and the result is always that none has been found. -/
def handleDbusBatteryFromUuid (found : DbusCharacteristic) (object : BluezObject) :
    Bool × DbusCharacteristic :=
  match object.battery1 with
  | .absent | .closed => (false, found)
  | .opened _ => (false, .batteryLevel object)

/-- The loop over the objects, with what has been stored so far. -/
def lookupLoop (unset : BluezObject → Uuid) (b : GattBackend) (uuid : Uuid)
    (isBatteryLevelUuid : Bool) : List BluezObject → DbusCharacteristic → DbusCharacteristic
  | [], result => result
  | object :: objects, result =>
    if hasInterface object.gattCharacteristic1 &&
        handleDbusGattcharacteristicFromPath unset b uuid object then .gatt object
    else if isBatteryLevelUuid && hasInterface object.battery1 then
      match handleDbusBatteryFromUuid result object with
      | (true, result) => result
      | (false, result) => lookupLoop unset b uuid isBatteryLevelUuid objects result
    else lookupLoop unset b uuid isBatteryLevelUuid objects result

def getCharacteristicFromUuid (w : World) (connection : Nat) (b : GattBackend)
    (unset : BluezObject → Uuid) (manager : Option Nat) (uuid : Uuid) : DbusCharacteristic × World :=
  if gattlibConnectionIsConnected w connection = false then (.none, w)
  else
    match w.devices.cell connection with
    | .none => (.none, w)
    | some device =>
      match getDeviceManagerFromAdapter w device.adapter manager with
      | (.none, w) => (.none, w)
      | (some _, w) =>
        if gattlibUuidCmp uuid mBatteryLevelUuid = 0 then
          (lookupLoop unset b uuid true b.dbusObjects .none, w)
        else if gattlibUuidCmp uuid mCccUuid = 0 then (.none, w)
        else (lookupLoop unset b uuid false b.dbusObjects .none, w)

/-- The object manager of the device's adapter is there or can be created. -/
def managerOpens (w : World) (connection : Nat) (manager : Option Nat) : Bool :=
  (w.devices.cell connection).any (fun device =>
    (getDeviceManagerFromAdapter w device.adapter manager).1.isSome)

/-- The UUID is the battery level one, in whichever form. -/
def isBatteryLevel (uuid : Uuid) : Bool := gattlibUuidCmp uuid mBatteryLevelUuid == 0

/-- A characteristic with the UUID whose service belongs to the device. -/
def ownCharacteristic (unset : BluezObject → Uuid) (b : GattBackend) (uuid : Uuid)
    (object : BluezObject) : Bool :=
  (proxyOf object.gattCharacteristic1).any (fun characteristic =>
    characteristic.uuid.any (fun text =>
      gattlibUuidCmp uuid (characteristicUuid unset object text) == 0) &&
    characteristic.device == some b.deviceObjectPath)

def opensBattery (object : BluezObject) : Bool := (proxyOf object.battery1).isSome

/-- BlueZ puts the battery of a device on the object of the device itself. -/
def ownBattery (b : GattBackend) (object : BluezObject) : Bool :=
  opensBattery object && object.path == b.deviceObjectPath

/-- What the lookup is for: the first characteristic of the device with the UUID, else a
battery of the device if it is the battery level that is asked for, else nothing. -/
structure LooksUp (unset : BluezObject → Uuid) (b : GattBackend) (uuid : Uuid)
    (result : DbusCharacteristic) : Prop where
  gatt : ∀ object, result = .gatt object ↔
    b.dbusObjects.find? (ownCharacteristic unset b uuid) = some object
  battery : ∀ object, result = .batteryLevel object →
    isBatteryLevel uuid = true ∧ object ∈ b.dbusObjects ∧ ownBattery b object = true
  nothing : result = .none ↔
    b.dbusObjects.find? (ownCharacteristic unset b uuid) = none ∧
    (isBatteryLevel uuid = true → ∀ object ∈ b.dbusObjects, ownBattery b object = false)

def lastBattery (b : GattBackend) : Option BluezObject :=
  (b.dbusObjects.filter opensBattery).getLast?

section

variable {w : World} {connection : Nat} {b : GattBackend} {unset : BluezObject → Uuid}
variable {manager : Option Nat} {uuid : Uuid}

theorem handle_own (unset : BluezObject → Uuid) (b : GattBackend) (uuid : Uuid)
    (object : BluezObject) :
    (hasInterface object.gattCharacteristic1 &&
      handleDbusGattcharacteristicFromPath unset b uuid object) =
      ownCharacteristic unset b uuid object := by
  unfold handleDbusGattcharacteristicFromPath ownCharacteristic
  cases object.gattCharacteristic1 with
  | absent => rfl
  | closed => rfl
  | opened characteristic =>
    cases hu : characteristic.uuid with
    | none => simp [hasInterface, proxyOf, hu]
    | some text =>
      simp only [hasInterface, proxyOf, hu, Option.any_some, Bool.true_and]
      by_cases hc : gattlibUuidCmp uuid (characteristicUuid unset object text) = 0
      · rw [if_neg (not_not_intro hc), hc, beq_self_eq_true, Bool.true_and]
      · rw [if_pos hc, beq_false_of_ne hc, Bool.false_and]

/-- The battery of an object takes the place of the one before, and the loop goes on. -/
theorem lookupLoop_battery (unset : BluezObject → Uuid) (b : GattBackend) (uuid : Uuid)
    (object : BluezObject) (objects : List BluezObject) (result : DbusCharacteristic)
    (hown : ownCharacteristic unset b uuid object = false) :
    lookupLoop unset b uuid true (object :: objects) result =
      lookupLoop unset b uuid true objects
        (if opensBattery object then .batteryLevel object else result) := by
  rw [lookupLoop, handle_own, hown, if_neg Bool.false_ne_true]
  unfold handleDbusBatteryFromUuid opensBattery
  cases object.battery1 with
  | absent => rfl
  | closed => rfl
  | opened _ => rfl

theorem lookupLoop_other (unset : BluezObject → Uuid) (b : GattBackend) (uuid : Uuid)
    (objects : List BluezObject) (result : DbusCharacteristic) :
    lookupLoop unset b uuid false objects result =
      ((objects.find? (ownCharacteristic unset b uuid)).map .gatt).getD result := by
  induction objects with
  | nil => rfl
  | cons object objects ih =>
    rw [lookupLoop, handle_own, Bool.false_and, if_neg Bool.false_ne_true, ih, List.find?_cons]
    cases ownCharacteristic unset b uuid object with
    | false => rfl
    | true => rfl

/-- Without a characteristic of the device, the last battery is found. -/
theorem lookupLoop_batteryLevel (unset : BluezObject → Uuid) (b : GattBackend) (uuid : Uuid)
    (objects : List BluezObject) (result : DbusCharacteristic) :
    lookupLoop unset b uuid true objects result =
      ((objects.find? (ownCharacteristic unset b uuid)).map .gatt).getD
        (((objects.filter opensBattery).getLast?.map .batteryLevel).getD result) := by
  induction objects generalizing result with
  | nil => rfl
  | cons object objects ih =>
    cases hown : ownCharacteristic unset b uuid object with
    | true =>
      rw [lookupLoop, handle_own, hown, List.find?_cons, hown]
      rfl
    | false =>
      rw [lookupLoop_battery unset b uuid object objects result hown, ih, List.find?_cons, hown,
        List.filter_cons]
      cases opensBattery object with
      | false => rfl
      | true =>
        rw [if_pos rfl, if_pos rfl, List.getLast?_cons]
        cases (objects.filter opensBattery).getLast? with
        | none => rfl
        | some _ => rfl

/-- What a lookup in a connected device comes to. -/
theorem lookup_result (hconnected : gattlibConnectionIsConnected w connection = true)
    (hmanager : managerOpens w connection manager = true)
    (hccc : gattlibUuidCmp uuid mCccUuid ≠ 0) :
    (getCharacteristicFromUuid w connection b unset manager uuid).1 =
      ((b.dbusObjects.find? (ownCharacteristic unset b uuid)).map .gatt).getD
        (if isBatteryLevel uuid then ((lastBattery b).map .batteryLevel).getD .none else .none) := by
  unfold getCharacteristicFromUuid
  rw [hconnected, if_neg (by decide)]
  unfold managerOpens at hmanager
  cases hd : w.devices.cell connection with
  | none =>
    rw [hd] at hmanager
    cases hmanager
  | some device =>
    rw [hd, Option.any_some] at hmanager
    obtain ⟨m, w', hfound⟩ := manager_found hmanager
    unfold isBatteryLevel lastBattery
    dsimp only
    rw [hfound]
    by_cases hb : gattlibUuidCmp uuid mBatteryLevelUuid = 0
    · simp only [hb, if_true, lookupLoop_batteryLevel, beq_self_eq_true]
    · simp only [hb, hccc, if_false, lookupLoop_other, beq_iff_eq]

theorem lastBattery_opens {object : BluezObject} (h : lastBattery b = some object) :
    object ∈ b.dbusObjects ∧ opensBattery object = true :=
  List.mem_filter.mp (List.mem_of_getLast? h)

theorem lastBattery_none (h : lastBattery b = none) :
    ∀ object ∈ b.dbusObjects, ownBattery b object = false := by
  intro object hobject
  have hclosed := List.filter_eq_nil_iff.mp (List.getLast?_eq_none_iff.mp h) object hobject
  rw [ownBattery, Bool.eq_false_of_not_eq_true hclosed, Bool.false_and]

theorem looksUp_gatt {found : BluezObject}
    (hfind : b.dbusObjects.find? (ownCharacteristic unset b uuid) = some found) :
    LooksUp unset b uuid (.gatt found) := by
  constructor
  · intro object
    rw [hfind, DbusCharacteristic.gatt.injEq, Option.some.injEq]
  · intro object hobject
    cases hobject
  · rw [hfind]
    simp

theorem looksUp_batteryLevel {last : BluezObject}
    (hfind : b.dbusObjects.find? (ownCharacteristic unset b uuid) = none)
    (hlevel : isBatteryLevel uuid = true) (hlast : last ∈ b.dbusObjects)
    (hown : ownBattery b last = true) : LooksUp unset b uuid (.batteryLevel last) := by
  constructor
  · intro object
    rw [hfind]
    simp
  · intro object hobject
    cases hobject
    exact ⟨hlevel, hlast, hown⟩
  · constructor
    · intro hnone
      cases hnone
    · rintro ⟨_, hno⟩
      cases hown.symm.trans (hno hlevel last hlast)

theorem looksUp_none
    (hfind : b.dbusObjects.find? (ownCharacteristic unset b uuid) = none)
    (hno : isBatteryLevel uuid = true → ∀ object ∈ b.dbusObjects, ownBattery b object = false) :
    LooksUp unset b uuid .none := by
  constructor
  · intro object
    rw [hfind]
    simp
  · intro object hobject
    cases hobject
  · exact iff_of_true rfl ⟨hfind, hno⟩

end

/-- The lookup does what it is for exactly when it is not left to the batteries or the last
battery in the list is the device's. -/
theorem looks_up_iff (w : World) (connection : Nat) (b : GattBackend)
    (unset : BluezObject → Uuid) (manager : Option Nat) (uuid : Uuid)
    (hconnected : gattlibConnectionIsConnected w connection = true)
    (hmanager : managerOpens w connection manager = true)
    (hccc : gattlibUuidCmp uuid mCccUuid ≠ 0) :
    LooksUp unset b uuid (getCharacteristicFromUuid w connection b unset manager uuid).1 ↔
      (isBatteryLevel uuid = true → b.dbusObjects.find? (ownCharacteristic unset b uuid) = none →
        ∀ object ∈ lastBattery b, ownBattery b object = true) := by
  rw [lookup_result hconnected hmanager hccc]
  constructor
  · intro h hlevel hfind object hlast
    rw [hfind, if_pos hlevel, Option.mem_def.mp hlast] at h
    exact (h.battery object rfl).2.2
  · intro h
    cases hfind : b.dbusObjects.find? (ownCharacteristic unset b uuid) with
    | some found => exact looksUp_gatt hfind
    | none =>
      cases hlevel : isBatteryLevel uuid with
      | false => exact looksUp_none hfind (fun htrue => absurd (hlevel.symm.trans htrue) (by decide))
      | true =>
        cases hlast : lastBattery b with
        | none => exact looksUp_none hfind (fun _ => lastBattery_none hlast)
        | some last =>
          obtain ⟨hmem, _⟩ := lastBattery_opens hlast
          exact looksUp_batteryLevel hfind hlevel hmem (h hlevel hfind last hlast)

/-- A device whose services have been resolved. -/
def resolvedEvents : List DeviceEvent :=
  [.objectAdded 0 devicePath answered, .connect 0 devicePath 1 0 (.accepted 2),
    .emit 2 (.servicesResolved true) [], .propertyChange ⟨some 1, true, true⟩]

def batteryOf (path : CString) : BluezObject where
  path := path
  gattService1 := .absent
  gattCharacteristic1 := .absent
  battery1 := .opened ()

/-- "/e", the path of another device -/
def otherPath : CString := ⟨[47, 101], by decide⟩

/-- The batteries of two devices, in either order -/
def ownLast : GattBackend := ⟨devicePath, [batteryOf otherPath, batteryOf devicePath]⟩
def otherLast : GattBackend := ⟨devicePath, [batteryOf devicePath, batteryOf otherPath]⟩

def stackZero (_ : BluezObject) : Uuid := .other 0

theorem looks_up_iff_resolved : ∃ w, exec deviceStep opened resolvedEvents = some w ∧
    LooksUp stackZero ownLast mBatteryLevelUuid
      (getCharacteristicFromUuid w 0 ownLast stackZero none mBatteryLevelUuid).1 := by
  refine ⟨_, rfl, (looks_up_iff _ 0 ownLast stackZero none mBatteryLevelUuid (by decide)
    (by decide) (by decide)).mpr ?_⟩
  intro _ _
  decide

/-- The battery of another device comes last. -/
theorem otherBattery_found : ¬∀ (w : World) (connection : Nat) (b : GattBackend)
    (unset : BluezObject → Uuid) (manager : Option Nat) (uuid : Uuid),
    gattlibConnectionIsConnected w connection = true → managerOpens w connection manager = true →
    gattlibUuidCmp uuid mCccUuid ≠ 0 →
    LooksUp unset b uuid (getCharacteristicFromUuid w connection b unset manager uuid).1 := by
  intro h
  have hfound : ∃ w, exec deviceStep opened resolvedEvents = some w ∧
      gattlibConnectionIsConnected w 0 = true ∧ managerOpens w 0 none = true ∧
      (getCharacteristicFromUuid w 0 otherLast stackZero none mBatteryLevelUuid).1 =
        .batteryLevel (batteryOf otherPath) :=
    ⟨_, rfl, by decide, by decide, by decide⟩
  obtain ⟨w, _, hconnected, hmanager, hresult⟩ := hfound
  have hlooks := h w 0 otherLast stackZero none mBatteryLevelUuid hconnected hmanager (by decide)
  exact absurd (hlooks.battery _ hresult).2.2 (by decide)

end Gattlib.CharacteristicLookup
