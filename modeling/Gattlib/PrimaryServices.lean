import Gattlib.BluezObjects
import Gattlib.Notifications

namespace Gattlib.PrimaryServices

open Library.Memory Library.Text Gattlib.Strings Gattlib.State Gattlib.Registry
open Gattlib.Connection Gattlib.Events Gattlib.Uuids Gattlib.UuidText Gattlib.Notifications
open Gattlib.BluezObjects

/-- `gattlib_primary_service_t` -/
structure GattlibPrimaryService where
  attrHandleStart : BitVec 16
  attrHandleEnd : BitVec 16
  uuid : Uuid

/-- What D-Bus and the allocator answer: an object manager to be created or the error, the
property `UUIDs` of the device, and memory for the array. -/
structure PrimaryOutcome where
  manager : Option Nat
  error : Option GError
  uuids : Option (List CString)
  calloc : Bool

/-- What is stored through `services` and `services_count`. NULL is `none`. -/
structure Stored where
  services : Option (List GattlibPrimaryService)
  servicesCount : Nat

/-- A return of the function: its code, `count_max`, the writes to the array with their
indices, and what it has stored. -/
structure Discovered where
  ret : Ret
  countMax : Nat := 0
  writes : List (Nat × GattlibPrimaryService) := []
  stored : Option Stored := none

/-- `sscanf` of the last four characters of a path into an `unsigned int`. -/
def pathHandle (path : CString) (handle : BitVec 32) : BitVec 32 :=
  match sscanf [.hex 4] (path.bytes.drop (path.bytes.length - 4)) with
  | [] => handle
  | value :: _ => BitVec.ofInt 32 value

/-- The loop over the characteristics whose path begins with the path of the service. -/
def attrHandleEnd (objects : List BluezObject) (path : CString) (start : BitVec 16) : BitVec 16 :=
  objects.foldl (fun last object =>
    if hasInterface object.gattCharacteristic1 && path.bytes.isPrefixOf object.path.bytes then
      let charHandle := pathHandle object.path (last.setWidth 32)
      if charHandle < last.setWidth 32 then last else charHandle.setWidth 16
    else last) start

/-- The array has been zeroed, and a text that is not a UUID leaves its entry so. -/
def serviceUuid (uuid : CString) : Uuid :=
  match gattlibStringToUuid uuid.bytes 37 with
  | .error _ => .other 0
  | .ok uuid => uuid

def fillService (b : GattBackend) (object : BluezObject) (service : GattService1) :
    GattlibPrimaryService :=
  let handle := (pathHandle object.path 0xFFFF).setWidth 16
  { attrHandleStart := handle
    attrHandleEnd := attrHandleEnd b.dbusObjects object.path handle
    uuid := serviceUuid service.uuid }

/-- The service of an object, if it is a primary one of the device. -/
def primaryOf (b : GattBackend) (object : BluezObject) : Option GattService1 :=
  (proxyOf object.gattService1).filter (fun service =>
    service.device = some b.deviceObjectPath && service.primary)

/-- The loop over the objects. The index is `count`. -/
def serviceLoop (b : GattBackend) : List BluezObject → Nat → List (Nat × GattlibPrimaryService)
  | [], _ => []
  | object :: objects, count =>
    match primaryOf b object with
    | none => serviceLoop b objects count
    | some service => (count, fillService b object service) :: serviceLoop b objects (count + 1)

def gattlibDiscoverPrimary (w : World) (connection : Option Nat) (b : GattBackend)
    (o : PrimaryOutcome) : Discovered × World :=
  match connection with
  | none => ({ ret := gattlibInvalidParameter }, w)
  | some connection =>
    if gattlibConnectionIsValid w connection = false then
      ({ ret := gattlibDeviceDisconnected }, w)
    else
      match w.devices.cell connection with
      | none => ({ ret := gattlibDeviceDisconnected }, w)
      | some device =>
        match getDeviceManagerFromAdapter w device.adapter o.manager with
        | (none, w) => ({ ret := proxyErrorCode o.error }, w)
        | (some _, w) =>
          match o.uuids with
          | none => ({ ret := gattlibSuccess, stored := some ⟨none, 0⟩ }, w)
          | some uuids =>
            if o.calloc then
              let writes := serviceLoop b b.dbusObjects 0
              ({ ret := gattlibSuccess
                 countMax := uuids.length
                 writes := writes
                 stored := some ⟨some (writes.map Prod.snd), writes.length⟩ }, w)
            else ({ ret := gattlibOutOfMemory }, w)

/-- No write is outside the array. -/
def InBounds (r : Discovered) : Prop := ∀ write ∈ r.writes, write.1 < r.countMax

/-- The call gets as far as the loop. -/
def reachesLoop (w : World) (connection : Option Nat) (o : PrimaryOutcome) : Bool :=
  connection.any (fun connection => gattlibConnectionIsValid w connection &&
    (w.devices.cell connection).any (fun device =>
      (getDeviceManagerFromAdapter w device.adapter o.manager).1.isSome)) && o.calloc

/-- The primary services of the device. -/
def primaries (b : GattBackend) : List BluezObject :=
  b.dbusObjects.filter (fun object => (primaryOf b object).isSome)

section

variable {w : World} {b : GattBackend}

/-- The loop counts the services that it writes. -/
theorem serviceLoop_indices (b : GattBackend) (objects : List BluezObject) (count : Nat) :
    (serviceLoop b objects count).map Prod.fst =
      List.range' count (objects.filter (fun object => (primaryOf b object).isSome)).length := by
  induction objects generalizing count with
  | nil => rfl
  | cons object objects ih =>
    rw [serviceLoop, List.filter_cons]
    cases hp : primaryOf b object with
    | none => exact ih count
    | some service =>
      rw [if_pos Option.isSome_some, List.length_cons, List.range'_succ]
      exact congrArg (count :: ·) (ih (count + 1))

theorem serviceLoop_bounded (b : GattBackend) (countMax : Nat) :
    (∀ write ∈ serviceLoop b b.dbusObjects 0, write.1 < countMax) ↔
      (primaries b).length ≤ countMax := by
  have hindices : ∀ i, (∃ write ∈ serviceLoop b b.dbusObjects 0, write.1 = i) ↔
      i < (primaries b).length := by
    intro i
    have hm : i ∈ (serviceLoop b b.dbusObjects 0).map Prod.fst ↔ i < (primaries b).length := by
      rw [serviceLoop_indices, List.mem_range'_1, primaries]
      omega
    rw [← hm, List.mem_map]
  constructor
  · intro h
    by_contra hlong
    obtain ⟨write, hw, he⟩ := (hindices countMax).mpr (by omega)
    exact Nat.lt_irrefl _ (he ▸ h write hw)
  · intro h write hw
    exact Nat.lt_of_lt_of_le ((hindices write.1).mp ⟨write, hw, rfl⟩) h

/-- Where the call does not get as far as the loop, it writes nothing. -/
theorem discover_writes (w : World) (connection : Option Nat) (b : GattBackend)
    (o : PrimaryOutcome) :
    (∃ uuids, reachesLoop w connection o = true ∧ o.uuids = some uuids ∧
      (gattlibDiscoverPrimary w connection b o).1.writes = serviceLoop b b.dbusObjects 0 ∧
      (gattlibDiscoverPrimary w connection b o).1.countMax = uuids.length) ∨
    ((reachesLoop w connection o = false ∨ o.uuids = none) ∧
      (gattlibDiscoverPrimary w connection b o).1.writes = []) := by
  unfold gattlibDiscoverPrimary reachesLoop
  cases connection with
  | none => exact Or.inr ⟨Or.inl rfl, rfl⟩
  | some connection =>
    simp only [Option.any_some]
    cases gattlibConnectionIsValid w connection with
    | false => exact Or.inr ⟨Or.inl rfl, rfl⟩
    | true =>
      rw [if_neg (by decide)]
      cases w.devices.cell connection with
      | none => exact Or.inr ⟨Or.inl rfl, rfl⟩
      | some device =>
        simp only [Option.any_some]
        generalize getDeviceManagerFromAdapter w device.adapter o.manager = found
        obtain ⟨manager, x⟩ := found
        cases manager with
        | none => exact Or.inr ⟨Or.inl rfl, rfl⟩
        | some manager =>
          cases o.uuids with
          | none => exact Or.inr ⟨Or.inr rfl, rfl⟩
          | some uuids =>
            cases o.calloc with
            | false => exact Or.inr ⟨Or.inl rfl, rfl⟩
            | true => exact Or.inl ⟨uuids, rfl, rfl, rfl, rfl⟩

end

/-- The writes stay in the array exactly when the device has no more primary services than
UUIDs, or the call does not get as far as the loop. -/
theorem bounds_iff (w : World) (connection : Option Nat) (b : GattBackend) (o : PrimaryOutcome) :
    InBounds (gattlibDiscoverPrimary w connection b o).1 ↔
      (reachesLoop w connection o = true →
        ∀ uuids ∈ o.uuids, (primaries b).length ≤ uuids.length) := by
  unfold InBounds
  obtain ⟨uuids, hreach, huuids, hwrites, hmax⟩ | ⟨hout, hwrites⟩ :=
    discover_writes w connection b o
  · rw [hwrites, hmax, serviceLoop_bounded, huuids]
    constructor
    · intro h _ other hother
      rw [← Option.some.inj hother]
      exact h
    · exact fun h => h hreach uuids rfl
  · rw [hwrites]
    constructor
    · rintro _ hreach uuids huuids
      obtain hfalse | hnone := hout
      · rw [hfalse] at hreach
        cases hreach
      · rw [hnone] at huuids
        cases huuids
    · exact fun _ write hw => absurd hw List.not_mem_nil

/-- "1812", the service of human interface devices, which may have several instances -/
def humanInterface : CString := ⟨[49, 56, 49, 50], by decide⟩

/-- A primary service of the device -/
def instanceAt (path : CString) : BluezObject where
  path := path
  gattService1 := .opened ⟨some devicePath, true, humanInterface⟩
  gattCharacteristic1 := .absent
  battery1 := .absent

/-- "/d/service0010" and "/d/service0020" -/
def instances : List BluezObject :=
  [instanceAt ⟨[47, 100, 47, 115, 101, 114, 118, 105, 99, 101, 48, 48, 49, 48], by decide⟩,
    instanceAt ⟨[47, 100, 47, 115, 101, 114, 118, 105, 99, 101, 48, 48, 50, 48], by decide⟩]

/-- Two instances of one service, whose UUID the device lists once. -/
theorem instances_overrun : ¬∀ (w : World) (connection : Option Nat) (b : GattBackend)
    (o : PrimaryOutcome), InBounds (gattlibDiscoverPrimary w connection b o).1 := by
  intro h
  have hbounds := h discovered (some 0) ⟨devicePath, instances⟩
    ⟨some 1, none, some [humanInterface], true⟩
  have hsecond := hbounds (1, _) (List.mem_cons_of_mem _ List.mem_cons_self)
  exact absurd hsecond (by decide)

end Gattlib.PrimaryServices
