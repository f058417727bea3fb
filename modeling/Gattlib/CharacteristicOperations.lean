import Gattlib.CharacteristicLookup
import Gattlib.Client
import Gattlib.Notifications

namespace Gattlib.CharacteristicOperations

open Library.Transition Gattlib.State Gattlib.Registry Gattlib.Connection Gattlib.Events
open Gattlib.Uuids Gattlib.BluezObjects Gattlib.CharacteristicLookup
open Gattlib.Client (gattlibDeviceNotConnected)
open Gattlib.Notifications (Kind Notified StartOutcome connectSignalToCharacteristicUuid)

def gattlibNotSupported : Ret := 5

/-- The arguments of an operation on a UUID, with what the lookup reads for them. -/
structure Lookup where
  world : World
  connection : Nat
  backend : GattBackend
  unset : BluezObject → Uuid
  manager : Option Nat
  uuid : Uuid

/-- What `get_characteristic_from_uuid` returns. -/
def Lookup.found (l : Lookup) : DbusCharacteristic :=
  (getCharacteristicFromUuid l.world l.connection l.backend l.unset l.manager l.uuid).1

inductive Pointer
  | null
  | characteristic (object : BluezObject)
  | battery (object : BluezObject)
  deriving DecidableEq

/-- The member `gatt` of the union, which a battery is stored in as well. -/
def gattMember : DbusCharacteristic → Pointer
  | .none => .null
  | .gatt object => .characteristic object
  | .batteryLevel object => .battery object

/-- The methods of `org.bluez.GattCharacteristic1`. A write without response is a command. -/
inductive Method
  | readValue
  | writeValue (value : List UInt8) (command : Bool)
  | acquireWrite
  | startNotify
  deriving DecidableEq

/-- A call of a method, and the proxy it is made through. -/
structure Issued where
  proxy : Pointer
  method : Method
  deriving DecidableEq

/-- What an operation returns, the calls it makes, the bytes it stores or passes to its
callback, and the stream it opens with its MTU. -/
structure Effect where
  ret : Ret
  calls : List Issued := []
  buffer : Option (List UInt8) := none
  passed : List (List UInt8) := []
  stream : Option (Nat × BitVec 16) := none
  crashed : Bool := false

/-- What D-Bus, GLib and the allocator answer. A call through a pointer that is not a
characteristic's comes to anything. -/
structure Answers where
  malloc : Bool
  percentage : UInt8
  readValue : Except GError (List UInt8)
  writeValue : Option GError
  acquireWrite : Except GError (BitVec 16)
  fd : Except GError Nat
  signal : Bool
  calloc : Bool
  startNotify : Option GError

/-- GLib gives NULL for an array without elements. -/
def readGattCharacteristic (proxy : Pointer) (a : Answers) : Effect :=
  let calls := [⟨proxy, .readValue⟩]
  match a.readValue with
  | .error error => { ret := gattlibErrorDbusWithError error, calls }
  | .ok value =>
    if value = [] then { ret := gattlibSuccess, calls, buffer := some [] }
    else if a.malloc then { ret := gattlibSuccess, calls, buffer := some value }
    else { ret := gattlibOutOfMemory, calls }

/-- It is not the result of `malloc` that is compared with NULL. -/
def readBatteryLevel (a : Answers) : Effect :=
  if a.malloc then { ret := gattlibSuccess, buffer := some [a.percentage] }
  else { ret := gattlibSuccess, crashed := true }

def gattlibReadCharByUuid (l : Lookup) (a : Answers) : Effect :=
  match l.found with
  | .none => { ret := gattlibNotFound }
  | .batteryLevel _ => readBatteryLevel a
  | .gatt object => readGattCharacteristic (gattMember (.gatt object)) a

def gattlibReadCharByUuidAsync (l : Lookup) (a : Answers) : Effect :=
  match l.found with
  | .none => { ret := gattlibNotFound }
  | .batteryLevel _ => { ret := gattlibSuccess, passed := [[a.percentage]] }
  | .gatt object =>
    let calls := [⟨gattMember (.gatt object), .readValue⟩]
    match a.readValue with
    | .error error => { ret := gattlibErrorDbusWithError error, calls }
    | .ok value => { ret := gattlibSuccess, calls, passed := if value = [] then [] else [value] }

def bluezGattWriteValueTypeMask : BitVec 32 := 7
def bluezGattWriteValueTypeWriteWithResponse : BitVec 32 := 1
def bluezGattWriteValueTypeWriteWithoutResponse : BitVec 32 := 2

def writeChar (proxy : Pointer) (buffer : List UInt8) (options : BitVec 32) (a : Answers) :
    Effect :=
  let command := options &&& bluezGattWriteValueTypeMask = bluezGattWriteValueTypeWriteWithoutResponse
  let calls := [⟨proxy, .writeValue buffer command⟩]
  match a.writeValue with
  | none => { ret := gattlibSuccess, calls }
  | some error =>
    if error.domain = 238 ∧ error.code = 36 then { ret := gattlibDeviceNotConnected, calls }
    else { ret := gattlibErrorDbusWithError error, calls }

/-- What the two functions that write by UUID share. -/
def writeByUuid (options : BitVec 32) (l : Lookup) (buffer : List UInt8) (a : Answers) : Effect :=
  match l.found with
  | .none => { ret := gattlibNotFound }
  | .batteryLevel _ => { ret := gattlibNotSupported }
  | .gatt object => writeChar (gattMember (.gatt object)) buffer options a

def gattlibWriteCharByUuid (l : Lookup) (buffer : List UInt8) (a : Answers) : Effect :=
  writeByUuid bluezGattWriteValueTypeWriteWithResponse l buffer a

def gattlibWriteWithoutResponseCharByUuid (l : Lookup) (buffer : List UInt8) (a : Answers) :
    Effect :=
  writeByUuid bluezGattWriteValueTypeWriteWithoutResponse l buffer a

/-- The type of what has been found is not looked at. -/
def gattlibWriteCharByUuidStreamOpen (l : Lookup) (a : Answers) : Effect :=
  let calls := [⟨gattMember l.found, .acquireWrite⟩]
  match a.acquireWrite with
  | .error error => { ret := gattlibErrorDbusWithError error, calls }
  | .ok mtu =>
    match a.fd with
    | .error error => { ret := gattlibErrorDbusWithError error, calls }
    | .ok fd => { ret := gattlibSuccess, calls, stream := some (fd, mtu) }

/-- The calls of `connect_signal_to_characteristic_uuid`, whatever the callback. -/
def connectSignal (l : Lookup) (a : Answers) : Effect :=
  if gattlibConnectionIsConnected l.world l.connection = false then
    { ret := gattlibInvalidParameter }
  else
    match l.found with
    | .none => { ret := gattlibNotFound }
    | .batteryLevel _ => { ret := gattlibSuccess }
    | .gatt object =>
      if a.signal = false then { ret := gattlibErrorDbus }
      else if a.calloc = false then { ret := gattlibOutOfMemory }
      else
        let calls := [⟨gattMember (.gatt object), .startNotify⟩]
        match a.startNotify with
        | some error => { ret := gattlibErrorDbusWithError error, calls }
        | none => { ret := gattlibSuccess, calls }

def gattlibNotificationStart (l : Lookup) (a : Answers) : Effect := connectSignal l a

def gattlibIndicationStart (l : Lookup) (a : Answers) : Effect := connectSignal l a

inductive Operation
  | readCharByUuid
  | readCharByUuidAsync
  | writeCharByUuid (buffer : List UInt8)
  | writeWithoutResponseCharByUuid (buffer : List UInt8)
  | writeCharByUuidStreamOpen
  | notificationStart
  | indicationStart
  deriving DecidableEq

def perform (l : Lookup) (a : Answers) : Operation → Effect
  | .readCharByUuid => gattlibReadCharByUuid l a
  | .readCharByUuidAsync => gattlibReadCharByUuidAsync l a
  | .writeCharByUuid buffer => gattlibWriteCharByUuid l buffer a
  | .writeWithoutResponseCharByUuid buffer => gattlibWriteWithoutResponseCharByUuid l buffer a
  | .writeCharByUuidStreamOpen => gattlibWriteCharByUuidStreamOpen l a
  | .notificationStart => gattlibNotificationStart l a
  | .indicationStart => gattlibIndicationStart l a

/-- Calls are made on the characteristic that has been found and on nothing else. If
nothing has been found there is an error and no call. -/
structure RespectsLookup (found : DbusCharacteristic) (e : Effect) : Prop where
  gatt : ∀ issued ∈ e.calls, ∃ object, found = .gatt object ∧
    issued.proxy = .characteristic object
  nothing : found = .none → e.ret ≠ gattlibSuccess ∧ e.calls = []
  battery : ∀ object, found = .batteryLevel object →
    ∀ issued ∈ e.calls, issued.proxy ≠ .battery object

section

variable {l : Lookup} {a : Answers} {found : DbusCharacteristic} {e : Effect}

theorem respects_quiet (hcalls : e.calls = []) (hret : found = .none → e.ret ≠ gattlibSuccess) :
    RespectsLookup found e := by
  have hnot : ∀ issued, issued ∉ e.calls := by simp [hcalls]
  exact ⟨fun issued hissued => absurd hissued (hnot issued), fun hfound => ⟨hret hfound, hcalls⟩,
    fun _ _ issued hissued => absurd hissued (hnot issued)⟩

theorem respects_gatt {object : BluezObject}
    (h : ∀ issued ∈ e.calls, issued.proxy = .characteristic object) :
    RespectsLookup (.gatt object) e :=
  ⟨fun issued hissued => ⟨object, rfl, h issued hissued⟩, by simp, by simp⟩

theorem readGattCharacteristic_calls (proxy : Pointer) (a : Answers) :
    (readGattCharacteristic proxy a).calls = [⟨proxy, .readValue⟩] := by
  unfold readGattCharacteristic
  cases a.readValue with
  | error error => rfl
  | ok value =>
    dsimp only
    split_ifs <;> rfl

theorem readBatteryLevel_calls (a : Answers) : (readBatteryLevel a).calls = [] := by
  unfold readBatteryLevel
  split_ifs <;> rfl

theorem writeChar_calls (proxy : Pointer) (buffer : List UInt8) (options : BitVec 32)
    (a : Answers) : ∃ command, (writeChar proxy buffer options a).calls =
      [⟨proxy, .writeValue buffer command⟩] := by
  refine ⟨options &&& bluezGattWriteValueTypeMask =
    bluezGattWriteValueTypeWriteWithoutResponse, ?_⟩
  unfold writeChar
  cases a.writeValue with
  | none => rfl
  | some error =>
    dsimp only
    split_ifs <;> rfl

theorem read_respects : RespectsLookup l.found (gattlibReadCharByUuid l a) := by
  unfold gattlibReadCharByUuid
  cases l.found with
  | none => exact respects_quiet rfl (fun _ => notFound_ne_success)
  | batteryLevel object => exact respects_quiet (readBatteryLevel_calls a) (by simp)
  | gatt object =>
    refine respects_gatt (fun issued hissued => ?_)
    rw [readGattCharacteristic_calls] at hissued
    rw [List.mem_singleton.mp hissued]
    rfl

theorem readAsync_respects : RespectsLookup l.found (gattlibReadCharByUuidAsync l a) := by
  unfold gattlibReadCharByUuidAsync
  cases l.found with
  | none => exact respects_quiet rfl (fun _ => notFound_ne_success)
  | batteryLevel object => exact respects_quiet rfl (by simp)
  | gatt object =>
    refine respects_gatt (fun issued hissued => ?_)
    cases hread : a.readValue with
    | error error =>
      rw [hread] at hissued
      rw [List.mem_singleton.mp hissued]
      rfl
    | ok value =>
      rw [hread] at hissued
      rw [List.mem_singleton.mp hissued]
      rfl

theorem write_respects (options : BitVec 32) (buffer : List UInt8) :
    RespectsLookup l.found (writeByUuid options l buffer a) := by
  unfold writeByUuid
  cases l.found with
  | none => exact respects_quiet rfl (fun _ => notFound_ne_success)
  | batteryLevel object => exact respects_quiet rfl (by simp)
  | gatt object =>
    refine respects_gatt (fun issued hissued => ?_)
    obtain ⟨command, hcalls⟩ := writeChar_calls (gattMember (.gatt object)) buffer options a
    rw [hcalls] at hissued
    rw [List.mem_singleton.mp hissued]
    rfl

theorem connectSignal_respects : RespectsLookup l.found (connectSignal l a) := by
  unfold connectSignal
  by_cases hconnected : gattlibConnectionIsConnected l.world l.connection = false
  · rw [if_pos hconnected]
    exact respects_quiet rfl (fun _ => invalidParameter_ne_success)
  · rw [if_neg hconnected]
    cases l.found with
    | none => exact respects_quiet rfl (fun _ => notFound_ne_success)
    | batteryLevel object => exact respects_quiet rfl (by simp)
    | gatt object =>
      refine respects_gatt (fun issued hissued => ?_)
      dsimp only at hissued
      by_cases hsignal : a.signal = false
      · rw [if_pos hsignal] at hissued
        cases hissued
      rw [if_neg hsignal] at hissued
      by_cases hcalloc : a.calloc = false
      · rw [if_pos hcalloc] at hissued
        cases hissued
      rw [if_neg hcalloc] at hissued
      cases hstart : a.startNotify with
      | none =>
        rw [hstart] at hissued
        rw [List.mem_singleton.mp hissued]
        rfl
      | some error =>
        rw [hstart] at hissued
        rw [List.mem_singleton.mp hissued]
        rfl

theorem streamOpen_calls (l : Lookup) (a : Answers) :
    (gattlibWriteCharByUuidStreamOpen l a).calls = [⟨gattMember l.found, .acquireWrite⟩] := by
  unfold gattlibWriteCharByUuidStreamOpen
  cases a.acquireWrite with
  | error error => rfl
  | ok mtu =>
    cases a.fd with
    | error error => rfl
    | ok fd => rfl

theorem streamOpen_respects : RespectsLookup l.found (gattlibWriteCharByUuidStreamOpen l a) ↔
    ∃ object, l.found = .gatt object := by
  constructor
  · intro h
    have hissued : ⟨gattMember l.found, .acquireWrite⟩ ∈
        (gattlibWriteCharByUuidStreamOpen l a).calls := by
      rw [streamOpen_calls]
      exact List.mem_singleton_self _
    obtain ⟨object, hobject, _⟩ := h.gatt _ hissued
    exact ⟨object, hobject⟩
  · rintro ⟨object, hobject⟩
    rw [hobject]
    refine respects_gatt (fun issued hissued => ?_)
    rw [streamOpen_calls] at hissued
    rw [List.mem_singleton.mp hissued, hobject]
    rfl

/-- The start of a subscription returns the same as where its bookkeeping is modelled. -/
theorem connectSignal_ret (s : Notified) (hs : s.world = l.world) (kind : Kind)
    (number : BluezObject → Nat) :
    (connectSignalToCharacteristicUuid s l.connection l.uuid kind
      { characteristic := match l.found with
          | .none => .none
          | .gatt object => .gatt (number object)
          | .batteryLevel object => .batteryLevel (number object)
        signal := a.signal
        calloc := a.calloc
        startNotify := a.startNotify }).1 = (connectSignal l a).ret := by
  unfold connectSignalToCharacteristicUuid connectSignal
  rw [hs]
  by_cases hconnected : gattlibConnectionIsConnected l.world l.connection = false
  · rw [if_pos hconnected, if_pos hconnected]
  · rw [if_neg hconnected, if_neg hconnected]
    cases l.found with
    | none => rfl
    | batteryLevel object => rfl
    | gatt object =>
      cases a.signal with
      | false => rfl
      | true =>
        cases a.calloc with
        | false => rfl
        | true =>
          cases a.startNotify with
          | none => rfl
          | some error => rfl

end

/-- Every operation makes its calls on the characteristic that has been found, except that
a stream is opened whatever has been found. -/
theorem respects_iff (l : Lookup) (a : Answers) (op : Operation) :
    RespectsLookup l.found (perform l a op) ↔
      (op = .writeCharByUuidStreamOpen → ∃ object, l.found = .gatt object) := by
  cases op with
  | readCharByUuid => exact iff_of_true read_respects (by simp)
  | readCharByUuidAsync => exact iff_of_true readAsync_respects (by simp)
  | writeCharByUuid buffer => exact iff_of_true (write_respects _ buffer) (by simp)
  | writeWithoutResponseCharByUuid buffer => exact iff_of_true (write_respects _ buffer) (by simp)
  | writeCharByUuidStreamOpen =>
    rw [perform, streamOpen_respects]
    exact ⟨fun h _ => h, fun h => h rfl⟩
  | notificationStart => exact iff_of_true connectSignal_respects (by simp)
  | indicationStart => exact iff_of_true connectSignal_respects (by simp)

/-- The battery level of a connected device that has only a battery. -/
def batteryLookup (w : World) : Lookup :=
  ⟨w, 0, ⟨devicePath, [batteryOf devicePath]⟩, stackZero, none, mBatteryLevelUuid⟩

def streamOpened : Answers where
  malloc := true
  percentage := 50
  readValue := .ok []
  writeValue := none
  acquireWrite := .ok 23
  fd := .ok 3
  signal := true
  calloc := true
  startNotify := none

/-- A stream is opened on a battery. -/
theorem battery_streamed : ¬∀ (l : Lookup) (a : Answers) (op : Operation),
    RespectsLookup l.found (perform l a op) := by
  intro h
  have hfound : ∃ w, exec deviceStep opened resolvedEvents = some w ∧
      (batteryLookup w).found = .batteryLevel (batteryOf devicePath) :=
    ⟨_, rfl, by decide⟩
  obtain ⟨w, _, hbattery⟩ := hfound
  have hstream : RespectsLookup (batteryLookup w).found
      (gattlibWriteCharByUuidStreamOpen (batteryLookup w) streamOpened) :=
    h (batteryLookup w) streamOpened .writeCharByUuidStreamOpen
  obtain ⟨object, hobject⟩ := streamOpen_respects.mp hstream
  rw [hbattery] at hobject
  cases hobject

end Gattlib.CharacteristicOperations
