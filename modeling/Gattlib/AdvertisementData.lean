import Gattlib.State
import Gattlib.UuidText

namespace Gattlib.AdvertisementData

open Gattlib.Strings Gattlib.State Gattlib.Uuids Gattlib.UuidText

/-- `gattlib_manufacturer_data_t`. NULL is `none`. -/
structure GattlibManufacturerData where
  manufacturerId : BitVec 16
  data : Option (List UInt8)
  dataSize : Nat

/-- `gattlib_advertisement_data_t` -/
structure GattlibAdvertisementData where
  uuid : Uuid
  data : Option (List UInt8) := none
  dataLength : Nat := 0

/-- The properties of a BlueZ device that are read, each `none` if it is not set. -/
structure Device1 where
  manufacturerData : Option (List (BitVec 16 × List UInt8))
  serviceData : Option (List (CString × List UInt8))
  uuids : Option (List CString)

/-- Which allocations succeed: the arrays, and the data of each of their entries. -/
structure Allocations where
  manufacturer : Bool
  manufacturerData : Nat → Bool
  service : Bool
  serviceData : Nat → Bool
  fallback : Bool

/-- What is returned, and what has been stored. A count that is not written is `none`. -/
structure Advertisement where
  ret : Ret
  manufacturerData : List GattlibManufacturerData := []
  manufacturerDataCount : Nat := 0
  advertisementData : List GattlibAdvertisementData := []
  advertisementDataCount : Option Nat := none

/-- `g_variant_get(value, "y", address)` for a byte of the data that is taken for an address.
Nothing is stored through NULL, and any other byte is not an address. -/
def gVariantGet (data : List UInt8) (address _value : UInt8) : Option (List UInt8) :=
  if address = 0 then some data else none

/-- The loop over the bytes of an entry, with `index`. -/
def copyLoop (data : List UInt8) : List UInt8 → Nat → Option (List UInt8)
  | [], _ => some data
  | value :: values, index =>
    (gVariantGet data (data.getD index 0) value).bind (fun data => copyLoop data values (index + 1))

/-- The entries that are filled, and whether there was memory for all of them. -/
def manufacturerLoop (calloc : Nat → Bool) : List (BitVec 16 × List UInt8) → Nat →
    Option (List GattlibManufacturerData × Bool)
  | [], _ => some ([], true)
  | (id, values) :: dict, i =>
    if calloc i then
      (copyLoop (List.replicate values.length 0) values 0).bind (fun data =>
        (manufacturerLoop calloc dict (i + 1)).map (fun r =>
          (⟨id, some data, values.length⟩ :: r.1, r.2)))
    else some ([⟨id, none, values.length⟩], false)

/-- The entries have been zeroed, and a text that is not a UUID leaves its entry so. -/
def entryUuid (key : CString) : Uuid :=
  match gattlibStringToUuid key.bytes key.bytes.length with
  | .error _ => .other 0
  | .ok uuid => uuid

/-- GLib gives NULL for an array without elements. -/
def serviceLoop (malloc : Nat → Bool) : List (CString × List UInt8) → Nat →
    List GattlibAdvertisementData × Bool
  | [], _ => ([], true)
  | (key, value) :: dict, index =>
    if value = [] then
      let r := serviceLoop malloc dict (index + 1)
      ({ uuid := entryUuid key } :: r.1, r.2)
    else if malloc index then
      let r := serviceLoop malloc dict (index + 1)
      (⟨entryUuid key, some value, value.length⟩ :: r.1, r.2)
    else ([{ uuid := entryUuid key }], false)

/-- Without service data the first UUID of the device makes an entry. -/
def firstUuid (r : Advertisement) (uuids : Option (List CString)) (calloc : Bool) :
    Advertisement :=
  match uuids with
  | none | some [] => { r with advertisementDataCount := some 0 }
  | some (text :: _) =>
    if text.bytes = [] then { r with advertisementDataCount := some 0 }
    else
      match gattlibStringToUuid text.bytes text.bytes.length with
      | .error _ => { r with advertisementDataCount := some 0 }
      | .ok uuid =>
        if calloc then
          { r with advertisementData := [{ uuid }], advertisementDataCount := some 1 }
        else { r with ret := gattlibOutOfMemory, advertisementDataCount := some 0 }

def serviceStage (r : Advertisement) (d : Device1) (a : Allocations) : Advertisement :=
  match d.serviceData with
  | none => firstUuid r d.uuids a.fallback
  | some dict =>
    if a.service then
      let (entries, complete) := serviceLoop a.serviceData dict 0
      { r with
        ret := if complete then gattlibSuccess else gattlibOutOfMemory
        advertisementData := if complete then entries else []
        advertisementDataCount := some dict.length }
    else { r with ret := gattlibOutOfMemory, advertisementDataCount := some dict.length }

/-- `given` says whether `advertisement_data` is not NULL. The function crashes where it
stores through what is not an address. -/
def getAdvertisementDataFromDevice (d : Device1) (given : Bool) (a : Allocations) :
    Option Advertisement :=
  if given = false then some { ret := gattlibInvalidParameter }
  else
    match d.manufacturerData with
    | none => some (serviceStage { ret := gattlibSuccess } d a)
    | some dict =>
      if a.manufacturer then
        (manufacturerLoop a.manufacturerData dict 0).map (fun (entries, complete) =>
          let r : Advertisement :=
            { ret := if complete then gattlibSuccess else gattlibOutOfMemory
              manufacturerData := entries
              manufacturerDataCount := dict.length }
          if complete then serviceStage r d a else r)
      else some { ret := gattlibOutOfMemory, manufacturerDataCount := dict.length }

/-- The bytes of an entry. NULL has none. -/
def bytesOf (data : Option (List UInt8)) : List UInt8 := data.getD []

/-- An entry holds the id and the bytes of the dictionary entry it comes from. -/
structure ManufacturerDecoded (e : BitVec 16 × List UInt8) (entry : GattlibManufacturerData) :
    Prop where
  id : entry.manufacturerId = e.1
  size : entry.dataSize = e.2.length
  data : bytesOf entry.data = e.2

structure ServiceDecoded (e : CString × List UInt8) (entry : GattlibAdvertisementData) :
    Prop where
  uuid : ∀ uuid, gattlibStringToUuid e.1.bytes e.1.bytes.length = .ok uuid → entry.uuid = uuid
  length : entry.dataLength = e.2.length
  data : bytesOf entry.data = e.2

/-- The call succeeds, with one entry for each entry of the dictionaries, in their order. -/
structure Decoded (d : Device1) (r : Advertisement) : Prop where
  ret : r.ret = gattlibSuccess
  manufacturer : ∀ dict ∈ d.manufacturerData, r.manufacturerDataCount = dict.length ∧
    List.Forall₂ ManufacturerDecoded dict r.manufacturerData
  service : ∀ dict ∈ d.serviceData, r.advertisementDataCount = some dict.length ∧
    List.Forall₂ ServiceDecoded dict r.advertisementData

/-- Every allocation succeeds. -/
structure Allocations.Succeed (a : Allocations) : Prop where
  manufacturer : a.manufacturer = true
  manufacturerData : ∀ i, a.manufacturerData i = true
  service : a.service = true
  serviceData : ∀ i, a.serviceData i = true
  fallback : a.fallback = true

section

variable {d : Device1} {a : Allocations}

/-- Every byte is an address that is NULL, so the data stay as they were allocated. -/
theorem copyLoop_zeros (n : Nat) (values : List UInt8) (index : Nat) :
    copyLoop (List.replicate n 0) values index = some (List.replicate n 0) := by
  induction values generalizing index with
  | nil => rfl
  | cons value values ih =>
    have hzero : (List.replicate n (0 : UInt8)).getD index 0 = 0 := by
      rw [List.getD_eq_getElem?_getD, List.getElem?_replicate]
      split_ifs <;> rfl
    rw [copyLoop, gVariantGet, hzero, if_pos rfl]
    exact ih (index + 1)

/-- An entry as it is left: with the size of its data, which are all zero. -/
def zeroed (e : BitVec 16 × List UInt8) : GattlibManufacturerData :=
  ⟨e.1, some (List.replicate e.2.length 0), e.2.length⟩

theorem manufacturerLoop_zeroed (hcalloc : ∀ i, a.manufacturerData i = true)
    (dict : List (BitVec 16 × List UInt8)) (i : Nat) :
    manufacturerLoop a.manufacturerData dict i = some (dict.map zeroed, true) := by
  induction dict generalizing i with
  | nil => rfl
  | cons e dict ih =>
    obtain ⟨id, values⟩ := e
    rw [manufacturerLoop, if_pos (hcalloc i), copyLoop_zeros, ih]
    rfl

theorem zeroed_decoded (e : BitVec 16 × List UInt8) :
    ManufacturerDecoded e (zeroed e) ↔ ∀ byte ∈ e.2, byte = 0 := by
  constructor
  · intro h byte hbyte
    have hdata : List.replicate e.2.length 0 = e.2 := h.data
    rw [← hdata] at hbyte
    exact List.eq_of_mem_replicate hbyte
  · intro h
    exact ⟨rfl, rfl, (List.eq_replicate_of_mem h).symm⟩

theorem zeroed_all (dict : List (BitVec 16 × List UInt8)) :
    List.Forall₂ ManufacturerDecoded dict (dict.map zeroed) ↔
      ∀ e ∈ dict, ∀ byte ∈ e.2, byte = 0 := by
  rw [List.forall₂_map_right_iff, List.forall₂_same]
  exact forall₂_congr (fun e _ => zeroed_decoded e)

theorem entryUuid_parsed {key : CString} {uuid : Uuid}
    (h : gattlibStringToUuid key.bytes key.bytes.length = .ok uuid) : entryUuid key = uuid := by
  rw [entryUuid, h]

theorem serviceLoop_decoded (hmalloc : ∀ i, a.serviceData i = true)
    (dict : List (CString × List UInt8)) (index : Nat) :
    (serviceLoop a.serviceData dict index).2 = true ∧
      List.Forall₂ ServiceDecoded dict (serviceLoop a.serviceData dict index).1 := by
  induction dict generalizing index with
  | nil => exact ⟨rfl, .nil⟩
  | cons e dict ih =>
    obtain ⟨key, value⟩ := e
    obtain ⟨hcomplete, hdict⟩ := ih (index + 1)
    rw [serviceLoop]
    by_cases hempty : value = []
    · rw [if_pos hempty]
      refine ⟨hcomplete, .cons ⟨fun uuid hu => entryUuid_parsed hu, ?_, ?_⟩ hdict⟩
      · rw [hempty]
        rfl
      · rw [hempty]
        rfl
    · rw [if_neg hempty, if_pos (hmalloc index)]
      exact ⟨hcomplete, .cons ⟨fun uuid hu => entryUuid_parsed hu, rfl, rfl⟩ hdict⟩

theorem firstUuid_keeps (r : Advertisement) (uuids : Option (List CString))
    (hret : r.ret = gattlibSuccess) : (firstUuid r uuids true).ret = gattlibSuccess ∧
      (firstUuid r uuids true).manufacturerData = r.manufacturerData ∧
      (firstUuid r uuids true).manufacturerDataCount = r.manufacturerDataCount := by
  unfold firstUuid
  split
  · exact ⟨hret, rfl, rfl⟩
  · exact ⟨hret, rfl, rfl⟩
  · next text _ =>
    by_cases hempty : text.bytes = []
    · rw [if_pos hempty]
      exact ⟨hret, rfl, rfl⟩
    · rw [if_neg hempty]
      cases gattlibStringToUuid text.bytes text.bytes.length with
      | error _ => exact ⟨hret, rfl, rfl⟩
      | ok uuid => exact ⟨hret, rfl, rfl⟩

/-- The services are decoded, and what has been stored of the manufacturers stays. -/
theorem serviceStage_decoded (ha : a.Succeed) (r : Advertisement) (d : Device1)
    (hret : r.ret = gattlibSuccess) : (serviceStage r d a).ret = gattlibSuccess ∧
      (serviceStage r d a).manufacturerData = r.manufacturerData ∧
      (serviceStage r d a).manufacturerDataCount = r.manufacturerDataCount ∧
      ∀ dict ∈ d.serviceData, (serviceStage r d a).advertisementDataCount = some dict.length ∧
        List.Forall₂ ServiceDecoded dict (serviceStage r d a).advertisementData := by
  unfold serviceStage
  cases hd : d.serviceData with
  | none =>
    rw [ha.fallback]
    obtain ⟨hfirst, hdata, hcount⟩ := firstUuid_keeps r d.uuids hret
    exact ⟨hfirst, hdata, hcount, fun dict hdict => by cases hdict⟩
  | some dict =>
    obtain ⟨hcomplete, hdecoded⟩ := serviceLoop_decoded ha.serviceData dict 0
    dsimp only
    rw [if_pos ha.service, hcomplete]
    refine ⟨rfl, rfl, rfl, fun other hother => ?_⟩
    cases hother
    exact ⟨rfl, hdecoded⟩

end

/-- The data are decoded exactly if every byte of every manufacturer is zero. -/
theorem decoded_iff (d : Device1) (a : Allocations) (ha : a.Succeed) :
    ∃ r, getAdvertisementDataFromDevice d true a = some r ∧
      (Decoded d r ↔ ∀ dict ∈ d.manufacturerData, ∀ e ∈ dict, ∀ byte ∈ e.2, byte = 0) := by
  unfold getAdvertisementDataFromDevice
  rw [if_neg Bool.true_eq_false.mp]
  cases hd : d.manufacturerData with
  | none =>
    refine ⟨_, rfl, iff_of_true ?_ (by simp)⟩
    obtain ⟨hret, _, _, hservice⟩ := serviceStage_decoded ha { ret := gattlibSuccess } d rfl
    refine ⟨hret, fun dict hdict => ?_, hservice⟩
    rw [hd] at hdict
    cases hdict
  | some dict =>
    dsimp only
    rw [if_pos ha.manufacturer, manufacturerLoop_zeroed ha.manufacturerData]
    let stored : Advertisement :=
      { ret := gattlibSuccess
        manufacturerData := dict.map zeroed
        manufacturerDataCount := dict.length }
    refine ⟨serviceStage stored d a, rfl, ?_⟩
    obtain ⟨hret, hdata, hcount, hservice⟩ := serviceStage_decoded ha stored d rfl
    constructor
    · intro h other hother
      obtain rfl := Option.some.inj hother
      have hentries := (h.manufacturer dict hd).2
      rw [hdata] at hentries
      exact (zeroed_all dict).mp hentries
    · intro h
      refine ⟨hret, fun other hother => ?_, hservice⟩
      obtain rfl := Option.some.inj (hd.symm.trans hother)
      refine ⟨hcount, ?_⟩
      rw [hdata]
      exact (zeroed_all dict).mpr (h dict rfl)

def plenty : Allocations := ⟨true, fun _ => true, true, fun _ => true, true⟩

theorem plenty_succeed : plenty.Succeed := ⟨rfl, fun _ => rfl, rfl, fun _ => rfl, rfl⟩

/-- A manufacturer with one byte of data -/
def advertising (byte : UInt8) : Device1 := ⟨some [(76, [byte])], none, none⟩

theorem decoded_iff_zero : ∃ r, getAdvertisementDataFromDevice (advertising 0) true plenty = some r ∧
    Decoded (advertising 0) r := by
  obtain ⟨r, hr, hdecoded⟩ := decoded_iff (advertising 0) plenty plenty_succeed
  exact ⟨r, hr, hdecoded.mpr (by simp [advertising])⟩

/-- The byte of the manufacturer is lost. -/
theorem byte_lost : ¬∀ (d : Device1) (a : Allocations), a.Succeed →
    ∃ r, getAdvertisementDataFromDevice d true a = some r ∧ Decoded d r := by
  intro h
  obtain ⟨r, hr, hdecoded⟩ := h (advertising 2) plenty plenty_succeed
  have hstored : r.manufacturerData = [⟨76, some [0], 1⟩] :=
    congrArg Advertisement.manufacturerData (Option.some.inj hr).symm
  have hentries := (hdecoded.manufacturer _ rfl).2
  rw [hstored] at hentries
  cases hentries with
  | cons hentry _ =>
    have hbytes := hentry.data
    cases hbytes

end Gattlib.AdvertisementData
