import Gattlib.ObjectPaths
import Mathlib.Order.Bounds.Basic

namespace Gattlib.ServiceRanges

open Library.Memory Library.Text Gattlib.Strings Gattlib.State Gattlib.Registry Gattlib.Connection
open Gattlib.Events Gattlib.Adapters Gattlib.DevicePaths Gattlib.BluezObjects
open Gattlib.PrimaryServices Gattlib.ObjectPaths

/-- The paths of the services and the characteristics are those of BlueZ. -/
structure BluezFormat (objects : List BluezObject) : Prop where
  services : ∀ object ∈ objects, hasInterface object.gattService1 = true →
    ServicePath object.path.bytes
  characteristics : ∀ object ∈ objects, hasInterface object.gattCharacteristic1 = true →
    CharacteristicPath object.path.bytes

/-- A characteristic directly under the path of a service. -/
def Under (service object : BluezObject) : Prop :=
  hasInterface object.gattCharacteristic1 = true ∧
    ∃ digits, FourDigits digits ∧ object.path.bytes = service.path.bytes ++ slashChar ++ digits

/-- The handles of a service: its own, and those of its characteristics. -/
def handlesOf (objects : List BluezObject) (service : BluezObject) : Set Nat :=
  {n | handleOf service.path = some n ∨
    ∃ object ∈ objects, Under service object ∧ handleOf object.path = some n}

/-- The handle range of an entry is that of its service. -/
structure Ranged (objects : List BluezObject) (service : BluezObject)
    (entry : GattlibPrimaryService) : Prop where
  first : handleOf service.path = some entry.attrHandleStart.toNat
  last : IsGreatest (handlesOf objects service) entry.attrHandleEnd.toNat
  ordered : entry.attrHandleStart ≤ entry.attrHandleEnd

def InRange (entry : GattlibPrimaryService) (n : Nat) : Prop :=
  entry.attrHandleStart.toNat ≤ n ∧ n ≤ entry.attrHandleEnd.toNat

/-- Every characteristic of the service lies in the range. -/
def Encloses (objects : List BluezObject) (service : BluezObject)
    (entry : GattlibPrimaryService) : Prop :=
  ∀ object ∈ objects, Under service object → ∀ n ∈ handleOf object.path, InRange entry n

/-- Every one does whose handle is not below that of the service. -/
def EnclosesAbove (objects : List BluezObject) (service : BluezObject)
    (entry : GattlibPrimaryService) : Prop :=
  ∀ object ∈ objects, Under service object → ∀ n ∈ handleOf object.path,
    InRange entry n ↔ ∀ start ∈ handleOf service.path, start ≤ n

/-- The call gives each primary service of the device one entry, the same in whichever
order the objects are. -/
def Discovers (w : World) (connection : Option Nat) (b : GattBackend) (o : PrimaryOutcome)
    (good : BluezObject → GattlibPrimaryService → Prop) : Prop :=
  ∃ entry, (∀ service ∈ primaries b, good service (entry service)) ∧
    ∀ objects, objects.Perm b.dbusObjects →
      ∃ r, (gattlibDiscoverPrimary w connection { b with dbusObjects := objects } o).1 = r ∧
        r.ret = gattlibSuccess ∧ InBounds r ∧
        r.stored = some ⟨some ((primaries { b with dbusObjects := objects }).map entry),
          (primaries b).length⟩

section

variable {w : World} {connection : Option Nat} {b : GattBackend} {o : PrimaryOutcome}
variable {objects : List BluezObject} {service object : BluezObject} {n : Nat}

/-! The running maximum -/

theorem foldl_max_greatest (ns : List Nat) (first : Nat) :
    IsGreatest {n | n = first ∨ n ∈ ns} (ns.foldl max first) := by
  induction ns generalizing first with
  | nil => exact ⟨Or.inl rfl, fun n hn => Nat.le_of_eq (hn.resolve_right List.not_mem_nil)⟩
  | cons k ns ih =>
    obtain ⟨hmem, hbound⟩ := ih (max first k)
    rw [List.foldl_cons]
    refine ⟨?_, fun n hn => ?_⟩
    · obtain hmax | hrest := hmem
      · obtain hle | hle := Nat.le_total first k
        · rw [hmax, Nat.max_eq_right hle]
          exact Or.inr List.mem_cons_self
        · rw [hmax, Nat.max_eq_left hle]
          exact Or.inl rfl
      · exact Or.inr (List.mem_cons_of_mem k hrest)
    · have hstart : max first k ≤ ns.foldl max (max first k) := hbound (Or.inl rfl)
      obtain rfl | hn := hn
      · exact Nat.le_trans (Nat.le_max_left _ _) hstart
      · obtain rfl | hn := List.mem_cons.mp hn
        · exact Nat.le_trans (Nat.le_max_right _ _) hstart
        · exact hbound (Or.inr hn)

/-- What the loop over the characteristics takes for one of the service. -/
def takesFor (path : CString) (object : BluezObject) : Bool :=
  hasInterface object.gattCharacteristic1 && path.bytes.isPrefixOf object.path.bytes

/-- One characteristic of the loop, in 16 bits. -/
theorem attrHandle_max {last : BitVec 16} (hn : n < 65536) :
    (if BitVec.ofNat 32 n < last.setWidth 32 then last else (BitVec.ofNat 32 n).setWidth 16).toNat =
      max last.toNat n := by
  have hlast := last.isLt
  have hiff : BitVec.ofNat 32 n < last.setWidth 32 ↔ n < last.toNat := by
    rw [BitVec.lt_def, BitVec.toNat_ofNat, BitVec.toNat_setWidth]
    omega
  by_cases hlt : n < last.toNat
  · rw [if_pos (hiff.mpr hlt), Nat.max_eq_left (Nat.le_of_lt hlt)]
  · rw [if_neg (fun h => hlt (hiff.mp h)), BitVec.toNat_setWidth, BitVec.toNat_ofNat]
    omega

theorem attrHandleEnd_cons (object : BluezObject) (objects : List BluezObject) (path : CString)
    (start : BitVec 16) :
    attrHandleEnd (object :: objects) path start =
      attrHandleEnd objects path (if takesFor path object then
        if pathHandle object.path (start.setWidth 32) < start.setWidth 32 then start
        else (pathHandle object.path (start.setWidth 32)).setWidth 16
      else start) := rfl

/-- The handles of what the loop takes, in its order. -/
def takenHandles (objects : List BluezObject) (path : CString) : List Nat :=
  (objects.filter (takesFor path)).filterMap (fun object => handleOf object.path)

theorem attrHandleEnd_max (path : CString) (start : BitVec 16)
    (h : ∀ object ∈ objects, takesFor path object = true → ∃ n, handleOf object.path = some n) :
    (attrHandleEnd objects path start).toNat = (takenHandles objects path).foldl max start.toNat := by
  induction objects generalizing start with
  | nil => rfl
  | cons object objects ih =>
    have hrest := fun start => ih start (fun x hx => h x (List.mem_cons_of_mem object hx))
    rw [attrHandleEnd_cons, hrest]
    unfold takenHandles
    rw [List.filter_cons]
    cases ht : takesFor path object with
    | false => rfl
    | true =>
      obtain ⟨n, hn⟩ := h object List.mem_cons_self ht
      rw [if_pos rfl, if_pos rfl, List.filterMap_cons, hn, pathHandle_eq hn,
        attrHandle_max (handleOf_lt hn)]
      rfl

theorem characteristic_handle (h : CharacteristicPath object.path.bytes) :
    ∃ n, handleOf object.path = some n := by
  obtain ⟨service, digits, _, hd, he⟩ := h
  exact fourDigits_handle hd he

theorem service_handle (h : ServicePath object.path.bytes) :
    ∃ n, handleOf object.path = some n := by
  obtain ⟨device, digits, _, hd, he⟩ := h
  exact fourDigits_handle hd he

/-- The prefix test finds the characteristics of the service, and no others. -/
theorem takesFor_iff (hf : BluezFormat objects) (hs : ServicePath service.path.bytes)
    (ho : object ∈ objects) : takesFor service.path object = true ↔ Under service object := by
  unfold takesFor
  rw [Bool.and_eq_true, List.isPrefixOf_iff_prefix]
  constructor
  · rintro ⟨hchar, hprefix⟩
    obtain ⟨owner, digits, howner, hd, he⟩ := hf.characteristics object ho hchar
    rw [he] at hprefix
    rw [← prefix_own hs howner hprefix] at he
    exact ⟨hchar, digits, hd, he⟩
  · rintro ⟨hchar, digits, _, he⟩
    refine ⟨hchar, slashChar ++ digits, ?_⟩
    rw [he, List.append_assoc]

theorem attrHandleEnd_greatest (hf : BluezFormat objects) (hs : ServicePath service.path.bytes)
    {start : BitVec 16} (hstart : handleOf service.path = some start.toNat) :
    IsGreatest (handlesOf objects service) (attrHandleEnd objects service.path start).toNat := by
  have hhandles : ∀ object ∈ objects, takesFor service.path object = true →
      ∃ n, handleOf object.path = some n := by
    intro object ho ht
    exact characteristic_handle
      (hf.characteristics object ho ((takesFor_iff hf hs ho).mp ht).1)
  rw [attrHandleEnd_max service.path start hhandles]
  have hset : handlesOf objects service =
      {n | n = start.toNat ∨ n ∈ takenHandles objects service.path} := by
    apply Set.ext
    intro n
    simp only [handlesOf, takenHandles, Set.mem_ofPred_eq, hstart, Option.some.injEq,
      List.mem_filterMap, List.mem_filter]
    apply or_congr eq_comm
    constructor
    · rintro ⟨object, ho, hu, hn⟩
      exact ⟨object, ⟨ho, (takesFor_iff hf hs ho).mpr hu⟩, hn⟩
    · rintro ⟨object, ⟨ho, ht⟩, hn⟩
      exact ⟨object, ho, (takesFor_iff hf hs ho).mp ht, hn⟩
  rw [hset]
  exact foldl_max_greatest _ _

/-! The entries -/

def entryOf (b : GattBackend) (object : BluezObject) : GattlibPrimaryService :=
  match primaryOf b object with
  | none => ⟨0, 0, .other 0⟩
  | some service => fillService b object service

theorem serviceLoop_entries (b : GattBackend) (objects : List BluezObject) (count : Nat) :
    (serviceLoop b objects count).map Prod.snd =
      (objects.filter (fun object => (primaryOf b object).isSome)).map (entryOf b) := by
  induction objects generalizing count with
  | nil => rfl
  | cons object objects ih =>
    rw [serviceLoop, List.filter_cons]
    cases hp : primaryOf b object with
    | none => exact ih count
    | some service =>
      have hentry : entryOf b object = fillService b object service := by rw [entryOf, hp]
      rw [if_pos Option.isSome_some, List.map_cons, List.map_cons, ih, hentry]

/-- A call that gets as far as the loop stores the entries of the primary services. -/
theorem discover_stored {uuids : List CString} (hreach : reachesLoop w connection o = true)
    (huuids : o.uuids = some uuids) :
    ∃ r, (gattlibDiscoverPrimary w connection b o).1 = r ∧ r.ret = gattlibSuccess ∧
      r.writes = serviceLoop b b.dbusObjects 0 ∧ r.countMax = uuids.length ∧
      r.stored = some ⟨some ((primaries b).map (entryOf b)), (primaries b).length⟩ := by
  unfold reachesLoop at hreach
  rw [Bool.and_eq_true, Option.any_eq_true] at hreach
  obtain ⟨⟨connection, rfl, hvalid⟩, hcalloc⟩ := hreach
  rw [Bool.and_eq_true, Option.any_eq_true] at hvalid
  obtain ⟨hvalid, device, hdevice, hmanager⟩ := hvalid
  have hentries := serviceLoop_entries b b.dbusObjects 0
  have hlength := congrArg List.length hentries
  rw [List.length_map, List.length_map] at hlength
  unfold gattlibDiscoverPrimary
  dsimp only
  rw [hvalid, if_neg (by decide), hdevice]
  obtain ⟨manager, w', hfound⟩ := manager_found hmanager
  dsimp only
  rw [hfound]
  dsimp only
  rw [huuids]
  dsimp only
  rw [hcalloc, if_pos rfl]
  refine ⟨_, rfl, rfl, rfl, rfl, ?_⟩
  rw [hentries, hlength]
  rfl

/-- The device of an object does not depend on the others. -/
theorem primaries_perm (h : objects.Perm b.dbusObjects) :
    (primaries { b with dbusObjects := objects }).Perm (primaries b) := h.filter _

theorem format_perm {objects' : List BluezObject} (hf : BluezFormat objects)
    (h : objects'.Perm objects) : BluezFormat objects' :=
  ⟨fun object ho => hf.services object (h.mem_iff.mp ho),
    fun object ho => hf.characteristics object (h.mem_iff.mp ho)⟩

theorem primary_service (h : service ∈ primaries b) :
    service ∈ b.dbusObjects ∧ hasInterface service.gattService1 = true ∧
      ∃ s, primaryOf b service = some s := by
  obtain ⟨hm, hp⟩ := List.mem_filter.mp h
  obtain ⟨s, hs⟩ := Option.isSome_iff_exists.mp hp
  refine ⟨hm, ?_, s, hs⟩
  rw [primaryOf, Option.filter_eq_some_iff] at hs
  cases hi : service.gattService1 with
  | absent | closed =>
    rw [hi] at hs
    cases hs.1
  | opened proxy => rfl

theorem fill_start {s : GattService1} (hs : ServicePath service.path.bytes) :
    handleOf service.path = some (fillService b service s).attrHandleStart.toNat := by
  obtain ⟨n, hn⟩ := service_handle hs
  have hlt := handleOf_lt hn
  rw [hn, fillService, pathHandle_eq hn, BitVec.toNat_setWidth, BitVec.toNat_ofNat]
  congr 1
  omega

theorem entry_ranged (hf : BluezFormat b.dbusObjects) (h : service ∈ primaries b) :
    Ranged b.dbusObjects service (entryOf b service) := by
  obtain ⟨hm, hi, s, hs⟩ := primary_service h
  have hpath := hf.services service hm hi
  have hstart := fill_start (b := b) (s := s) hpath
  have hlast := attrHandleEnd_greatest hf hpath hstart
  have hentry : entryOf b service = fillService b service s := by rw [entryOf, hs]
  rw [hentry]
  exact ⟨hstart, hlast, hlast.2 (Or.inl hstart)⟩

/-- The same entry from the same objects in another order. -/
theorem entry_perm (hf : BluezFormat b.dbusObjects) (hp : objects.Perm b.dbusObjects)
    (h : service ∈ primaries b) :
    entryOf { b with dbusObjects := objects } service = entryOf b service := by
  obtain ⟨hm, hi, s, hs⟩ := primary_service h
  have hpath := hf.services service hm hi
  have hstart := fill_start (b := b) (s := s) hpath
  have hset : handlesOf objects service = handlesOf b.dbusObjects service := by
    apply Set.ext
    intro n
    simp only [handlesOf, Set.mem_ofPred_eq, hp.mem_iff]
  have hlast := attrHandleEnd_greatest (format_perm hf hp) hpath hstart
  rw [hset] at hlast
  have hend := hlast.unique (attrHandleEnd_greatest hf hpath hstart)
  have hs' : primaryOf { b with dbusObjects := objects } service = some s := hs
  rw [entryOf, hs', entryOf, hs]
  dsimp only [fillService]
  congr 1
  exact BitVec.eq_of_toNat_eq hend

theorem entry_encloses (h : Ranged b.dbusObjects service (entryOf b service)) :
    EnclosesAbove b.dbusObjects service (entryOf b service) := by
  intro object ho hu n hn
  rw [h.first]
  constructor
  · rintro ⟨hlow, _⟩ start hstart
    cases hstart
    exact hlow
  · intro hlow
    exact ⟨hlow _ rfl, h.last.2 (Or.inr ⟨object, ho, hu, hn⟩)⟩

end

/-- The ranges of the primary services, for all objects in the format of BlueZ in any order. -/
theorem ranges_discovered (w : World) (connection : Option Nat) (b : GattBackend)
    (o : PrimaryOutcome) (uuids : List CString) (hreach : reachesLoop w connection o = true)
    (huuids : o.uuids = some uuids) (hlarge : (primaries b).length ≤ uuids.length)
    (hf : BluezFormat b.dbusObjects) :
    Discovers w connection b o (fun service entry =>
      Ranged b.dbusObjects service entry ∧ EnclosesAbove b.dbusObjects service entry) := by
  refine ⟨entryOf b, fun service hs => ?_, fun objects hp => ?_⟩
  · have hranged := entry_ranged hf hs
    exact ⟨hranged, entry_encloses hranged⟩
  · have hlength := (primaries_perm hp).length_eq
    obtain ⟨r, hr, hret, hwrites, hmax, hstored⟩ :=
      discover_stored (b := { b with dbusObjects := objects }) hreach huuids
    have hentries : (primaries { b with dbusObjects := objects }).map
        (entryOf { b with dbusObjects := objects }) =
        (primaries { b with dbusObjects := objects }).map (entryOf b) :=
      List.map_congr_left (fun service hs => entry_perm hf hp ((primaries_perm hp).mem_iff.mp hs))
    refine ⟨r, hr, hret, ?_, ?_⟩
    · unfold InBounds
      rw [hwrites, hmax]
      exact (serviceLoop_bounded { b with dbusObjects := objects } uuids.length).mpr
        (hlength ▸ hlarge)
    · rw [hstored, hentries, hlength]

/-- "/org/bluez/hci0/dev_D" -/
def deviceBytes : List UInt8 := orgBluez ++ hci0.bytes ++ slashDev ++ [68]

def service0020 : BluezObject where
  path := ⟨deviceBytes ++ slashService ++ [48, 48, 50, 48], by decide⟩
  gattService1 := .opened ⟨some ⟨deviceBytes, by decide⟩, true, humanInterface⟩
  gattCharacteristic1 := .absent
  battery1 := .absent

/-- A characteristic in front of its service -/
def char0010 : BluezObject where
  path := ⟨deviceBytes ++ slashService ++ [48, 48, 50, 48] ++ slashChar ++ [48, 48, 49, 48], by decide⟩
  gattService1 := .absent
  gattCharacteristic1 := .opened ⟨some humanInterface, some ⟨deviceBytes, by decide⟩⟩
  battery1 := .absent

def twoObjects : GattBackend := ⟨⟨deviceBytes, by decide⟩, [service0020, char0010]⟩

def oneUuid : PrimaryOutcome := ⟨some 1, none, some [humanInterface], true⟩

theorem service0020_path : ServicePath service0020.path.bytes :=
  ⟨deviceBytes, [48, 48, 50, 48], ⟨hci0.bytes, [68], by decide, by decide, rfl⟩,
    ⟨rfl, by decide⟩, rfl⟩

theorem twoObjects_format : BluezFormat twoObjects.dbusObjects := by
  constructor
  · intro object ho hs
    obtain rfl | ho := List.mem_cons.mp ho
    · exact service0020_path
    · rw [List.mem_singleton.mp ho] at hs
      cases hs
  · intro object ho hc
    obtain rfl | ho := List.mem_cons.mp ho
    · cases hc
    · rw [List.mem_singleton.mp ho]
      exact ⟨_, [48, 48, 49, 48], service0020_path, ⟨rfl, by decide⟩, rfl⟩

theorem ranges_discovered_two : Discovers discovered (some 0) twoObjects oneUuid
    (fun service entry => Ranged twoObjects.dbusObjects service entry ∧
      EnclosesAbove twoObjects.dbusObjects service entry) :=
  ranges_discovered discovered (some 0) twoObjects oneUuid [humanInterface] (by decide) rfl
    (by decide) twoObjects_format

/-- char0010 of service0020 is not in the range of its service. -/
theorem characteristic_below : ¬∀ (w : World) (connection : Option Nat) (b : GattBackend)
    (o : PrimaryOutcome) (uuids : List CString), reachesLoop w connection o = true →
    o.uuids = some uuids → (primaries b).length ≤ uuids.length → BluezFormat b.dbusObjects →
    Discovers w connection b o (fun service entry =>
      Ranged b.dbusObjects service entry ∧ Encloses b.dbusObjects service entry) := by
  intro h
  obtain ⟨entry, hgood, _⟩ := h discovered (some 0) twoObjects oneUuid [humanInterface]
    (by decide) rfl (by decide) twoObjects_format
  obtain ⟨hranged, hencloses⟩ := hgood service0020 (by decide)
  have hunder : Under service0020 char0010 := ⟨rfl, [48, 48, 49, 48], ⟨rfl, by decide⟩, rfl⟩
  have hin := hencloses char0010 (by decide) hunder 16 (by decide)
  have hstart : handleOf service0020.path = some 32 := by decide
  have hfirst := hranged.first
  rw [hstart, Option.some.injEq] at hfirst
  have hle := hin.1
  omega

end Gattlib.ServiceRanges
