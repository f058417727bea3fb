import Gattlib.Library.FirstMatch
import Gattlib.ServiceOrder

namespace Gattlib.DatabaseLayout

open Uuids (BtUuid)
open AttPdus GattDatabase ServiceOrder Library.FirstMatch Library.Transition

/-- The attributes of a service that are there. -/
def present (s : GattDbService) : List GattDbAttribute := s.attributes.filterMap id

def lastHandle (s : GattDbService) : BitVec 16 := ((present s).getLast?.map GattDbAttribute.handle).getD 0

/-- The database has the whole value. -/
structure Held (a : GattDbAttribute) : Prop where
  stored : a.readFunc = false
  whole : a.valueLen.toNat = a.value.length

def isCharacteristic (a : GattDbAttribute) : Bool := btUuidSame characteristicUuid a.uuid

/-- The declaration of a characteristic: its properties, the handle behind it and a UUID. -/
structure Declares (a : GattDbAttribute) : Prop extends Held a where
  open_ : a.permissions = 0
  shape : ∃ properties uuid data, a.value = properties :: putLe16 (a.handle + 1) ++ data ∧
    getUuidLe data = some uuid

/-- The declaration of a service holds a UUID, and no permission is asked for. -/
structure Declared (s : GattDbService) : Prop extends Held s.decl where
  uuid : (getUuidLe s.decl.value).isSome
  kept : s.decl.writeFunc = false
  open_ : s.decl.permissions = 0

/-- The attributes of a service fill its places from the front and in the order of their handles. -/
structure LaidOut (s : GattDbService) : Prop where
  declared : Declared s
  front : ∃ (as : List GattDbAttribute) (k : ℕ), s.others = as.map some ++ List.replicate k none
  ascending : (present s).Pairwise fun a b => a.handle.toNat < b.handle.toNat
  inside : ∀ a ∈ present s, a.handle.toNat ≤ lastOf s
  known : ∀ a ∈ present s, a.uuid ≠ .unspec
  declares : ∀ a ∈ present s, isCharacteristic a → Declares a ∧ a.handle.toNat < lastOf s

structure Regular (db : GattDb) : Prop extends Ordered db where
  laidOut : ∀ s ∈ db.services, LaidOut s

/-- The handle that is given to an attribute, or that it asks for, leaves place for `n` behind the last
one and is one of the service's. -/
def Follows (s : GattDbService) (handle n : BitVec 16) : Prop :=
  let handle := if handle = 0 then lastHandle s + n else handle
  (lastHandle s).toNat + n.toNat ≤ handle.toNat ∧ handle.toNat ≤ lastOf s

/-- The attribute at the position is no declaration. -/
def Writable (s : GattDbService) (k : ℕ) : Prop :=
  k ≠ 0 ∧ ∀ a, s.attributes[k]? = some (some a) → isCharacteristic a = false

/-- The call puts no service around another one, gives no attribute a handle out of order, and leaves
the declarations to the database. -/
def RegularCall (db : GattDb) : DbEvent → Prop
  | .insertService handle uuid _ numHandles => ¬Surrounds db handle numHandles ∧ uuid ≠ .unspec
  | .addService uuid _ numHandles => ¬Surrounds db db.nextHandle numHandles ∧ uuid ≠ .unspec
  | .insertCharacteristic i handle uuid permissions properties readFunc writeFunc =>
    ∀ s ∈ db.services[i]?, ∀ s' ∈ serviceInsertCharacteristic s handle uuid permissions properties
      readFunc writeFunc, Follows s handle 2 ∧ uuid ≠ .unspec ∧ btUuidSame characteristicUuid uuid = false
  | .insertDescriptor i handle uuid permissions readFunc writeFunc =>
    ∀ s ∈ db.services[i]?, ∀ s' ∈ serviceInsertDescriptor s handle uuid permissions readFunc writeFunc,
      Follows s handle 1 ∧ uuid ≠ .unspec ∧ btUuidSame characteristicUuid uuid = false
  | .addIncluded i included =>
    ∀ s ∈ db.services[i]?, ∀ o ∈ db.services[included]?, ∀ s' ∈ serviceAddIncluded s o, Follows s 0 1
  | .store i k _ _ _ | .reset i k => ∀ s ∈ db.services[i]?, Writable s k
  | .removeService _ | .clear | .clearRange _ _ | .setActive _ _ => True

section

variable {db db' : GattDb} {s s' : GattDbService} {a : GattDbAttribute} {handle : BitVec 16} {uuid : BtUuid}
  {as : List GattDbAttribute} {i k off : ℕ}

/-! The places of a service -/

theorem attributeRead_held (h : Held a) : gattDbAttributeRead a 0 = .value a.value := by
  have hoffset : ¬(0 : BitVec 16) > a.valueLen := Nat.not_lt_zero _
  rw [gattDbAttributeRead, if_neg (by simp [h.stored]), if_neg hoffset, h.whole, List.take_length]
  rfl

theorem present_eq (h : s.others = as.map some ++ List.replicate k none) : present s = s.decl :: as := by
  have hnone : (List.replicate k (none : Option GattDbAttribute)).filterMap id = [] := by simp
  have hsome : (as.map some).filterMap id = as := by
    rw [List.filterMap_map]
    exact List.filterMap_some
  show s.decl :: s.others.filterMap id = _
  rw [h, List.filterMap_append, hnone, hsome, List.append_nil]

/-- The search for a place finds the first one that is empty. -/
theorem index_front (h : s.others = as.map some ++ List.replicate k none)
    (hi : getAttributeIndex s off ≠ 0) : getAttributeIndex s off = as.length + 1 ∧ off < k := by
  have hnum : s.numHandles = as.length + 1 + k := by
    rw [GattDbService.numHandles, h, List.length_append, List.length_map, List.length_replicate]
    omega
  have hattr : s.attributes = (s.decl :: as).map some ++ List.replicate k none := by
    rw [GattDbService.attributes, h]
    rfl
  have hlen : ((s.attributes.take (s.numHandles - off)).takeWhile Option.isSome).length =
      min (as.length + 1) (s.numHandles - off) := by
    have hsome : ∀ x ∈ ((s.decl :: as).map some).take (s.numHandles - off), x.isSome = true := by
      intro x hx
      obtain ⟨a, -, rfl⟩ := List.mem_map.mp (List.mem_of_mem_take hx)
      rfl
    rw [hattr, List.take_append, List.take_replicate, List.takeWhile_append_of_pos hsome,
      List.length_append, List.length_take, List.length_map, List.length_cons, List.takeWhile_replicate]
    simpa using Nat.min_comm _ _
  simp only [getAttributeIndex, hlen] at hi ⊢
  split at hi
  · exact absurd rfl hi
  · rename_i hroom
    rw [if_neg hroom]
    omega

theorem handleAtIndex_front (h : s.others = as.map some ++ List.replicate k none) :
    getHandleAtIndex s as.length = lastHandle s := by
  have hattr : s.attributes = (s.decl :: as).map some ++ List.replicate k none := by
    rw [GattDbService.attributes, h]
    rfl
  have hget : s.attributes[as.length]? = some ((s.decl :: as).getLast?) := by
    rw [hattr, List.getElem?_append_left (by simp), List.getElem?_map, List.getLast?_eq_getElem?]
    have hlt : as.length < (s.decl :: as).length := by simp
    simp only [List.length_cons, Nat.add_sub_cancel, List.getElem?_eq_getElem hlt, Option.map_some]
  rw [getHandleAtIndex, hget, lastHandle, present_eq h]
  rfl

/-- What an attribute has to be to go behind the others. -/
structure Behind (s : GattDbService) (a : GattDbAttribute) : Prop where
  after : (lastHandle s).toNat < a.handle.toNat
  inside : a.handle.toNat ≤ lastOf s
  known : a.uuid ≠ .unspec
  declares : isCharacteristic a → Declares a ∧ a.handle.toNat < lastOf s

theorem setAttribute_front (h : s.others = as.map some ++ List.replicate (k + 1) none)
    (a : GattDbAttribute) :
    (setAttribute s (as.length + 1) a).others = (as ++ [a]).map some ++ List.replicate k none := by
  show s.others.set (as.length + 1 - 1) (some a) = _
  rw [h, Nat.add_sub_cancel, List.replicate_succ, List.set_append_right _ _ (by simp)]
  simp

theorem le_lastHandle (h : LaidOut s) (ha : a ∈ present s) : a.handle.toNat ≤ (lastHandle s).toNat := by
  have hne : present s ≠ [] := List.ne_nil_of_mem ha
  rw [lastHandle, List.getLast?_eq_some_getLast hne]
  have hsplit := List.dropLast_append_getLast hne
  have hasc := h.ascending
  rw [← hsplit] at hasc ha
  rcases List.mem_append.mp ha with hm | hm
  · exact Nat.le_of_lt ((List.pairwise_append.mp hasc).2.2 a hm _ (by simp))
  · rw [List.mem_singleton] at hm
    subst hm
    exact Nat.le_refl _

theorem present_add (hfront : s.others = as.map some ++ List.replicate (k + 1) none)
    (a : GattDbAttribute) : present (setAttribute s (as.length + 1) a) = present s ++ [a] := by
  rw [present_eq (setAttribute_front hfront a), present_eq hfront]
  rfl

theorem lastOf_setAttribute (s : GattDbService) (i : ℕ) (a : GattDbAttribute) :
    lastOf (setAttribute s i a) = lastOf s := by
  rw [lastOf_eq, lastOf_eq, (setAttribute_handles s i a).2]
  rfl

/-- An attribute goes behind those that are there. -/
theorem laidOut_add (h : LaidOut s) (hfront : s.others = as.map some ++ List.replicate (k + 1) none)
    (ha : Behind s a) : LaidOut (setAttribute s (as.length + 1) a) := by
  have hmem : ∀ b, b ∈ present (setAttribute s (as.length + 1) a) ↔ b ∈ present s ∨ b = a := fun b => by
    rw [present_add hfront, List.mem_append, List.mem_singleton]
  refine ⟨⟨⟨h.declared.stored, h.declared.whole⟩, h.declared.uuid, h.declared.kept, h.declared.open_⟩,
    ⟨_, _, setAttribute_front hfront a⟩, ?_, fun b hb => ?_, fun b hb => ?_, fun b hb hc => ?_⟩
  · rw [present_add hfront, List.pairwise_append]
    refine ⟨h.ascending, by simp, fun b hb c hc => ?_⟩
    rw [List.mem_singleton] at hc
    subst hc
    exact Nat.lt_of_le_of_lt (le_lastHandle h hb) ha.after
  · rw [lastOf_setAttribute]
    exact ((hmem b).mp hb).elim (h.inside b) fun he => he ▸ ha.inside
  · exact ((hmem b).mp hb).elim (h.known b) fun he => he ▸ ha.known
  · rw [lastOf_setAttribute]
    exact ((hmem b).mp hb).elim (fun hb => h.declares b hb hc) fun he => he ▸ ha.declares (he ▸ hc)

/-! The calls that fill a service -/

theorem uuidToLe_length (h : uuid ≠ .unspec) :
    (uuidToLe uuid).length = 2 ∨ (uuidToLe uuid).length = 16 := by
  cases uuid with
  | unspec => exact absurd rfl h
  | u16 value => exact .inl (putLe16_length value)
  | u32 value => exact .inr (List.length_reverse.trans (Uuids.Uint128.size _))
  | u128 value => exact .inr (List.length_reverse.trans value.size)

theorem getUuidLe_some {data : List UInt8} (h : data.length = 2 ∨ data.length = 16) :
    ∃ uuid, getUuidLe data = some uuid := by
  rw [getUuidLe]
  rcases h with h | h
  · exact ⟨_, if_pos h⟩
  · rw [if_neg (by omega), dif_pos h]
    exact ⟨_, rfl⟩

theorem held_new {type : BtUuid} {value : List UInt8} (h : value.length < 65536) :
    Held (newAttribute handle type value) := by
  refine ⟨rfl, ?_⟩
  show (BitVec.ofNat 16 value.length).toNat = value.length
  rw [BitVec.toNat_ofNat, Nat.mod_eq_of_lt h]

theorem laidOut_create (hu : uuid ≠ .unspec) {primary : Bool} {numHandles : BitVec 16}
    (hfits : handle.toNat + (numHandles.toNat - 1) < 65536) :
    LaidOut (gattDbServiceCreate uuid handle primary numHandles hfits) := by
  have hlen := uuidToLe_length hu
  have hothers : (gattDbServiceCreate uuid handle primary numHandles hfits).others =
      ([] : List GattDbAttribute).map some ++ List.replicate (numHandles.toNat - 1) none := rfl
  have hmem : ∀ a ∈ present (gattDbServiceCreate uuid handle primary numHandles hfits),
      a = newAttribute handle (declUuid primary) (uuidToLe uuid) := fun a ha => by
    rw [present_eq hothers, List.mem_singleton] at ha
    exact ha
  refine ⟨⟨held_new (by omega), Option.isSome_iff_exists.mpr (getUuidLe_some hlen), rfl, rfl⟩, ⟨_, _, hothers⟩, ?_,
    fun a ha => ?_, fun a ha => ?_, fun a ha hc => ?_⟩
  · rw [present_eq hothers]
    simp
  · rw [hmem a ha]
    exact first_le_last (gattDbServiceCreate uuid handle primary numHandles hfits)
  · rw [hmem a ha]
    cases primary <;> simp [newAttribute, declUuid, primaryServiceUuid, secondaryServiceUuid]
  · rw [hmem a ha] at hc
    have hnot : btUuidSame characteristicUuid (declUuid primary) = false := by
      cases primary <;> decide
    exact absurd (hnot.symm.trans hc) Bool.false_ne_true

theorem behind_plain (hafter : (lastHandle s).toNat < a.handle.toNat) (hinside : a.handle.toNat ≤ lastOf s)
    (hu : a.uuid ≠ .unspec) (hc : isCharacteristic a = false) : Behind s a :=
  ⟨hafter, hinside, hu, fun h => absurd h (by simp [hc])⟩

theorem behind_declaration {given : BitVec 16} (properties : UInt8) (hu : uuid ≠ .unspec)
    (hafter : (lastHandle s).toNat + 2 ≤ given.toNat) (hinside : given.toNat ≤ lastOf s) :
    Behind s (newAttribute (given - 1) characteristicUuid (properties :: putLe16 given ++ uuidToLe uuid)) := by
  have hlen := uuidToLe_length hu
  have hone : BitVec.toNat (1 : BitVec 16) = 1 := rfl
  have hbefore : (given - 1).toNat = given.toNat - 1 := by
    rw [BitVec.toNat_sub, hone]
    have := given.isLt
    omega
  have hnext : given - 1 + 1 = given := BitVec.sub_add_cancel given 1
  obtain ⟨uuid', hget⟩ := getUuidLe_some hlen
  refine ⟨?_, ?_, by simp [newAttribute, characteristicUuid], fun _ => ⟨⟨held_new ?_, rfl, properties, uuid',
    uuidToLe uuid, ?_, hget⟩, ?_⟩⟩
  · show (lastHandle s).toNat < (given - 1).toNat
    omega
  · show (given - 1).toNat ≤ lastOf s
    omega
  · simp only [List.length_cons, List.length_append, putLe16_length]
    omega
  · show _ = properties :: putLe16 (given - 1 + 1) ++ uuidToLe uuid
    rw [hnext]
    rfl
  · show (given - 1).toNat < lastOf s
    omega

theorem lastHandle_add (hfront : s.others = as.map some ++ List.replicate (k + 1) none)
    (a : GattDbAttribute) : lastHandle (setAttribute s (as.length + 1) a) = a.handle := by
  rw [lastHandle, present_add hfront, List.getLast?_append]
  rfl

theorem laidOut_characteristic {permissions : BitVec 32} {properties : UInt8} {readFunc writeFunc : Bool}
    (h : LaidOut s) (hf : Follows s handle 2) (hu : uuid ≠ .unspec)
    (hc : btUuidSame characteristicUuid uuid = false)
    (hs : serviceInsertCharacteristic s handle uuid permissions properties readFunc writeFunc = some s') :
    LaidOut s' := by
  obtain ⟨as, k, hfront⟩ := h.front
  simp only [serviceInsertCharacteristic] at hs
  split at hs
  · cases hs
  · split at hs
    · cases hs
    · split at hs
      · cases hs
      · rename_i hplace
        obtain ⟨hindex, hroom⟩ := index_front hfront hplace
        obtain ⟨k, rfl⟩ : ∃ j, k = j + 1 + 1 := ⟨k - 2, by omega⟩
        rw [hindex, Nat.add_sub_cancel, handleAtIndex_front hfront] at hs
        obtain rfl := Option.some.inj hs
        rw [Follows] at hf
        generalize (if handle = 0 then lastHandle s + 2 else handle) = given at hf ⊢
        obtain ⟨hafter, hinside⟩ := hf
        have hdecl := behind_declaration properties hu hafter hinside
        have hfront' := setAttribute_front hfront (newAttribute (given - 1) characteristicUuid
          (properties :: putLe16 given ++ uuidToLe uuid))
        have hadded := laidOut_add (laidOut_add h hfront hdecl) hfront' (behind_plain
          (a := setAttributeData (newAttribute given uuid []) readFunc writeFunc permissions) ?_ ?_ hu hc)
        · rwa [List.length_append] at hadded
        · rw [lastHandle_add hfront]
          have htwo : BitVec.toNat (2 : BitVec 16) = 2 := rfl
          have hone : BitVec.toNat (1 : BitVec 16) = 1 := rfl
          show (given - 1).toNat < given.toNat
          rw [BitVec.toNat_sub, hone]
          have := given.isLt
          omega
        · rw [lastOf_setAttribute]
          exact hinside

theorem laidOut_descriptor {permissions : BitVec 32} {readFunc writeFunc : Bool}
    (h : LaidOut s) (hf : Follows s handle 1) (hu : uuid ≠ .unspec)
    (hc : btUuidSame characteristicUuid uuid = false)
    (hs : serviceInsertDescriptor s handle uuid permissions readFunc writeFunc = some s') : LaidOut s' := by
  obtain ⟨as, k, hfront⟩ := h.front
  simp only [serviceInsertDescriptor] at hs
  split at hs
  · cases hs
  · rename_i hplace
    split at hs
    · cases hs
    · obtain ⟨hindex, hroom⟩ := index_front hfront hplace
      obtain ⟨k, rfl⟩ : ∃ j, k = j + 1 := ⟨k - 1, by omega⟩
      rw [hindex, Nat.add_sub_cancel, handleAtIndex_front hfront] at hs
      obtain rfl := Option.some.inj hs
      rw [Follows] at hf
      generalize (if handle = 0 then lastHandle s + 1 else handle) = given at hf ⊢
      exact laidOut_add h hfront (behind_plain hf.1 hf.2 hu hc)

theorem laidOut_included {included : GattDbService} (h : LaidOut s) (hf : Follows s 0 1)
    (hs : serviceAddIncluded s included = some s') : LaidOut s' := by
  obtain ⟨as, k, hfront⟩ := h.front
  simp only [serviceAddIncluded] at hs
  split at hs
  · cases hs
  · rename_i hplace
    obtain ⟨hindex, hroom⟩ := index_front hfront hplace
    obtain ⟨k, rfl⟩ : ∃ j, k = j + 1 := ⟨k - 1, by omega⟩
    rw [hindex, Nat.add_sub_cancel, handleAtIndex_front hfront] at hs
    obtain rfl := Option.some.inj hs
    rw [Follows, if_pos rfl] at hf
    refine laidOut_add h hfront (behind_plain hf.1 hf.2 ?_ ?_)
    · simp [newAttribute, includedServiceUuid]
    · exact (by decide : btUuidSame characteristicUuid includedServiceUuid = false)

/-! Other changes -/

theorem modify_front (as : List GattDbAttribute) (k j : ℕ) (f : GattDbAttribute → GattDbAttribute) :
    (as.map some ++ List.replicate k none).modify j (Option.map f) =
      (as.modify j f).map some ++ List.replicate k none := by
  induction as generalizing j with
  | nil =>
    rw [List.modify_nil, List.map_nil, List.nil_append]
    refine List.ext_getElem? fun i => ?_
    rw [List.getElem?_modify, List.getElem?_replicate]
    split <;> split <;> rfl
  | cons a as ih =>
    cases j with
    | zero => rfl
    | succ j =>
      rw [List.map_cons, List.cons_append, List.modify_succ_cons, ih, List.modify_succ_cons]
      rfl

/-- A change to an attribute that is no declaration, which keeps its handle and its type. -/
theorem laidOut_modify {f : GattDbAttribute → GattDbAttribute} {hf : ∀ a, (f a).handle = a.handle}
    (hu : ∀ a, (f a).uuid = a.uuid) (h : LaidOut s) (hk : Writable s k) :
    LaidOut (modifyAttribute s k f hf) := by
  obtain ⟨as, n, hfront⟩ := h.front
  cases k with
  | zero => exact absurd rfl hk.1
  | succ j =>
    have hothers : (modifyAttribute s (j + 1) f hf).others =
        (as.modify j f).map some ++ List.replicate n none := by
      show s.others.modify j (Option.map f) = _
      rw [hfront, modify_front]
    have hlast : lastOf (modifyAttribute s (j + 1) f hf) = lastOf s := by
      rw [lastOf_eq, lastOf_eq, (modify_handles s (j + 1) f hf).2]
      rfl
    -- what was at the position is no declaration
    have hmem : ∀ a ∈ present (modifyAttribute s (j + 1) f hf), a ∈ present s ∨
        ∃ b ∈ present s, isCharacteristic b = false ∧ a = f b := by
      intro a ha
      rw [present_eq hothers] at ha
      rw [present_eq hfront]
      rcases List.mem_cons.mp ha with rfl | ha
      · exact .inl (by simp [modifyAttribute])
      · rcases mem_modify ha with ha | ⟨b, hb, rfl⟩
        · exact .inl (List.mem_cons_of_mem _ ha)
        · refine .inr ⟨b, List.mem_cons_of_mem _ (List.mem_of_getElem? hb), hk.2 b ?_, rfl⟩
          have hlt := (List.getElem?_eq_some_iff.mp hb).1
          rw [GattDbService.attributes, hfront, List.getElem?_cons_succ,
            List.getElem?_append_left (by simpa using hlt), List.getElem?_map, hb]
          rfl
    refine ⟨⟨⟨h.declared.stored, h.declared.whole⟩, h.declared.uuid, h.declared.kept, h.declared.open_⟩, ⟨_, _, hothers⟩, ?_, fun a ha => ?_,
      fun a ha => ?_, fun a ha hc => ?_⟩
    · have hasc := h.ascending
      rw [present_eq hfront, ← List.pairwise_map (f := GattDbAttribute.handle)
        (R := fun p q => p.toNat < q.toNat)] at hasc
      rw [present_eq hothers, ← List.pairwise_map (f := GattDbAttribute.handle)
        (R := fun p q => p.toNat < q.toNat), List.map_cons, map_modify_kept hf]
      exact hasc
    · rw [hlast]
      rcases hmem a ha with ha | ⟨b, hb, -, rfl⟩
      · exact h.inside a ha
      · rw [hf]
        exact h.inside b hb
    · rcases hmem a ha with ha | ⟨b, hb, -, rfl⟩
      · exact h.known a ha
      · rw [hu]
        exact h.known b hb
    · rw [hlast]
      rcases hmem a ha with ha | ⟨b, hb, hnot, rfl⟩
      · exact h.declares a ha hc
      · rw [isCharacteristic, hu] at hc
        exact absurd (hnot.symm.trans hc) Bool.false_ne_true

theorem storeValue_uuid (junk : ℕ → UInt8) (offset : BitVec 16) (data : List UInt8) (a : GattDbAttribute) :
    (storeValue junk a offset data).uuid = a.uuid := by
  rw [storeValue]
  split
  · rfl
  · split <;> rfl

/-! Histories -/

theorem insert_services (db : GattDb) (handle : BitVec 16) (uuid : BtUuid) (primary : Bool)
    (numHandles : BitVec 16) :
    ∀ s ∈ (gattDbInsertService db handle uuid primary numHandles).1.services, s ∈ db.services ∨
      ∃ h, s = gattDbServiceCreate uuid handle primary numHandles h := by
  intro s hs
  rw [gattDbInsertService] at hs
  split at hs
  · exact .inl hs
  · split at hs
    · exact .inl hs
    · split at hs
      · exact .inl hs
      · exact (List.eq_or_mem_of_mem_insertIdx hs).elim (fun he => .inr ⟨_, he⟩) .inl

theorem insert_regular (h : Regular db) {primary : Bool} {numHandles : BitVec 16}
    (hsur : ¬Surrounds db handle numHandles) (hu : uuid ≠ .unspec) :
    Regular (gattDbInsertService db handle uuid primary numHandles).1 :=
  ⟨(insert_ordered h.toOrdered handle uuid primary numHandles).mpr hsur, fun s hs =>
    (insert_services db handle uuid primary numHandles s hs).elim (h.laidOut s) fun ⟨_, he⟩ =>
      he ▸ laidOut_create hu _⟩

theorem regular_sublist (h : Regular db) (hs : db'.services.Sublist db.services) : Regular db' :=
  ⟨ordered_sublist h.toOrdered hs, fun s hm => h.laidOut s (hs.mem hm)⟩

theorem regular_set (h : Regular db) (f : GattDbService → GattDbService) (hf : ∀ s, SameHandles s (f s))
    (hlaid : ∀ s ∈ db.services[i]?, LaidOut (f s)) (hs : onService db i f = some db') : Regular db' := by
  refine ⟨ordered_set h.toOrdered f hf hs, ?_⟩
  rw [onService, Option.map_eq_some_iff] at hs
  obtain ⟨s, hget, rfl⟩ := hs
  intro t ht
  rcases List.mem_or_eq_of_mem_set ht with ht | rfl
  · exact h.laidOut t ht
  · exact hlaid s hget

/-- A call that is allowed to fail: the service stays as it is then. -/
theorem laidOut_getD {r : Option GattDbService} (h : LaidOut s) (hr : ∀ s' ∈ r, LaidOut s') :
    LaidOut (r.getD s) := by
  cases r with
  | none => exact h
  | some s' => exact hr s' rfl

theorem laidOut_active (h : LaidOut s) (active : Bool) : LaidOut (setActive s active) :=
  ⟨⟨⟨h.declared.stored, h.declared.whole⟩, h.declared.uuid, h.declared.kept, h.declared.open_⟩, h.front, h.ascending, h.inside, h.known,
    h.declares⟩

theorem dbStep_regular {e : DbEvent} (h : Regular db) (hok : RegularCall db e)
    (hs : dbStep db e = some db') : Regular db' := by
  have hget : ∀ {i s}, s ∈ db.services[i]? → LaidOut s := fun hm => h.laidOut _ (List.mem_of_getElem? hm)
  cases e with
  | insertService handle uuid primary numHandles =>
    obtain rfl := Option.some.inj hs
    exact insert_regular h hok.1 hok.2
  | addService uuid primary numHandles =>
    obtain rfl := Option.some.inj hs
    exact insert_regular h hok.1 hok.2
  | removeService i =>
    obtain ⟨-, -, rfl⟩ := Option.map_eq_some_iff.mp hs
    exact regular_sublist h (List.eraseIdx_sublist ..)
  | clear =>
    obtain rfl := Option.some.inj hs
    exact regular_sublist h (List.nil_sublist _)
  | clearRange start end_ =>
    obtain rfl := Option.some.inj hs
    rw [gattDbClearRange]
    split
    · exact h
    · exact regular_sublist h List.filter_sublist
  | setActive i active =>
    exact regular_set h (setActive · active) (fun _ => ⟨rfl, rfl⟩)
      (fun s hm => laidOut_active (hget hm) active) hs
  | insertCharacteristic i handle uuid permissions properties readFunc writeFunc =>
    refine regular_set h _ (fun s => characteristic_handles s ..) (fun s hm => ?_) hs
    refine laidOut_getD (hget hm) fun s' hs' => ?_
    obtain ⟨hf, hu, hc⟩ := hok s hm s' hs'
    exact laidOut_characteristic (hget hm) hf hu hc hs'
  | insertDescriptor i handle uuid permissions readFunc writeFunc =>
    refine regular_set h _ (fun s => descriptor_handles s ..) (fun s hm => ?_) hs
    refine laidOut_getD (hget hm) fun s' hs' => ?_
    obtain ⟨hf, hu, hc⟩ := hok s hm s' hs'
    exact laidOut_descriptor (hget hm) hf hu hc hs'
  | addIncluded i included =>
    obtain ⟨o, ho, hset⟩ := Option.bind_eq_some_iff.mp hs
    refine regular_set h _ (fun s => included_handles s o) (fun s hm => ?_) hset
    exact laidOut_getD (hget hm) fun s' hs' => laidOut_included (hget hm) (hok s hm o ho s' hs') hs'
  | store i k junk offset data =>
    exact regular_set h _ (fun s => modify_handles s k _ _)
      (fun s hm => laidOut_modify (storeValue_uuid junk offset data) (hget hm) (hok s hm)) hs
  | reset i k =>
    exact regular_set h (modifyAttribute · k gattDbAttributeReset gattDbAttributeReset_handle)
      (fun s => modify_handles s k _ _)
      (fun s hm => laidOut_modify (fun a => by rw [gattDbAttributeReset]; split <;> rfl) (hget hm) (hok s hm)) hs

theorem regular_new : Regular gattDbNew := ⟨ordered_new, by simp [gattDbNew]⟩

/-- A database that is filled by regular calls is regular. -/
theorem reach_regular (h : Reach dbStep RegularCall (· = gattDbNew) db) : Regular db := by
  refine reach_invariant Regular ?_ (fun _ _ _ hreg hok hs => dbStep_regular hreg hok hs) h
  rintro _ rfl
  exact regular_new

/-! A database with the battery service -/

def addBattery : GattDb := (gattDbAddService gattDbNew battery true 4).1

def addLevel : GattDb :=
  (onService addBattery 0 fun s =>
    (serviceInsertCharacteristic s 0 (.u16 0x2A19) 0 0x12 false false).getD s).getD gattDbNew

def addConfiguration : GattDb :=
  (onService addLevel 0 fun s => (serviceInsertDescriptor s 0 (.u16 0x2902) 0 false false).getD s).getD gattDbNew

def batteryDb : GattDb := (onService addConfiguration 0 (setActive · true)).getD gattDbNew

theorem batteryDb_reached : Reach dbStep RegularCall (· = gattDbNew) batteryDb := by
  have hservice : RegularCall gattDbNew (.addService battery true 4) :=
    ⟨fun h => by simp [Surrounds, gattDbNew] at h, by simp [battery]⟩
  have hlevel : RegularCall addBattery (.insertCharacteristic 0 0 (.u16 0x2A19) 0 0x12 false false) := by
    intro s hs _ _
    obtain rfl := Option.some.inj hs
    exact ⟨by unfold Follows; decide, by simp, by decide⟩
  have hconfiguration : RegularCall addLevel (.insertDescriptor 0 0 (.u16 0x2902) 0 false false) := by
    intro s hs _ _
    obtain rfl := Option.some.inj hs
    exact ⟨by unfold Follows; decide, by simp, by decide⟩
  have hfirst : Reach dbStep RegularCall (· = gattDbNew) addBattery := .next (.start rfl) hservice rfl
  have hsecond : Reach dbStep RegularCall (· = gattDbNew) addLevel := .next hfirst hlevel rfl
  have hthird : Reach dbStep RegularCall (· = gattDbNew) addConfiguration := .next hsecond hconfiguration rfl
  exact .next (e := .setActive 0 true) hthird trivial rfl

end

end Gattlib.DatabaseLayout
