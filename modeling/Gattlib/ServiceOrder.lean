import Gattlib.GattDatabase
import Gattlib.Library.Spans

namespace Gattlib.ServiceOrder

open Uuids (BtUuid)
open AttPdus GattDatabase Library.Transition Library.Spans

def firstOf (s : GattDbService) : ℕ := s.startHandle.toNat

def lastOf (s : GattDbService) : ℕ := s.endHandle.toNat

/-- The services are kept in the order of their handles, and no handle belongs to two of them. -/
structure Ordered (db : GattDb) : Prop where
  apart : Apart firstOf lastOf db.services
  handles : ∀ s ∈ db.services, 0 < firstOf s

/-- The insertion puts a service around one that is there. -/
def Surrounds (db : GattDb) (handle numHandles : BitVec 16) : Prop :=
  0 < handle.toNat ∧ 0 < numHandles.toNat ∧ handle.toNat + numHandles.toNat ≤ 65536 ∧
    (∀ s ∈ db.services, ¬Covers firstOf lastOf handle.toNat s ∧
      ¬Covers firstOf lastOf (handle.toNat + numHandles.toNat - 1) s) ∧
    ∃ s ∈ db.services, handle.toNat < firstOf s ∧ lastOf s < handle.toNat + numHandles.toNat - 1

def SurroundsAnother (db : GattDb) : DbEvent → Prop
  | .insertService handle _ _ numHandles => Surrounds db handle numHandles
  | .addService _ _ numHandles => Surrounds db db.nextHandle numHandles
  | _ => False

section

variable {db db' : GattDb} {s : GattDbService} {handle numHandles start end_ : BitVec 16} {i j : ℕ}
  {services : List GattDbService} {uuid : BtUuid} {primary : Bool}

theorem lastOf_eq (s : GattDbService) : lastOf s = firstOf s + s.others.length := by
  have hfits := s.fits
  have hone : BitVec.toNat (1 : BitVec 16) = 1 := rfl
  simp only [lastOf, firstOf, GattDbService.endHandle, GattDbService.startHandle,
    GattDbService.numHandles, BitVec.toNat_sub, BitVec.toNat_add, BitVec.toNat_ofNat, hone]
  omega

theorem first_le_last (s : GattDbService) : firstOf s ≤ lastOf s := by
  rw [lastOf_eq]
  exact Nat.le_add_right _ _

/-! Where the insertion takes place -/

theorem loc_occupied (h : findInsertLoc start end_ i services = .occupied j) :
    ∃ s ∈ services, Covers firstOf lastOf start.toNat s ∨ Covers firstOf lastOf end_.toNat s := by
  induction services generalizing i with
  | nil => cases h
  | cons s services ih =>
    rw [findInsertLoc] at h
    split at h
    · exact ⟨s, by simp, .inl ‹_›⟩
    · split at h
      · exact ⟨s, by simp, .inr ‹_›⟩
      · split at h
        · cases h
        · obtain ⟨t, ht, hc⟩ := ih h
          exact ⟨t, List.mem_cons_of_mem s ht, hc⟩

/-- The services before the position end before the range does, and neither end of the range is in
one of them. The range ends before those behind. -/
theorem loc_after (ha : Apart firstOf lastOf services)
    (h : findInsertLoc start end_ i services = .after j) :
    ∃ k, j = i + k ∧ k ≤ services.length ∧
      (∀ s ∈ services.take k, lastOf s < end_.toNat ∧ ¬Covers firstOf lastOf start.toNat s) ∧
      ∀ s ∈ services.drop k, end_.toNat < firstOf s := by
  induction services generalizing i with
  | nil =>
    obtain rfl : i = j := InsertLoc.after.inj h
    exact ⟨0, rfl, Nat.le_refl 0, by simp, by simp⟩
  | cons s services ih =>
    obtain ⟨hs, hrest⟩ := List.pairwise_cons.mp ha
    rw [findInsertLoc] at h
    split at h
    · cases h
    · rename_i hstart
      split at h
      · cases h
      · rename_i hend
        split at h
        · rename_i hbefore
          obtain rfl : i = j := InsertLoc.after.inj h
          have hfirst : end_.toNat < firstOf s := hbefore
          refine ⟨0, rfl, Nat.zero_le _, by simp, fun t ht => ?_⟩
          rcases List.mem_cons.mp ht with rfl | ht
          · exact hfirst
          · have := hs t ht
            have := first_le_last s
            omega
        · rename_i hbefore
          obtain ⟨k, rfl, hk, htake, hdrop⟩ := ih hrest h
          have hlast : lastOf s < end_.toNat := by
            have hfirst : ¬end_.toNat < firstOf s := hbefore
            have hcover : ¬(firstOf s ≤ end_.toNat ∧ end_.toNat ≤ lastOf s) := hend
            omega
          refine ⟨k + 1, by omega, Nat.succ_le_succ hk, fun t ht => ?_, hdrop⟩
          rcases List.mem_cons.mp ht with rfl | ht
          · exact ⟨hlast, hstart⟩
          · exact htake t ht

/-- What an insertion does to the services of a database. -/
theorem insert_cases (db : GattDb) (handle : BitVec 16) (uuid : BtUuid) (primary : Bool)
    (numHandles : BitVec 16) :
    (gattDbInsertService db handle uuid primary numHandles).1 = db ∨
      0 < handle.toNat ∧ 0 < numHandles.toNat ∧ handle.toNat + numHandles.toNat ≤ 65536 ∧
      ∃ j new, findInsertLoc handle (handle + numHandles - 1) 0 db.services = .after j ∧
        firstOf new = handle.toNat ∧ lastOf new = handle.toNat + numHandles.toNat - 1 ∧
        (gattDbInsertService db handle uuid primary numHandles).1.services =
          db.services.insertIdx j new := by
  rw [gattDbInsertService]
  split
  · exact .inl rfl
  · rename_i hhandle
    split
    · exact .inl rfl
    · rename_i hnum
      rw [not_or] at hnum
      have hpos : ¬numHandles.toNat < 1 := hnum.1
      have hhandle' : ¬handle.toNat < 1 := hhandle
      split
      · exact .inl rfl
      · rename_i j hloc
        refine .inr ⟨by omega, by omega, by omega, j, _, hloc, rfl, ?_, rfl⟩
        rw [lastOf_eq]
        simp only [firstOf, gattDbServiceCreate, GattDbService.startHandle, newAttribute,
          List.length_replicate]
        omega

theorem last_toNat (hnum : 0 < numHandles.toNat) (hfits : handle.toNat + numHandles.toNat ≤ 65536) :
    (handle + numHandles - 1).toNat = handle.toNat + numHandles.toNat - 1 := by
  have hone : BitVec.toNat (1 : BitVec 16) = 1 := rfl
  have hlt := handle.isLt
  simp only [BitVec.toNat_sub, BitVec.toNat_add, hone]
  omega

theorem insert_ordered (h : Ordered db) (handle : BitVec 16) (uuid : BtUuid) (primary : Bool)
    (numHandles : BitVec 16) :
    Ordered (gattDbInsertService db handle uuid primary numHandles).1 ↔
      ¬Surrounds db handle numHandles := by
  rcases insert_cases db handle uuid primary numHandles with hsame | hnew
  · -- nothing is inserted: one of the checks has failed, or the range is taken at one of its ends
    rw [hsame]
    refine ⟨fun _ hs => ?_, fun _ => h⟩
    obtain ⟨hhandle, hnum, hfits, hfree, s, hs, hsur⟩ := hs
    have hend := last_toNat hnum hfits
    cases hloc : findInsertLoc handle (handle + numHandles - 1) 0 db.services with
    | occupied j =>
      obtain ⟨t, ht, hc⟩ := loc_occupied hloc
      rw [hend] at hc
      exact hc.elim (hfree t ht).1 (hfree t ht).2
    | after j =>
      have hlen := congrArg (fun d : GattDb => d.services.length) hsame
      have hhandle' : ¬handle < 1 := fun hlt => by
        have : handle.toNat < 1 := hlt
        omega
      have hrange : ¬(numHandles < 1 ∨ handle.toNat + numHandles.toNat - 1 > 65535) := by
        rintro (hlt | hgt)
        · have : numHandles.toNat < 1 := hlt
          omega
        · omega
      obtain ⟨k, hj, hk, -, -⟩ := loc_after h.apart hloc
      simp only [gattDbInsertService, if_neg hhandle', dif_neg hrange, hloc] at hlen
      rw [List.length_insertIdx_of_le_length (by omega)] at hlen
      omega
  · obtain ⟨hhandle, hnum, hfits, j, new, hloc, hfirst, hlast, hservices⟩ := hnew
    have hend := last_toNat hnum hfits
    obtain ⟨k, hj, hk, htake, hdrop⟩ := loc_after h.apart hloc
    rw [Nat.zero_add] at hj
    subst hj
    rw [hend] at htake hdrop
    constructor
    · rintro hord ⟨-, -, -, -, s, hs, hsur⟩
      have hapart := hord.apart
      rw [hservices] at hapart
      have hside := insert_apart hapart hk hs
      have hle := first_le_last s
      omega
    · intro hsur
      have hinside : ∀ s ∈ db.services.take j, ¬(handle.toNat < firstOf s) := by
        intro s hs hlt
        refine hsur ⟨hhandle, hnum, hfits, fun t ht => ?_, s, List.mem_of_mem_take hs, hlt,
          (htake s hs).1⟩
        rw [← List.take_append_drop j db.services] at ht
        rcases List.mem_append.mp ht with ht | ht
        · refine ⟨(htake t ht).2, fun hc => ?_⟩
          have := (htake t ht).1
          have := hc.2
          omega
        · have := hdrop t ht
          refine ⟨fun hc => ?_, fun hc => ?_⟩ <;>
          · have := hc.1
            omega
      have hbefore : ∀ s ∈ db.services.take j, lastOf s < firstOf new := by
        intro s hs
        have hnot := (htake s hs).2
        have hin := hinside s hs
        rw [Covers] at hnot
        omega
      refine ⟨?_, fun s hs => ?_⟩
      · rw [hservices]
        refine apart_insert h.apart hbefore fun s hs => ?_
        have := hdrop s hs
        omega
      · rw [hservices] at hs
        rcases List.eq_or_mem_of_mem_insertIdx hs with rfl | hs
        · omega
        · exact h.handles s hs

/-! The other calls -/

theorem ordered_sublist (h : Ordered db) (hs : db'.services.Sublist db.services) : Ordered db' :=
  ⟨apart_sublist h.apart hs, fun s hm => h.handles s (hs.mem hm)⟩

/-- The service has the handles that it had. -/
def SameHandles (s t : GattDbService) : Prop :=
  t.startHandle = s.startHandle ∧ t.others.length = s.others.length

theorem ordered_set (h : Ordered db) (f : GattDbService → GattDbService)
    (hf : ∀ s, SameHandles s (f s)) (hs : onService db i f = some db') : Ordered db' := by
  rw [onService, Option.map_eq_some_iff] at hs
  obtain ⟨s, hget, rfl⟩ := hs
  obtain ⟨hi, hsi⟩ := List.getElem?_eq_some_iff.mp hget
  have hfirst : firstOf (f s) = firstOf s := congrArg BitVec.toNat (hf s).1
  have hlast : lastOf (f s) = lastOf s := by rw [lastOf_eq, lastOf_eq, hfirst, (hf s).2]
  have hspan : (db.services.set i (f s)).map (fun a => (firstOf a, lastOf a)) =
      db.services.map (fun a => (firstOf a, lastOf a)) := by
    rw [List.map_set, hfirst, hlast]
    refine List.ext_getElem (by simp) fun k hk _ => ?_
    rw [List.getElem_set]
    split
    · next hik => subst hik; rw [List.getElem_map, hsi]
    · rfl
  constructor
  · have hap := h.apart
    rw [Apart, ← List.pairwise_map (f := fun a => (firstOf a, lastOf a))
      (R := fun p q => p.2 < q.1)] at hap ⊢
    rw [hspan]
    exact hap
  · intro t ht
    rcases List.mem_or_eq_of_mem_set ht with ht | rfl
    · exact h.handles t ht
    · rw [hfirst]
      exact h.handles s (List.mem_of_getElem? hget)

theorem setAttribute_handles (s : GattDbService) (i : ℕ) (a : GattDbAttribute) :
    SameHandles s (setAttribute s i a) := ⟨rfl, List.length_set⟩

theorem sameHandles_trans {s t u : GattDbService} (hst : SameHandles s t) (htu : SameHandles t u) :
    SameHandles s u := ⟨htu.1.trans hst.1, htu.2.trans hst.2⟩

theorem characteristic_handles (s : GattDbService) (handle : BitVec 16) (uuid : BtUuid)
    (permissions : BitVec 32) (properties : UInt8) (readFunc writeFunc : Bool) :
    SameHandles s ((serviceInsertCharacteristic s handle uuid permissions properties readFunc
      writeFunc).getD s) := by
  simp only [serviceInsertCharacteristic]
  split
  · exact ⟨rfl, rfl⟩
  · split
    · exact ⟨rfl, rfl⟩
    · split
      · exact ⟨rfl, rfl⟩
      · exact sameHandles_trans (setAttribute_handles _ _ _) (setAttribute_handles _ _ _)

theorem descriptor_handles (s : GattDbService) (handle : BitVec 16) (uuid : BtUuid)
    (permissions : BitVec 32) (readFunc writeFunc : Bool) :
    SameHandles s ((serviceInsertDescriptor s handle uuid permissions readFunc writeFunc).getD s) := by
  simp only [serviceInsertDescriptor]
  split
  · exact ⟨rfl, rfl⟩
  · split
    · exact ⟨rfl, rfl⟩
    · exact setAttribute_handles _ _ _

theorem included_handles (s included : GattDbService) :
    SameHandles s ((serviceAddIncluded s included).getD s) := by
  simp only [serviceAddIncluded]
  split
  · exact ⟨rfl, rfl⟩
  · exact setAttribute_handles _ _ _

theorem modify_handles (s : GattDbService) (k : ℕ) (f : GattDbAttribute → GattDbAttribute)
    (hf : ∀ a, (f a).handle = a.handle) : SameHandles s (modifyAttribute s k f hf) := by
  cases k with
  | zero => exact ⟨hf _, rfl⟩
  | succ k => exact ⟨rfl, List.length_modify ..⟩

/-- One call keeps the order if and only if it does not put a service around another. -/
theorem dbStep_ordered {e : DbEvent} (h : Ordered db) (hs : dbStep db e = some db') :
    Ordered db' ↔ ¬SurroundsAnother db e := by
  cases e with
  | insertService handle uuid primary numHandles =>
    obtain rfl := Option.some.inj hs
    exact insert_ordered h handle uuid primary numHandles
  | addService uuid primary numHandles =>
    obtain rfl := Option.some.inj hs
    exact insert_ordered h db.nextHandle uuid primary numHandles
  | removeService i =>
    obtain ⟨-, -, rfl⟩ := Option.map_eq_some_iff.mp hs
    exact iff_of_true (ordered_sublist h (List.eraseIdx_sublist ..)) id
  | clear =>
    obtain rfl := Option.some.inj hs
    exact iff_of_true (ordered_sublist h (List.nil_sublist _)) id
  | clearRange start end_ =>
    obtain rfl := Option.some.inj hs
    refine iff_of_true ?_ id
    rw [gattDbClearRange]
    split
    · exact h
    · exact ordered_sublist h List.filter_sublist
  | setActive i active => exact iff_of_true (ordered_set h (setActive · active) (fun _ => ⟨rfl, rfl⟩) hs) id
  | insertCharacteristic i handle uuid permissions properties readFunc writeFunc =>
    exact iff_of_true (ordered_set h _ (fun s => characteristic_handles s ..) hs) id
  | insertDescriptor i handle uuid permissions readFunc writeFunc =>
    exact iff_of_true (ordered_set h _ (fun s => descriptor_handles s ..) hs) id
  | addIncluded i included =>
    obtain ⟨o, -, hset⟩ := Option.bind_eq_some_iff.mp hs
    exact iff_of_true (ordered_set h _ (fun s => included_handles s o) hset) id
  | store i k junk offset data =>
    exact iff_of_true (ordered_set h _ (fun s => modify_handles s k _ _) hs) id
  | reset i k => exact iff_of_true (ordered_set h _ (fun s => modify_handles s k _ _) hs) id

theorem ordered_new : Ordered gattDbNew := ⟨List.Pairwise.nil, by simp [gattDbNew]⟩

/-- Along every history of a database the services stay in order and apart from each other exactly
as long as no insertion puts one around a service that is there. -/
theorem services_ordered (tr : List (GattDb × DbEvent × GattDb)) (db : GattDb)
    (h : Run dbStep (· = gattDbNew) tr db) :
    Throughout (fun _ x => Ordered x.2.2) tr ↔
      Throughout (fun _ x => ¬SurroundsAnother x.1 x.2.1) tr := by
  refine (throughout_iff (I := fun _ db => Ordered db) ?_ ?_ ?_ h).1
  · rintro _ rfl
    exact ordered_new
  · exact fun _ _ _ _ hord hnot hs => (dbStep_ordered hord hs).mpr hnot
  · exact fun _ _ _ _ hord hs => dbStep_ordered hord hs

def battery : BtUuid := .u16 0x180F

/-- The battery service has the handles from 10 to 13. -/
def batteryInserted : GattDb := (gattDbInsertService gattDbNew 10 battery true 4).1

/-- A second service is inserted at a handle. -/
def secondInserted (handle numHandles : BitVec 16) : List (GattDb × DbEvent × GattDb) :=
  [(batteryInserted, .insertService handle (.u16 0x180A) true numHandles,
      (gattDbInsertService batteryInserted handle (.u16 0x180A) true numHandles).1),
    (gattDbNew, .insertService 10 battery true 4, batteryInserted)]

theorem secondInserted_run (handle numHandles : BitVec 16) : ∃ db,
    Run dbStep (· = gattDbNew) (secondInserted handle numHandles) db :=
  ⟨_, .next (.next (.start rfl) rfl) rfl⟩

/-- A second service behind the first one is no disorder, and one around it is. -/
theorem services_ordered_battery : Throughout (fun _ x => Ordered x.2.2) (secondInserted 20 4) ∧
    ¬Throughout (fun _ x => Ordered x.2.2) (secondInserted 5 20) := by
  obtain ⟨behind, hbehind⟩ := secondInserted_run 20 4
  obtain ⟨around, haround⟩ := secondInserted_run 5 20
  have hfirst : ¬Surrounds gattDbNew 10 4 := fun ⟨_, _, _, _, hsome⟩ => by simp [gattDbNew] at hsome
  have hone : ∀ s ∈ batteryInserted.services, firstOf s = 10 ∧ lastOf s = 13 := by decide
  refine ⟨(services_ordered _ behind hbehind).mpr ⟨fun ⟨_, _, _, _, s, hs, hlt, _⟩ => ?_, hfirst, trivial⟩,
    fun h => ((services_ordered _ around haround).mp h).1
      ⟨by decide, by decide, by decide, fun s hs => ?_, batteryInserted.services.head (by decide),
        List.head_mem _, by decide, by decide⟩⟩
  · obtain ⟨hten, -⟩ := hone s hs
    rw [hten] at hlt
    exact absurd hlt (by decide)
  · obtain ⟨hten, hlast⟩ := hone s hs
    rw [Covers, Covers, hten, hlast]
    decide

end

end Gattlib.ServiceOrder
