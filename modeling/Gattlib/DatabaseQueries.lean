import Gattlib.DatabaseLayout

namespace Gattlib.DatabaseQueries

open Uuids (BtUuid)
open AttPdus GattDatabase ServiceOrder DatabaseLayout Library.Spans

def handleOf (a : GattDbAttribute) : ℕ := a.handle.toNat

/-- The attributes of the active services. -/
def activeAttributes (db : GattDb) : List GattDbAttribute :=
  (db.services.filter fun s => s.active).flatMap present

/-- Those of a range of handles that have a property. -/
def between (start end_ : BitVec 16) (keep : GattDbAttribute → Bool) (db : GattDb) : List GattDbAttribute :=
  (activeAttributes db).filter fun a =>
    decide (start.toNat ≤ handleOf a) && (decide (handleOf a ≤ end_.toNat) && keep a)

/-- Where the search goes on once it has found some attributes. -/
def startBehind (start : BitVec 16) (done : List GattDbAttribute) : BitVec 16 :=
  (done.getLast?.map fun a => a.handle + 1).getD start

section

variable {db : GattDb} {s : GattDbService} {a : GattDbAttribute} {start start' end_ : BitVec 16}
  {keep : GattDbAttribute → Bool} {as : List (Option GattDbAttribute)} {done rest : List GattDbAttribute}

theorem attributesIn_none (h : ∀ a ∈ as.filterMap id, end_.toNat < handleOf a) :
    (as.filterMap id).filter (fun a => decide (start.toNat ≤ handleOf a) &&
      (decide (handleOf a ≤ end_.toNat) && keep a)) = [] := by
  rw [List.filter_eq_nil_iff]
  intro a ha
  have := h a ha
  simp
  omega

/-- The loop over the attributes ends at the first one behind the range. None is lost by that, as the
attributes are in order. -/
theorem attributesIn_eq (h : (as.filterMap id).Pairwise fun a b => handleOf a < handleOf b) :
    attributesIn start end_ keep as = (as.filterMap id).filter fun a =>
      decide (start.toNat ≤ handleOf a) && (decide (handleOf a ≤ end_.toNat) && keep a) := by
  induction as with
  | nil => rfl
  | cons x as ih =>
    cases x with
    | none => exact ih h
    | some a =>
      obtain ⟨hfirst, hrest⟩ := List.pairwise_cons.mp h
      have hbelow : a.handle < start ↔ ¬start.toNat ≤ handleOf a := Nat.not_le.symm
      have habove : a.handle > end_ ↔ ¬handleOf a ≤ end_.toNat := Nat.not_le.symm
      rw [attributesIn]
      show _ = List.filter _ (a :: as.filterMap id)
      rw [List.filter_cons]
      by_cases hs : start.toNat ≤ handleOf a
      · rw [if_neg fun hlt => hbelow.mp hlt hs]
        by_cases he : handleOf a ≤ end_.toNat
        · rw [if_neg fun hgt => habove.mp hgt he, ih hrest]
          by_cases hk : keep a = true <;> simp [hs, he, hk]
        · rw [if_pos (habove.mpr he), if_neg (by simp [he]), attributesIn_none fun b hb => ?_]
          have := hfirst b hb
          omega
      · rw [if_pos (hbelow.mpr hs), if_neg (by simp [hs]), ih hrest]

theorem present_ascending (h : LaidOut s) :
    (s.attributes.filterMap id).Pairwise fun a b => handleOf a < handleOf b := h.ascending

theorem between_eq (start end_ : BitVec 16) (keep : GattDbAttribute → Bool) (db : GattDb) :
    between start end_ keep db = (db.services.filter fun s => s.active).flatMap fun s =>
      (present s).filter fun a =>
        decide (start.toNat ≤ handleOf a) && (decide (handleOf a ≤ end_.toNat) && keep a) := by
  rw [between, activeAttributes, List.filter_flatMap]

theorem flatMap_active (f g : GattDbService → List GattDbAttribute) (services : List GattDbService)
    (h : ∀ s ∈ services, f s = if s.active then g s else []) :
    services.flatMap f = (services.filter fun s => s.active).flatMap g := by
  induction services with
  | nil => rfl
  | cons s services ih =>
    have hs := h s (by simp)
    rw [List.flatMap_cons, ih fun t ht => h t (by simp [ht]), hs, List.filter_cons]
    by_cases ha : s.active = true
    · rw [if_pos ha, if_pos ha, List.flatMap_cons]
    · rw [if_neg ha, if_neg ha, List.nil_append]

theorem readByType_between (h : Regular db) (type : BtUuid) :
    gattDbReadByType db start end_ type =
      between start end_ (fun a => btUuidSame type a.uuid) db := by
  rw [between_eq, gattDbReadByType]
  refine flatMap_active _ _ _ fun s hs => ?_
  rw [readByType]
  by_cases ha : s.active = true
  · rw [if_neg (by simp [ha]), if_pos ha, attributesIn_eq (present_ascending (h.laidOut s hs))]
    rfl
  · rw [if_pos (by simp [ha]), if_neg ha]

theorem findInformation_between (h : Regular db) :
    gattDbFindInformation db start end_ = between start end_ (fun _ => true) db := by
  rw [between_eq, gattDbFindInformation]
  refine flatMap_active _ _ _ fun s hs => ?_
  have hlaid := h.laidOut s hs
  rw [findInformation]
  by_cases ha : s.active = true
  · rw [if_neg (by simp [ha]), if_pos ha]
    by_cases hbefore : s.decl.handle.toNat + s.numHandles - 1 < start.toNat
    · rw [if_pos hbefore, eq_comm, List.filter_eq_nil_iff]
      intro a hm
      have hin : handleOf a ≤ lastOf s := hlaid.inside a hm
      have hlast : lastOf s = s.decl.handle.toNat + s.others.length := lastOf_eq s
      rw [GattDbService.numHandles] at hbefore
      simp
      omega
    · rw [if_neg hbefore, attributesIn_eq (present_ascending hlaid)]
      rfl
  · rw [if_pos (by simp [ha]), if_neg ha]

theorem first_le_present (h : LaidOut s) (ha : a ∈ present s) : firstOf s ≤ handleOf a := by
  obtain ⟨as, k, hfront⟩ := h.front
  have hasc := h.ascending
  rw [present_eq hfront] at ha hasc
  rcases List.mem_cons.mp ha with rfl | ha
  · exact Nat.le_refl _
  · exact Nat.le_of_lt ((List.pairwise_cons.mp hasc).1 a ha)

/-- The attributes of all active services are in the order of their handles. -/
theorem active_apart (h : Regular db) : Apart handleOf handleOf (activeAttributes db) := by
  rw [activeAttributes, Apart, List.pairwise_flatMap]
  have hsub : (db.services.filter fun s => s.active).Sublist db.services := List.filter_sublist
  refine ⟨fun s hs => (h.laidOut s (hsub.mem hs)).ascending, ?_⟩
  refine (apart_sublist h.apart hsub).imp_of_mem fun {s t} hs ht hlt a ha b hb => ?_
  have hle : handleOf a ≤ lastOf s := (h.laidOut s (hsub.mem hs)).inside a ha
  have hge := first_le_present (h.laidOut t (hsub.mem ht)) hb
  omega

theorem active_present (ha : a ∈ activeAttributes db) : ∃ s ∈ db.services, s.active ∧ a ∈ present s := by
  obtain ⟨s, hs, hmem⟩ := List.mem_flatMap.mp ha
  obtain ⟨hin, hact⟩ := List.mem_filter.mp hs
  exact ⟨s, hin, hact, hmem⟩

theorem active_pos (h : Regular db) (ha : a ∈ activeAttributes db) : 0 < handleOf a := by
  obtain ⟨s, hs, -, hmem⟩ := active_present ha
  exact Nat.lt_of_lt_of_le (h.handles s hs) (first_le_present (h.laidOut s hs) hmem)

theorem between_apart (h : Regular db) : Apart handleOf handleOf (between start end_ keep db) :=
  apart_sublist (active_apart h) List.filter_sublist

theorem mem_between : a ∈ between start end_ keep db ↔
    a ∈ activeAttributes db ∧ start.toNat ≤ handleOf a ∧ handleOf a ≤ end_.toNat ∧ keep a = true := by
  rw [between, List.mem_filter]
  simp

/-- A query from behind the first attributes of a range gives the others. -/
theorem between_rest (h : Regular db) (hitems : between start end_ keep db = done ++ rest)
    (hbehind : start'.toNat = behind handleOf start.toNat done) : between start' end_ keep db = rest := by
  have hapart : Apart handleOf handleOf (between start end_ keep db) := between_apart h
  have hge : start.toNat ≤ start'.toNat := by
    rw [hbehind, behind]
    cases hlast : done.getLast? with
    | none => exact Nat.le_refl _
    | some d =>
      have hmem : d ∈ between start end_ keep db := by
        rw [hitems]
        exact List.mem_append_left _ (List.mem_of_getLast? hlast)
      exact Nat.le_succ_of_le (mem_between.mp hmem).2.1
  have hfilter : between start' end_ keep db =
      (between start end_ keep db).filter fun a => decide (start'.toNat ≤ handleOf a) := by
    rw [between, between, List.filter_filter]
    refine List.filter_congr fun a _ => ?_
    by_cases h' : start'.toNat ≤ handleOf a
    · simp [h', Nat.le_trans hge h']
    · simp [h']
  rw [hfilter, hitems, hbehind]
  rw [hitems] at hapart
  refine apart_behind hapart (fun a _ => Nat.le_refl _) fun a ha => ?_
  have hmem : a ∈ between start end_ keep db := by
    rw [hitems]
    exact List.mem_append_right _ ha
  exact (mem_between.mp hmem).2.1

theorem startBehind_toNat (h : ∀ a ∈ done.getLast?, handleOf a < 65535) :
    (startBehind start done).toNat = behind handleOf start.toNat done := by
  rw [startBehind, behind]
  cases hlast : done.getLast? with
  | none => rfl
  | some a =>
    have hlt := h a hlast
    have hone : BitVec.toNat (1 : BitVec 16) = 1 := rfl
    have hhandle : handleOf a = a.handle.toNat := rfl
    show (a.handle + 1).toNat = handleOf a + 1
    rw [BitVec.toNat_add, hone]
    omega

theorem startBehind_append {page : List GattDbAttribute} (hlast : page.getLast? = some a) :
    startBehind start (done ++ page) = a.handle + 1 := by
  rw [startBehind, List.getLast?_append, hlast]
  rfl

end

end Gattlib.DatabaseQueries
