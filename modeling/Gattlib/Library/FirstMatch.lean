import Mathlib.Data.List.Basic
import Mathlib.Data.Nat.Notation

namespace Library.FirstMatch

/-! The first item of a list that has a property, when an item is changed in place -/

variable {α : Type} {p q : α → Bool} {g : α → α} {l : List α} {i : ℕ}

/-- The search finds the same place as long as the change keeps what is looked for. -/
theorem find_modify (hq : ∀ a, q (g a) = q a) (l : List α) (i : ℕ) :
    (l.modify i g).find? q = (l.find? q).map fun a => if l.findIdx? q = some i then g a else a := by
  induction l generalizing i with
  | nil => simp
  | cons a l ih =>
    by_cases ha : q a = true
    · cases i with
      | zero => simp [ha, hq, List.findIdx?_cons]
      | succ i => simp [ha, List.findIdx?_cons]
    · cases i with
      | zero => simp [ha, hq, List.findIdx?_cons]
      | succ i => simp [ha, ih, List.findIdx?_cons]

theorem find_getElem (h : l.findIdx? p = some i) : ∃ a, l[i]? = some a ∧ l.find? p = some a ∧ p a = true := by
  obtain ⟨hi, ha, hbefore⟩ := List.findIdx?_eq_some_iff_getElem.mp h
  refine ⟨l[i], List.getElem?_eq_getElem hi, ?_, ha⟩
  rw [List.find?_eq_some_iff_getElem]
  exact ⟨ha, i, hi, rfl, fun j hj => by simpa using hbefore j hj⟩

theorem find_none (h : l.findIdx? p = none) : l.find? p = none := by
  rw [List.find?_eq_none]
  intro a ha
  simpa using List.findIdx?_eq_none_iff.mp h a ha

theorem mem_modify {x : α} (h : x ∈ l.modify i g) : x ∈ l ∨ ∃ a, l[i]? = some a ∧ x = g a := by
  obtain ⟨j, hj⟩ := List.mem_iff_getElem?.mp h
  rw [List.getElem?_modify] at hj
  split at hj
  · rename_i hij
    subst hij
    obtain ⟨a, ha, rfl⟩ := Option.map_eq_some_iff.mp hj
    exact .inr ⟨a, ha, rfl⟩
  · rw [id_map'] at hj
    exact .inl (List.mem_of_getElem? hj)

/-- A map that the change does not touch gives the same list. -/
theorem map_modify_kept {β : Type} {m : α → β} (hm : ∀ a, m (g a) = m a) (l : List α) (i : ℕ) :
    (l.modify i g).map m = l.map m := by
  refine List.ext_getElem? fun j => ?_
  rw [List.getElem?_map, List.getElem?_map, List.getElem?_modify]
  split
  · cases l[j]? with
    | none => rfl
    | some a => exact congrArg some (hm a)
  · rw [id_map']

end Library.FirstMatch
