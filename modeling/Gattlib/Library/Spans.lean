import Mathlib.Data.List.InsertIdx
import Mathlib.Data.Nat.Notation

namespace Library.Spans

/-! Lists whose elements cover ranges of numbers, one behind the other -/

variable {α : Type} {first last : α → ℕ} {l : List α} {a b x : α} {i n : ℕ}

/-- Each element ends before the next one begins. -/
def Apart (first last : α → ℕ) (l : List α) : Prop := l.Pairwise fun a b => last a < first b

def Covers (first last : α → ℕ) (n : ℕ) (a : α) : Prop := first a ≤ n ∧ n ≤ last a

theorem apart_sublist {l' : List α} (h : Apart first last l) (hs : l'.Sublist l) :
    Apart first last l' := List.Pairwise.sublist hs h

/-- An element may go between those that end before it and those that begin behind it. -/
theorem apart_insert (h : Apart first last l) (hbefore : ∀ a ∈ l.take i, last a < first x)
    (hbehind : ∀ b ∈ l.drop i, last x < first b) : Apart first last (l.insertIdx i x) := by
  induction l generalizing i with
  | nil => cases i <;> simp [Apart]
  | cons a l ih =>
    obtain ⟨ha, hl⟩ := List.pairwise_cons.mp h
    cases i with
    | zero =>
      rw [List.insertIdx_zero]
      exact List.pairwise_cons.mpr ⟨hbehind, h⟩
    | succ i =>
      rw [List.insertIdx_succ_cons]
      have hax : last a < first x := hbefore a (by simp)
      refine List.pairwise_cons.mpr ⟨fun b hb => ?_, ih hl (fun c hc => hbefore c (by simp [hc]))
        (fun c hc => hbehind c (by simpa using hc))⟩
      rcases List.eq_or_mem_of_mem_insertIdx hb with rfl | hb
      · exact hax
      · exact ha b hb

theorem insert_apart (h : Apart first last (l.insertIdx i x)) (hi : i ≤ l.length) (ha : a ∈ l) :
    last a < first x ∨ last x < first a := by
  induction l generalizing i with
  | nil => cases ha
  | cons b l ih =>
    cases i with
    | zero =>
      rw [List.insertIdx_zero] at h
      exact .inr ((List.pairwise_cons.mp h).1 a ha)
    | succ i =>
      rw [List.insertIdx_succ_cons] at h
      obtain ⟨hb, hl⟩ := List.pairwise_cons.mp h
      rcases List.mem_cons.mp ha with rfl | ha
      · exact .inl (hb x (List.mem_insertIdx (Nat.le_of_succ_le_succ hi) |>.mpr (.inl rfl)))
      · exact ih hl (Nat.le_of_succ_le_succ hi) ha

/-- The number behind the last of the elements, or `n` when there are none. -/
def behind (last : α → ℕ) (n : ℕ) (l : List α) : ℕ := (l.getLast?.map (last · + 1)).getD n

/-- Those that begin behind the first ones are the others. -/
theorem apart_behind {l' : List α} (h : Apart first last (l ++ l')) (hle : ∀ a ∈ l, first a ≤ last a)
    (hn : ∀ a ∈ l', n ≤ first a) :
    (l ++ l').filter (fun a => decide (behind last n l ≤ first a)) = l' := by
  cases hlast : l.getLast? with
  | none =>
    obtain rfl := List.getLast?_eq_none_iff.mp hlast
    rw [List.nil_append, List.filter_eq_self]
    intro a ha
    exact decide_eq_true (hn a ha)
  | some b =>
    have hb : b ∈ l := List.mem_of_getLast? hlast
    have hbehind : behind last n l = last b + 1 := by rw [behind, hlast]; rfl
    obtain ⟨hl, -, hcross⟩ := List.pairwise_append.mp h
    have hkept : l'.filter (fun a => decide (last b + 1 ≤ first a)) = l' :=
      List.filter_eq_self.mpr fun a ha => decide_eq_true (hcross b hb a ha)
    rw [hbehind, List.filter_append, hkept, List.filter_eq_nil_iff.mpr fun a ha => ?_, List.nil_append]
    obtain ⟨front, rfl⟩ := List.getLast?_eq_some_iff.mp hlast
    have hbound : first a ≤ last b := by
      rcases List.mem_append.mp ha with hm | hm
      · have hlt := (List.pairwise_append.mp hl).2.2 a hm b (by simp)
        have := hle a ha
        have := hle b hb
        omega
      · rw [List.mem_singleton] at hm
        exact hm ▸ hle b hb
    simp only [decide_eq_true_eq]
    omega

end Library.Spans
