import Mathlib.Algebra.Order.Group.Multiset
import Mathlib.Data.Multiset.Filter
import Mathlib.Logic.Relation

namespace Library.Custody

/-! Things that are handed over together with a callback and a destroy function, each of them to be called
once at most, the callback before the other one -/

variable {υ : Type}

/-- What is held: the data, and which of the two functions there still are for it. -/
structure Token (υ : Type) where
  data : υ
  callback : Bool
  destroy : Bool

inductive Deed (υ : Type)
  | accepted (t : Token υ)
  | called (u : υ)
  | destroyed (u : υ)

def Deed.data : Deed υ → υ
  | .accepted t => t.data
  | .called u | .destroyed u => u

def Deed.accepts : Deed υ → Bool
  | .accepted _ => true
  | .called _ | .destroyed _ => false

/-- What letting go of something does. -/
def Token.letGo (t : Token υ) : List (Deed υ) := if t.destroy then [.destroyed t.data] else []

/-- What is held, and what has been done. -/
abbrev Holding (υ : Type) := Multiset (Token υ) × List (Deed υ)

/-- What the holder can do. Something may be let go before its callback only where that is `early`. -/
inductive Move (early : Prop) : Holding υ → Holding υ → Prop
  | accept {B : Multiset (Token υ)} {L : List (Deed υ)} (t : Token υ) :
      Move early (B, L) (t ::ₘ B, L ++ [.accepted t])
  | call {B : Multiset (Token υ)} {L : List (Deed υ)} (t : Token υ) (h : t.callback = true) :
      Move early (t ::ₘ B, L) ({ t with callback := false } ::ₘ B, L ++ [.called t.data])
  | release {B : Multiset (Token υ)} {L : List (Deed υ)} (t : Token υ) (h : t.callback = true → early) :
      Move early (t ::ₘ B, L) (B, L ++ t.letGo)

abbrev Moves (early : Prop) : Holding υ → Holding υ → Prop := Relation.ReflTransGen (Move early)

/-- How far one thing has come: what has been done with it, and what is held of it. -/
inductive Life (early : Prop) (u : υ) : List (Deed υ) → Multiset (Token υ) → Prop
  | fresh : Life early u [] 0
  | waiting (t : Token υ) : Life early u [.accepted t] {t}
  | called (t : Token υ) (h : t.callback = true) :
      Life early u [.accepted t, .called u] { { t with callback := false } }
  | unheard (t : Token υ) (hearly : t.callback = true → early) (h : t.destroy = true) :
      Life early u [.accepted t, .destroyed u] 0
  | ended (t : Token υ) (hc : t.callback = true) (h : t.destroy = true) :
      Life early u [.accepted t, .called u, .destroyed u] 0
  | dropped (t : Token υ) (heard : Bool) (h : t.destroy = false) :
      Life early u (.accepted t :: if heard then [.called u] else []) 0

variable [DecidableEq υ]

def deedsOf (u : υ) (L : List (Deed υ)) : List (Deed υ) := L.filter fun d => d.data = u

def tokensOf (u : υ) (B : Multiset (Token υ)) : Multiset (Token υ) := B.filter fun t => t.data = u

/-- No two things with the same data are handed over. -/
def Once (u : υ) (L : List (Deed υ)) : Prop := (deedsOf u L).countP Deed.accepts ≤ 1

section

variable {early : Prop} {B B' : Multiset (Token υ)} {L L' : List (Deed υ)} {c c' : Holding υ} {u : υ}
  {t : Token υ}

theorem deedsOf_append (u : υ) (L L' : List (Deed υ)) :
    deedsOf u (L ++ L') = deedsOf u L ++ deedsOf u L' := List.filter_append _ _

theorem tokensOf_cons (u : υ) (t : Token υ) (B : Multiset (Token υ)) :
    tokensOf u (t ::ₘ B) = if t.data = u then t ::ₘ tokensOf u B else tokensOf u B := by
  rw [tokensOf, Multiset.filter_cons]
  split
  · rw [Multiset.singleton_add]
    rfl
  · exact zero_add _

theorem letGo_deeds (u : υ) (t : Token υ) :
    deedsOf u t.letGo = if t.data = u then t.letGo else [] := by
  rw [Token.letGo]
  by_cases hd : t.destroy = true <;> by_cases hu : t.data = u <;> simp [deedsOf, Deed.data, hd, hu]

theorem once_before (h : Once u (L ++ L')) : Once u L := by
  rw [Once, deedsOf_append, List.countP_append] at h
  exact Nat.le_of_add_right_le h

/-- One move, and what it makes of a life. -/
theorem move_life (hm : Move early c c') (hone : Once u c'.2)
    (h : Life early u (deedsOf u c.2) (tokensOf u c.1)) : Life early u (deedsOf u c'.2) (tokensOf u c'.1) := by
  cases hm with
  | accept t =>
    rename_i B L
    show Life early u (deedsOf u (L ++ [.accepted t])) (tokensOf u (t ::ₘ B))
    rw [deedsOf_append, tokensOf_cons]
    by_cases ht : t.data = u
    · have hnew : deedsOf u [Deed.accepted t] = [.accepted t] := by simp [deedsOf, Deed.data, ht]
      rw [Once] at hone
      simp only [deedsOf_append, hnew, List.countP_append] at hone
      rw [hnew, if_pos ht]
      generalize deedsOf u L = D at *
      generalize tokensOf u B = K at *
      cases h with
      | fresh => exact .waiting t
      | waiting | called | unheard | ended | dropped => simp [Deed.accepts] at hone
    · have hnone : deedsOf u [Deed.accepted t] = [] := by simp [deedsOf, Deed.data, ht]
      rw [hnone, List.append_nil, if_neg ht]
      exact h
  | call t hc =>
    rename_i B L
    show Life early u (deedsOf u (L ++ [.called t.data])) (tokensOf u ({ t with callback := false } ::ₘ B))
    replace h : Life early u (deedsOf u L) (tokensOf u (t ::ₘ B)) := h
    rw [deedsOf_append, tokensOf_cons]
    rw [tokensOf_cons] at h
    by_cases ht : t.data = u
    · have hnew : deedsOf u [Deed.called t.data] = [.called u] := by simp [deedsOf, Deed.data, ht]
      rw [hnew, if_pos ht]
      rw [if_pos ht] at h
      generalize deedsOf u L = D at *
      generalize hK : t ::ₘ tokensOf u B = K at *
      cases h with
      | fresh | unheard | ended | dropped => exact absurd hK (Multiset.cons_ne_zero)
      | waiting t' =>
        obtain ⟨rfl, hB⟩ := Multiset.cons_eq_cons.mp hK |>.resolve_right (by simp)
        rw [hB]
        exact .called t hc
      | called t' hc' =>
        obtain ⟨rfl, -⟩ := Multiset.cons_eq_cons.mp hK |>.resolve_right (by simp)
        cases hc
    · have hnone : deedsOf u [Deed.called t.data] = [] := by simp [deedsOf, Deed.data, ht]
      rw [hnone, List.append_nil, if_neg ht]
      rwa [if_neg ht] at h
  | release t hearly =>
    rename_i B L
    show Life early u (deedsOf u (L ++ t.letGo)) (tokensOf u B)
    replace h : Life early u (deedsOf u L) (tokensOf u (t ::ₘ B)) := h
    rw [deedsOf_append, letGo_deeds]
    rw [tokensOf_cons] at h
    by_cases ht : t.data = u
    · rw [if_pos ht]
      rw [if_pos ht] at h
      generalize deedsOf u L = D at *
      generalize hK : t ::ₘ tokensOf u B = K at *
      have hgo : t.letGo = if t.destroy then [.destroyed u] else [] := by rw [Token.letGo, ht]
      rw [hgo]
      cases h with
      | fresh | unheard | ended | dropped => exact absurd hK (Multiset.cons_ne_zero)
      | waiting t' =>
        obtain ⟨rfl, hB⟩ := Multiset.cons_eq_cons.mp hK |>.resolve_right (by simp)
        rw [hB]
        cases hd : t.destroy with
        | true => exact .unheard t hearly hd
        | false => exact .dropped t false hd
      | called t' hc =>
        obtain ⟨rfl, hB⟩ := Multiset.cons_eq_cons.mp hK |>.resolve_right (by simp)
        rw [hB]
        cases hd : t'.destroy with
        | true => exact .ended t' hc hd
        | false => exact .dropped t' true hd
    · rw [if_neg ht, List.append_nil]
      rwa [if_neg ht] at h

/-- Whatever the holder does, what is handed over once has one of the lives. -/
theorem moves_life (hm : Moves early c c') (hone : Once u c'.2)
    (h : Life early u (deedsOf u c.2) (tokensOf u c.1)) : Life early u (deedsOf u c'.2) (tokensOf u c'.1) := by
  induction hm with
  | refl => exact h
  | tail _ hm ih =>
    refine move_life hm hone (ih ?_)
    cases hm with
    | accept | call | release => exact once_before hone

omit [DecidableEq υ] in
theorem moves_grow (hm : Moves early c c') : ∃ L, c'.2 = c.2 ++ L := by
  induction hm with
  | refl => exact ⟨[], (List.append_nil _).symm⟩
  | tail _ hm ih =>
    obtain ⟨L, hL⟩ := ih
    cases hm with
    | accept t => exact ⟨L ++ [.accepted t], by rw [← List.append_assoc, ← hL]⟩
    | call t => exact ⟨L ++ [.called t.data], by rw [← List.append_assoc, ← hL]⟩
    | release t => exact ⟨L ++ t.letGo, by rw [← List.append_assoc, ← hL]⟩

omit [DecidableEq υ] in
/-- A life that has ended without a call does not go on. -/
theorem unheard_final {D : List (Deed υ)} {K : Multiset (Token υ)}
    (h : Life early u (.accepted t :: .destroyed u :: D) K) : D = [] := by
  generalize hE : Deed.accepted t :: Deed.destroyed u :: D = E at h
  cases h with
  | unheard => exact (List.cons.inj (List.cons.inj hE).2).2
  | fresh | waiting | called | ended => simp at hE
  | dropped t' heard => cases heard <;> simp at hE

end

end Library.Custody
