import Mathlib.Logic.Function.Basic

namespace Library.Memory

/-- Memory for objects of one type. Blocks are numbered in the order of their
allocation, and a block that has been freed is never handed out again. -/
structure Heap (α : Type) where
  next : Nat
  cell : Nat → Option α
  fresh : ∀ p, next ≤ p → cell p = none

variable {α : Type}

def empty : Heap α := ⟨0, fun _ => none, fun _ _ => rfl⟩

def alloc (h : Heap α) (v : α) : Heap α where
  next := h.next + 1
  cell := Function.update h.cell h.next (some v)
  fresh p hp := by
    have hne : p ≠ h.next := by omega
    rw [Function.update_of_ne hne]
    exact h.fresh p (by omega)

/-- Writing to a block that is not allocated has no effect. -/
def modify (h : Heap α) (p : Nat) (f : α → α) : Heap α where
  next := h.next
  cell := Function.update h.cell p ((h.cell p).map f)
  fresh q hq := by
    by_cases hne : q = p
    · subst q
      rw [Function.update_self, h.fresh p hq]
      rfl
    · rw [Function.update_of_ne hne]
      exact h.fresh q hq

def free (h : Heap α) (p : Nat) : Heap α where
  next := h.next
  cell := Function.update h.cell p none
  fresh q hq := by
    by_cases hne : q = p
    · subst q
      rw [Function.update_self]
    · rw [Function.update_of_ne hne]
      exact h.fresh q hq

theorem lt_next {h : Heap α} {p : Nat} {v : α} (hp : h.cell p = some v) : p < h.next := by
  by_contra hge
  rw [h.fresh p (by omega)] at hp
  cases hp

@[simp] theorem cell_next (h : Heap α) : h.cell h.next = none := h.fresh _ (Nat.le_refl _)

@[simp] theorem alloc_self (h : Heap α) (v : α) : (alloc h v).cell h.next = some v :=
  Function.update_self ..

theorem alloc_ne (h : Heap α) (v : α) {p : Nat} (hp : p ≠ h.next) :
    (alloc h v).cell p = h.cell p :=
  Function.update_of_ne hp ..

/-- Allocation keeps every object that is there. -/
theorem alloc_keeps {h : Heap α} {p : Nat} {v w : α} (hp : h.cell p = some w) :
    (alloc h v).cell p = some w := by
  rw [alloc_ne h v (Nat.ne_of_lt (lt_next hp)), hp]

@[simp] theorem modify_self (h : Heap α) (p : Nat) (f : α → α) :
    (modify h p f).cell p = (h.cell p).map f :=
  Function.update_self ..

@[simp] theorem modify_ne (h : Heap α) {p q : Nat} (f : α → α) (hq : q ≠ p) :
    (modify h p f).cell q = h.cell q :=
  Function.update_of_ne hq ..

@[simp] theorem free_self (h : Heap α) (p : Nat) : (free h p).cell p = none :=
  Function.update_self ..

@[simp] theorem free_ne (h : Heap α) {p q : Nat} (hq : q ≠ p) :
    (free h p).cell q = h.cell q :=
  Function.update_of_ne hq ..

@[ext] theorem Heap.ext {h g : Heap α} (hn : h.next = g.next) (hc : h.cell = g.cell) : h = g := by
  cases h
  cases g
  cases hn
  cases hc
  rfl

theorem modify_modify (h : Heap α) (p : Nat) (f g : α → α) :
    modify (modify h p f) p g = modify h p (g ∘ f) := by
  apply Heap.ext
  · rfl
  · funext q
    by_cases hq : q = p
    · subst q
      simp
    · simp [hq]

theorem modify_cell (h : Heap α) (p q : Nat) (f : α → α) :
    (modify h p f).cell q = if q = p then (h.cell p).map f else h.cell q := by
  by_cases hq : q = p
  · subst q
    simp
  · simp [hq]

/-- A rewrite does not show in what it leaves alone. -/
theorem modify_map {β : Type} (h : Heap α) (p q : Nat) {f : α → α} {view : α → β}
    (hf : ∀ v, view (f v) = view v) :
    ((modify h p f).cell q).map view = (h.cell q).map view := by
  rw [modify_cell]
  by_cases hq : q = p
  · subst q
    rw [if_pos rfl, Option.map_map]
    exact congrArg (Option.map · (h.cell p)) (funext hf)
  · rw [if_neg hq]

/-- Rewriting an object whose value is known is writing a new value. -/
theorem modify_known {h : Heap α} {p : Nat} {v : α} (hp : h.cell p = some v) (f : α → α) :
    modify h p f = modify h p (fun _ => f v) := by
  apply Heap.ext
  · rfl
  · funext q
    rw [modify_cell, modify_cell, hp]
    rfl

theorem modify_same {h : Heap α} {p : Nat} {v : α} (hp : h.cell p = some v) :
    modify h p (fun _ => v) = h := by
  apply Heap.ext
  · rfl
  · funext q
    rw [modify_cell, hp]
    by_cases hq : q = p
    · rw [if_pos hq, hq, hp]
      rfl
    · rw [if_neg hq]

end Library.Memory
