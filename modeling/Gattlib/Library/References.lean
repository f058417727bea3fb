import Gattlib.Library.Transition

namespace Library.References

open Library.Transition

/-- Objects with a counter each, and how many references to them there are. An object
that has been freed has no counter. -/
@[ext] structure Counts where
  next : Nat
  count : Nat → Option Nat
  holders : Nat → Nat

/-- The counter when a reference is dropped. The last one frees the object. -/
def decremented (n : Nat) : Option Nat := if n - 1 > 0 then some (n - 1) else none

/-- An object comes with one reference, references are taken, and references are dropped. -/
inductive Step (s : Counts) : Counts → Prop
  | same : Step s s
  | created : Step s ⟨s.next + 1, Function.update s.count s.next (some 1),
      Function.update s.holders s.next (s.holders s.next + 1)⟩
  | taken {p n : Nat} (hp : s.count p = some n) : Step s ⟨s.next,
      Function.update s.count p (some (n + 1)), Function.update s.holders p (s.holders p + 1)⟩
  | dropped {p n : Nat} (hp : s.count p = some n) (hh : 0 < s.holders p) : Step s ⟨s.next,
      Function.update s.count p (decremented n), Function.update s.holders p (s.holders p - 1)⟩

/-- Every counter is the number of references, and what has been freed has none. -/
structure Balanced (s : Counts) : Prop where
  counted : ∀ p n, s.count p = some n → n = s.holders p ∧ 0 < n
  unheld : ∀ p, s.count p = none → s.holders p = 0
  fresh : ∀ p, s.next ≤ p → s.count p = none

/-- The step from `s` to `t` frees an object. -/
def frees (s t : Counts) (p : Nat) : Bool := (s.count p).isSome && (t.count p).isNone

section

variable {s t : Counts} {p n : Nat}

theorem decremented_none (h : decremented n = none) (hn : 0 < n) : n = 1 := by
  unfold decremented at h
  split at h
  · cases h
  · omega

theorem decremented_some {m : Nat} (h : decremented n = some m) : m = n - 1 ∧ 0 < m := by
  unfold decremented at h
  split at h
  · next hpos =>
    cases h
    exact ⟨rfl, hpos⟩
  · cases h

/-- Only one object is changed: what it has to meet is what the others meet already. -/
theorem balanced_updated (h : Balanced s) {m : Nat} {c : Option Nat} {k : Nat} (hm : s.next ≤ m)
    (hlt : p < m) (hc : ∀ n, c = some n → n = k ∧ 0 < n) (hn : c = none → k = 0) :
    Balanced ⟨m, Function.update s.count p c, Function.update s.holders p k⟩ := by
  refine ⟨fun q n hq => ?_, fun q hq => ?_, fun q hq => ?_⟩
  · have hq : Function.update s.count p c q = some n := hq
    show n = Function.update s.holders p k q ∧ 0 < n
    by_cases hqp : q = p
    · subst q
      rw [Function.update_self] at hq
      rw [Function.update_self]
      exact hc n hq
    · rw [Function.update_of_ne hqp] at hq
      rw [Function.update_of_ne hqp]
      exact h.counted q n hq
  · have hq : Function.update s.count p c q = none := hq
    show Function.update s.holders p k q = 0
    by_cases hqp : q = p
    · subst q
      rw [Function.update_self] at hq
      rw [Function.update_self]
      exact hn hq
    · rw [Function.update_of_ne hqp] at hq
      rw [Function.update_of_ne hqp]
      exact h.unheld q hq
  · have hq : m ≤ q := hq
    have hqp : q ≠ p := by omega
    show Function.update s.count p c q = none
    rw [Function.update_of_ne hqp]
    exact h.fresh q (Nat.le_trans hm hq)

theorem count_lt (h : Balanced s) (hp : s.count p = some n) : p < s.next := by
  by_contra hge
  rw [h.fresh p (by omega)] at hp
  cases hp

theorem balanced_step (h : Balanced s) (hs : Step s t) : Balanced t := by
  cases hs with
  | same => exact h
  | created =>
    have hzero := h.unheld s.next (h.fresh s.next (Nat.le_refl _))
    refine balanced_updated h (Nat.le_succ _) (Nat.lt_succ_self _) (fun n hn => ?_) (fun hn => ?_)
    · cases hn
      exact ⟨by rw [hzero], Nat.one_pos⟩
    · cases hn
  | @taken p n hp =>
    obtain ⟨hcount, _⟩ := h.counted p n hp
    refine balanced_updated h (Nat.le_refl _) (count_lt h hp) (fun m hm => ?_) (fun hm => ?_)
    · cases hm
      exact ⟨by rw [hcount], Nat.succ_pos _⟩
    · cases hm
  | @dropped p n hp hh =>
    obtain ⟨hcount, hpos⟩ := h.counted p n hp
    refine balanced_updated h (Nat.le_refl _) (count_lt h hp) (fun m hm => ?_) (fun hm => ?_)
    · obtain ⟨rfl, hm⟩ := decremented_some hm
      exact ⟨by rw [hcount], hm⟩
    · have hone := decremented_none hm hpos
      omega

/-- An object has been freed exactly when no reference is left. -/
theorem freed_iff (h : Balanced s) : s.count p = none ↔ s.holders p = 0 := by
  refine ⟨h.unheld p, fun hz => ?_⟩
  cases hp : s.count p with
  | none => rfl
  | some n =>
    obtain ⟨hcount, hpos⟩ := h.counted p n hp
    omega

theorem next_mono (hs : Step s t) : s.next ≤ t.next := by
  cases hs with
  | created => exact Nat.le_succ _
  | same | taken _ | dropped _ _ => exact Nat.le_refl _

/-- What has been freed is not created again. -/
theorem stays_freed (hs : Step s t) (hlt : p < s.next) (hp : s.count p = none) :
    t.count p = none := by
  cases hs with
  | same => exact hp
  | created => exact (Function.update_of_ne (Nat.ne_of_lt hlt) ..).trans hp
  | @taken q n hq | @dropped q n hq _ =>
    have hne : p ≠ q := by
      rintro rfl
      rw [hp] at hq
      cases hq
    exact (Function.update_of_ne hne ..).trans hp

end

section

variable {S E : Type} {step : S → E → Option S} {init : S → Prop} {view : S → Counts}
  {tr : List (S × E × S)} {s : S}

/-- A run whose steps are steps of counters is balanced. An object it frees stays freed
and is not freed again, and an object that is gone at its end has been freed or was never there. -/
theorem run_balanced (hinit : ∀ s, init s → Balanced (view s))
    (hsim : ∀ x ∈ tr, Step (view x.1) (view x.2.2)) (h : Run step init tr s) :
    Balanced (view s) ∧ ∀ p,
      (tr.countP (fun x => frees (view x.1) (view x.2.2) p) = 0 ∧
        ((view s).count p = none → ∀ x ∈ tr, (view x.1).count p = none)) ∨
      (tr.countP (fun x => frees (view x.1) (view x.2.2) p) = 1 ∧ p < (view s).next ∧
        (view s).count p = none) := by
  induction h with
  | start h => exact ⟨hinit _ h, fun p => Or.inl ⟨rfl, fun _ => by simp⟩⟩
  | @next s t e tr h hs ih =>
    obtain ⟨hbal, hcount⟩ := ih (fun x hx => hsim x (List.mem_cons_of_mem _ hx))
    have hstep := hsim _ List.mem_cons_self
    refine ⟨balanced_step hbal hstep, fun p => ?_⟩
    rw [List.countP_cons]
    by_cases hfree : frees (view s) (view t) p = true
    · obtain ⟨hsome, hnone⟩ := Bool.and_eq_true_iff.mp hfree
      obtain ⟨n, hn⟩ := Option.isSome_iff_exists.mp hsome
      rw [if_pos hfree]
      rcases hcount p with ⟨hz, _⟩ | ⟨_, _, hdead⟩
      · exact Or.inr ⟨by rw [hz], Nat.lt_of_lt_of_le (count_lt hbal hn) (next_mono hstep),
          Option.isNone_iff_eq_none.mp hnone⟩
      · cases hdead.symm.trans hn
    · rw [if_neg hfree]
      rcases hcount p with ⟨hz, hnever⟩ | ⟨hone, hlt, hdead⟩
      · refine Or.inl ⟨hz, fun hgone => ?_⟩
        have hs : (view s).count p = none := by
          by_contra hsome
          apply hfree
          unfold frees
          rw [hgone, Option.isSome_iff_ne_none.mpr hsome]
          rfl
        exact List.forall_mem_cons.mpr ⟨hs, hnever hs⟩
      · exact Or.inr ⟨hone, Nat.lt_of_lt_of_le hlt (next_mono hstep), stays_freed hstep hlt hdead⟩

end

end Library.References
