import Gattlib.Library.Locks

namespace Library.Locks

open Library.Transition

variable {L D C E : Type}

/-! What a step does to the threads that do not take it -/

section

variable {recursive : L → Bool} {take : (L → Nat) → L → Prop} {locks : L → Prop}
  {s s' : State L D} {t u : Nat} {l m r : L}

/-- A sleeping thread holds neither a recursive lock nor the one it will take. -/
theorem asleep_holds {h : L → Nat} {n : L} (hs : Sleepable recursive take h n)
    (hr : recursive l = true ∨ recursive n = true ∨ l = n) : h l = 0 := by
  rcases hr with hr | hr | hr
  · exact hs.outer l hr
  · rw [hs.plain] at hr
    cases hr
  · rw [hr]
    exact hs.free

theorem between_proceed {o : Owners L} {k : Cmd L D} (hu : u ≠ t)
    (ho : held o u = held s.owners u) :
    Between (proceed s t o k) u l m ↔ Between s u l m := by
  unfold Between proceed
  dsimp only
  rw [ho, Function.update_of_ne hu]

/-- A thread that wakes is not between two locks. -/
theorem between_woken {n : L} {k : Cmd L D} (hs : Sleepable recursive take (held s.owners t) n)
    (hr : recursive l = true ∨ recursive m = true ∨ l = m) :
    ¬Between (proceed s t s.owners (.acquire n k)) t l m := by
  rintro ⟨hl, k', hk'⟩
  simp only [proceed, Function.update_self, settle, Cmd.acquire.injEq] at hk'
  have hzero := asleep_holds hs (hk'.1 ▸ hr)
  have hl' : 0 < held s.owners t l := hl
  omega

theorem wants_eq {k k' : Cmd L D} (h : s.threads t = .acquire l k)
    (h' : s.threads t = .acquire m k') : l = m := by
  rw [h] at h'
  cases h'
  rfl

theorem held_unique (ht : 0 < held s.owners t l) (hu : 0 < held s.owners u l) : t = u := by
  obtain ⟨n, hn⟩ := owner_of_held ht
  by_contra hne
  rw [held_other hn hne] at hu
  omega

/-- Threads that take locks in the order of their ranks do not wait in a cycle. -/
theorem ranked_not_deadlocked (rank : L → Nat)
    (h : ∀ t u l m, WaitsOn recursive locks s t u l → locks m → 0 < held s.owners t m →
      rank m < rank l) : ¬Deadlocked recursive locks s := by
  have hchain : ∀ t u, Relation.TransGen (Waits recursive locks s) t u →
      ∃ l m v, WaitsOn recursive locks s t v l ∧ locks m ∧ 0 < held s.owners u m ∧
        rank l ≤ rank m := by
    intro t u ht
    induction ht with
    | single hw =>
      obtain ⟨l, hl⟩ := hw
      exact ⟨l, l, _, hl, hl.among, hl.owner, Nat.le_refl _⟩
    | tail _ hw ih =>
      obtain ⟨l, m, v, hl, hm, hheld, hle⟩ := ih
      obtain ⟨n, hn⟩ := hw
      have hlt := h _ _ n m hn hm hheld
      exact ⟨l, n, v, hl, hn.among, hn.owner, Nat.le_trans hle (Nat.le_of_lt hlt)⟩
  rintro ⟨t, ht⟩
  obtain ⟨l, m, v, hl, hm, hheld, hle⟩ := hchain t t ht
  have hlt := h t v l m hl hm hheld
  omega

end

section

variable [DecidableEq L] {recursive : L → Bool} {take : (L → Nat) → L → Prop}
  {s s' : State L D} {t u : Nat} {l m : L}

theorem between_wakened {h : L → Nat} {k : Cmd L D} {n : L} (hs : Respects recursive take h k)
    (hw : ∃ k', wakened n k = .acquire m k') (hl : 0 < h l)
    (hr : recursive l = true ∨ recursive m = true ∨ l = m) : ∃ k', k = .acquire m k' := by
  obtain ⟨k', hk'⟩ := hw
  cases k with
  | asleep n' timed k k'' =>
    rw [wakened] at hk'
    split at hk'
    · cases hk'
      have hzero := asleep_holds hs.1 hr
      omega
    · cases hk'
  | acquire n' k =>
    cases hk'
    exact ⟨_, rfl⟩
  | done | release | update | ask | broadcast | wait | await => cases hk'

theorem between_run (hs : Sane recursive take s) (hr : runThread recursive s t = some s')
    (hu : u ≠ t) (hl : recursive l = true ∨ recursive m = true ∨ l = m) :
    Between s' u l m ↔ Between s u l m := by
  unfold runThread at hr
  split at hr
  · obtain ⟨o, ho, rfl⟩ := Option.map_eq_some_iff.mp hr
    exact between_proceed hu (by rw [held_enter ho, if_neg hu])
  · obtain ⟨o, ho, rfl⟩ := Option.map_eq_some_iff.mp hr
    exact between_proceed hu (by rw [held_leave ho, if_neg hu])
  · next n k hc =>
    cases hr
    have hproceed : Between (proceed (wakeAll s n) t s.owners k) u l m ↔
        Between (wakeAll s n) u l m := between_proceed hu rfl
    rw [hproceed]
    constructor
    · rintro ⟨hheld, hk⟩
      exact ⟨hheld, between_wakened (hs u) hk hheld hl⟩
    · rintro ⟨hheld, k', hk'⟩
      refine ⟨hheld, k', ?_⟩
      simp only [wakeAll, hk', wakened]
  · obtain ⟨o, ho, rfl⟩ := Option.map_eq_some_iff.mp hr
    exact between_proceed hu (by rw [held_leave ho, if_neg hu])
  all_goals cases hr

/-- Only the thread that takes a step gets between two locks by it. -/
theorem between_step {S : System L D C E} {e : Event C E} (hs : Sane S.recursive take s)
    (hstep : step S s e = some s')
    (hl : S.recursive l = true ∨ S.recursive m = true ∨ l = m) (hb : Between s' u l m) :
    Between s u l m ∨ e = .run u ∧ Lands S.recursive s u l m := by
  cases e with
  | start t c =>
    have ht := hs t
    simp only [step] at hstep
    split at hstep
    · next hc =>
      cases hstep
      rw [hc] at ht
      by_cases hu : u = t
      · subst u
        have hheld : 0 < held s.owners t l := hb.1
        have hzero := ht l
        omega
      · exact Or.inl ((between_proceed hu rfl).mp hb)
    · cases hstep
  | run t =>
    by_cases hu : u = t
    · subst u
      exact Or.inr ⟨rfl, s', hstep, hb⟩
    · exact Or.inl ((between_run hs hstep hu hl).mp hb)
  | wake t =>
    have ht := hs t
    simp only [step] at hstep
    split at hstep
    · next hc =>
      cases hstep
      rw [hc] at ht
      by_cases hu : u = t
      · subst u
        exact absurd hb (between_woken ht.1 hl)
      · exact Or.inl ((between_proceed hu rfl).mp hb)
    · cases hstep
  | timeout t =>
    have ht := hs t
    simp only [step] at hstep
    split at hstep
    · next hc =>
      cases hstep
      rw [hc] at ht
      by_cases hu : u = t
      · subst u
        exact absurd hb (between_woken ht.1 hl)
      · exact Or.inl ((between_proceed hu rfl).mp hb)
    · cases hstep
  | other e =>
    simp only [step] at hstep
    split at hstep
    · obtain ⟨d, _, rfl⟩ := Option.map_eq_some_iff.mp hstep
      exact Or.inl hb
    · cases hstep

end

/-! A thread that runs while no other one has been started -/

def Alone (t : Nat) (s : State L D) : Prop := ∀ u, u ≠ t → s.threads u = .done

/-- The step is one of the given thread, or of none. -/
def Only (t : Nat) : Event C E → Prop
  | .start u _ | .run u | .wake u | .timeout u => u = t
  | .other _ => True

section

variable {s s' : State L D} {t u : Nat} {l m : L}

theorem alone_between (h : Alone t s) (hu : u ≠ t) : ¬Between s u l m := by
  rintro ⟨_, k, hk⟩
  rw [h u hu] at hk
  cases hk

theorem alone_proceed {o : Owners L} {k : Cmd L D} (h : Alone t s) :
    Alone t (proceed s t o k) := by
  intro u hu
  simp only [proceed, Function.update_of_ne hu]
  exact h u hu

variable [DecidableEq L]

theorem alone_run {recursive : L → Bool} (h : Alone t s)
    (hr : runThread recursive s t = some s') : Alone t s' := by
  unfold runThread at hr
  split at hr
  · obtain ⟨o, _, rfl⟩ := Option.map_eq_some_iff.mp hr
    exact alone_proceed h
  · obtain ⟨o, _, rfl⟩ := Option.map_eq_some_iff.mp hr
    exact alone_proceed h
  · cases hr
    refine alone_proceed (fun u hu => ?_)
    simp only [wakeAll, h u hu, wakened]
  · obtain ⟨o, _, rfl⟩ := Option.map_eq_some_iff.mp hr
    exact alone_proceed h
  all_goals cases hr

theorem alone_step {S : System L D C E} {e : Event C E} (h : Alone t s) (he : Only t e)
    (hstep : step S s e = some s') : Alone t s' := by
  cases e with
  | start u c =>
    cases he
    simp only [step] at hstep
    split at hstep
    · cases hstep
      exact alone_proceed h
    · cases hstep
  | run u =>
    cases he
    exact alone_run h hstep
  | wake u =>
    cases he
    simp only [step] at hstep
    split at hstep
    · cases hstep
      exact alone_proceed h
    · cases hstep
  | timeout u =>
    cases he
    simp only [step] at hstep
    split at hstep
    · cases hstep
      exact alone_proceed h
    · cases hstep
  | other e =>
    simp only [step] at hstep
    split at hstep
    · obtain ⟨d, _, rfl⟩ := Option.map_eq_some_iff.mp hstep
      exact h
    · cases hstep

/-- Every step of such a run is taken from a state in which the thread is alone. -/
theorem run_alone {S : System L D C E} {data : D → Prop} {t : Nat}
    {tr : List (State L D × Event C E × State L D)} (h : Run (step S) (Idle data) tr s)
    (honly : ∀ x ∈ tr, Only t x.2.1) : ∀ x ∈ tr, Alone t x.1 := by
  have hinit : ∀ s : State L D, Idle data s → Alone t s := fun _ hi u _ => hi.threads u
  have hstep : Preserves (step S) (fun _ => Only t) (Alone t) :=
    fun _ _ _ ha he hs => alone_step ha he hs
  exact fun x hx => ((run_steps hinit hstep h honly).2 x hx).1

end

/-! One recursive lock among plain ones -/

/-- The locks in question: a recursive one and plain ones, which are not taken one
inside another. -/
structure OneRecursive (recursive : L → Bool) (take : (L → Nat) → L → Prop) (locks : L → Prop)
    (r : L) : Prop where
  among : locks r
  again : recursive r = true
  plain : ∀ l, locks l → l = r ∨ recursive l = false
  apart : ∀ h l m, take h l → locks l → locks m → recursive l = false → recursive m = false →
    m ≠ l → h m = 0

/-- No thread is about to take a plain lock again, and no two threads take a plain
lock and the recursive one in opposite orders. -/
structure Clear (recursive : L → Bool) (locks : L → Prop) (r : L) (s : State L D) : Prop where
  again : ∀ t l, locks l → recursive l = false → ¬Between s t l l
  opposite : ∀ t u l, locks l → recursive l = false → Between s t r l → ¬Between s u l r

section

variable {recursive : L → Bool} {take : (L → Nat) → L → Prop} {locks : L → Prop} {s : State L D}
  {r : L}

theorem not_deadlocked_clear (ho : OneRecursive recursive take locks r)
    (hd : ¬Deadlocked recursive locks s) : Clear recursive locks r s := by
  refine ⟨fun t l hl hp hb => ?_, fun t u l hl hp ht hu => ?_⟩
  · exact hd ⟨t, .single ⟨l, hl, hb.2, hb.1, fun _ => hp⟩⟩
  · have hne : t ≠ u := by
      rintro rfl
      obtain ⟨k, hk⟩ := ht.2
      obtain ⟨k', hk'⟩ := hu.2
      have hlr := wants_eq hk hk'
      rw [hlr, ho.again] at hp
      cases hp
    have htu : Waits recursive locks s t u := ⟨l, hl, ht.2, hu.1, fun he => absurd he.symm hne⟩
    have hut : Waits recursive locks s u t := ⟨r, ho.among, hu.2, ht.1, fun he => absurd he hne⟩
    exact hd ⟨t, .tail (.single htu) hut⟩

theorem clear_idle {data : D → Prop} (hi : Idle data s) (recursive : L → Bool) :
    Clear recursive locks r s := by
  refine ⟨fun t l _ _ hb => ?_, fun t _ l _ _ ht => ?_⟩
  · obtain ⟨k, hk⟩ := hb.2
    rw [hi.threads] at hk
    cases hk
  · obtain ⟨k, hk⟩ := ht.2
    rw [hi.threads] at hk
    cases hk

end

section

variable [DecidableEq L] {recursive : L → Bool} {take : (L → Nat) → L → Prop} {locks : L → Prop}
  {s s' : State L D} {t u : Nat} {l m r : L}

/-- A thread that waits for the recursive lock holds plain ones at most, and one that
waits for a plain lock holds no other plain one. -/
theorem waits_plain (ho : OneRecursive recursive take locks r) (hs : Sane recursive take s)
    (hc : Clear recursive locks r s) (hw : WaitsOn recursive locks s t u l) (hm : locks m)
    (hheld : 0 < held s.owners t m) :
    l = r ∧ recursive m = false ∨ recursive l = false ∧ m = r := by
  obtain ⟨k, hk⟩ := hw.wants
  rcases ho.plain l hw.among with rfl | hl
  · left
    refine ⟨rfl, (ho.plain m hm).resolve_left ?_⟩
    rintro rfl
    have hagain := hw.again (held_unique hw.owner hheld)
    rw [ho.again] at hagain
    cases hagain
  · right
    refine ⟨hl, (ho.plain m hm).resolve_right (fun hp => ?_)⟩
    by_cases hml : m = l
    · subst hml
      exact hc.again t m hm hl ⟨hheld, k, hk⟩
    · have ht := hs t
      rw [hk] at ht
      have hzero := ho.apart _ _ _ ht.1 hw.among hm hl hp hml
      omega

theorem clear_not_deadlocked (ho : OneRecursive recursive take locks r)
    (hs : Sane recursive take s) (hc : Clear recursive locks r s) :
    ¬Deadlocked recursive locks s := by
  by_cases hx : ∃ t l, locks l ∧ recursive l = false ∧ Between s t r l
  · -- the holder of the recursive lock is about to take a plain one, which comes last
    obtain ⟨t₀, l₀, hl₀, hp₀, hb₀⟩ := hx
    have hne : r ≠ l₀ := by
      rintro rfl
      rw [ho.again] at hp₀
      cases hp₀
    apply ranked_not_deadlocked (fun l => if l = r then 1 else if l = l₀ then 2 else 0)
    intro t u l m hw hm hheld
    obtain ⟨k, hk⟩ := hw.wants
    rcases waits_plain ho hs hc hw hm hheld with ⟨rfl, hp⟩ | ⟨hp, rfl⟩
    · have hml : m ≠ l₀ := by
        rintro rfl
        exact hc.opposite t₀ t m hm hp hb₀ ⟨hheld, k, hk⟩
      have hmr : m ≠ l := by
        rintro rfl
        rw [ho.again] at hp
        cases hp
      rw [if_neg hmr, if_neg hml, if_pos rfl]
      exact Nat.one_pos
    · obtain ⟨k₀, hk₀⟩ := hb₀.2
      have ht := held_unique hheld hb₀.1
      subst ht
      have hl := wants_eq hk hk₀
      subst hl
      rw [if_pos rfl, if_neg (Ne.symm hne), if_pos rfl]
      exact Nat.lt_succ_self 1
  · -- nobody takes a plain lock with the recursive one held, which comes last
    apply ranked_not_deadlocked (fun l => if l = r then 1 else 0)
    intro t u l m hw hm hheld
    rcases waits_plain ho hs hc hw hm hheld with ⟨rfl, hp⟩ | ⟨hp, rfl⟩
    · have hmr : m ≠ l := by
        rintro rfl
        rw [ho.again] at hp
        cases hp
      rw [if_neg hmr, if_pos rfl]
      exact Nat.one_pos
    · exact absurd ⟨t, l, hw.among, hp, hheld, hw.wants⟩ hx

/-- No cycle of waiting threads means no lock taken again and no opposite orders. -/
theorem clear_iff (ho : OneRecursive recursive take locks r) (hs : Sane recursive take s) :
    Clear recursive locks r s ↔ ¬Deadlocked recursive locks s :=
  ⟨clear_not_deadlocked ho hs, not_deadlocked_clear ho⟩

end

/-- A step that gets a thread between two locks finds no thread between them in the
opposite order. -/
def Orderly (recursive : L → Bool) (locks : L → Prop) (r : L) [DecidableEq L] (s : State L D) :
    Event C E → Prop
  | .run t => ∀ l, locks l → recursive l = false → ¬Lands recursive s t l l ∧
      (Lands recursive s t r l → ∀ u, u ≠ t → ¬Between s u l r) ∧
      (Lands recursive s t l r → ∀ u, u ≠ t → ¬Between s u r l)
  | .start _ _ | .wake _ | .timeout _ | .other _ => True

section

variable [DecidableEq L] {take : (L → Nat) → L → Prop} {locks : L → Prop} {S : System L D C E}
  {s s' : State L D} {e : Event C E} {r : L}

theorem orderly_clear (ho : OneRecursive S.recursive take locks r) (hs : Sane S.recursive take s)
    (hc : Clear S.recursive locks r s) (hstep : step S s e = some s')
    (he : Orderly S.recursive locks r s e) : Clear S.recursive locks r s' := by
  refine ⟨fun t l hl hp hb => ?_, fun t u l hl hp ht hu => ?_⟩
  · rcases between_step hs hstep (Or.inr (Or.inr rfl)) hb with hb | ⟨rfl, hland⟩
    · exact hc.again t l hl hp hb
    · exact (he l hl hp).1 hland
  · have hne : t ≠ u := by
      rintro rfl
      obtain ⟨k, hk⟩ := ht.2
      obtain ⟨k', hk'⟩ := hu.2
      have hlr := wants_eq hk hk'
      rw [hlr, ho.again] at hp
      cases hp
    have ht' := between_step hs hstep (Or.inl ho.again) ht
    have hu' := between_step hs hstep (Or.inr (Or.inl ho.again)) hu
    rcases ht' with ht' | ⟨rfl, hland⟩
    · rcases hu' with hu' | ⟨rfl, hland⟩
      · exact hc.opposite t u l hl hp ht' hu'
      · exact (he l hl hp).2.2 hland t hne ht'
    · rcases hu' with hu' | ⟨he', _⟩
      · exact (he l hl hp).2.1 hland u (Ne.symm hne) hu'
      · cases he'
        exact hne rfl

theorem clear_orderly (ho : OneRecursive S.recursive take locks r) (hs : Sane S.recursive take s)
    (hstep : step S s e = some s') (hc : Clear S.recursive locks r s') :
    Orderly S.recursive locks r s e := by
  cases e with
  | run t =>
    intro l hl hp
    have hrun : runThread S.recursive s t = some s' := hstep
    refine ⟨?_, ?_, ?_⟩
    · rintro ⟨x, hx, hb⟩
      rw [hrun, Option.some.injEq] at hx
      subst hx
      exact hc.again t l hl hp hb
    · rintro ⟨x, hx, hb⟩ u hu hbu
      rw [hrun, Option.some.injEq] at hx
      subst hx
      exact hc.opposite t u l hl hp hb ((between_run hs hrun hu (Or.inr (Or.inl ho.again))).mpr hbu)
    · rintro ⟨x, hx, hb⟩ u hu hbu
      rw [hrun, Option.some.injEq] at hx
      subst hx
      exact hc.opposite u t l hl hp ((between_run hs hrun hu (Or.inl ho.again)).mpr hbu) hb
  | start | wake | timeout | other => trivial

/-- The states of a run are free of cycles exactly if its steps are orderly. -/
theorem run_orderly (ho : OneRecursive S.recursive take locks r)
    (hprogram : ∀ c, Respects S.recursive take (fun _ => 0) (S.program c)) {data : D → Prop}
    {tr : List (State L D × Event C E × State L D)} (h : Run (step S) (Idle data) tr s) :
    (∀ x ∈ tr, ¬Deadlocked S.recursive locks x.2.2) ↔
      ∀ x ∈ tr, Orderly S.recursive locks r x.1 x.2.1 := by
  have hsane : Preserves (step S) AnyStep (Sane S.recursive take) :=
    fun _ _ _ hs _ hstep => sane_step hprogram hs hstep
  obtain ⟨_, hsteps⟩ := run_steps (fun _ hi => sane_idle hi) hsane h (fun _ _ => trivial)
  constructor
  · intro hd x hx
    obtain ⟨hs, hstep⟩ := hsteps x hx
    have hc := (clear_iff ho (sane_step hprogram hs hstep)).mpr (hd x hx)
    exact clear_orderly ho hs hstep hc
  · intro horder x hx
    have hpres : Preserves (step S) (Orderly S.recursive locks r)
        (fun s => Sane S.recursive take s ∧ Clear S.recursive locks r s) :=
      fun _ _ _ hs he hstep =>
        ⟨sane_step hprogram hs.1 hstep, orderly_clear ho hs.1 hs.2 hstep he⟩
    obtain ⟨_, hclear⟩ := run_steps (fun _ hi => ⟨sane_idle hi, clear_idle hi S.recursive⟩) hpres h
      horder
    obtain ⟨⟨hs, hc⟩, hstep⟩ := hclear x hx
    exact (clear_iff ho (sane_step hprogram hs hstep)).mp
      (orderly_clear ho hs hc hstep (horder x hx))

end

end Library.Locks
