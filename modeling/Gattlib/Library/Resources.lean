import Mathlib.Data.List.Nodup
import Mathlib.Logic.Function.Basic

namespace Library.Resources

variable {κ : Type}

/-- One acquisition: the number it was given, what was acquired, and for whom. -/
structure Entry (κ : Type) where
  id : Nat
  kind : κ
  owner : Nat
  deriving DecidableEq, Repr

/-- The history of the acquisitions and releases of numbered resources. Numbers
are never given out twice, so an acquisition is identified by its number. -/
structure Ledger (κ : Type) where
  next : Nat
  acquired : List (Entry κ)
  released : List Nat
  positive : 0 < next
  bounded : ∀ r ∈ acquired, r.id < next
  distinct : (acquired.map Entry.id).Nodup

def empty : Ledger κ := ⟨1, [], [], by decide, by simp, by simp⟩

def acquire (l : Ledger κ) (kind : κ) (owner : Nat) : Ledger κ where
  next := l.next + 1
  acquired := ⟨l.next, kind, owner⟩ :: l.acquired
  released := l.released
  positive := Nat.succ_pos _
  bounded r hr := by
    rcases List.mem_cons.mp hr with rfl | hr
    · exact Nat.lt_succ_self _
    · exact Nat.lt_succ_of_lt (l.bounded r hr)
  distinct := by
    rw [List.map_cons, List.nodup_cons]
    refine ⟨fun hm => ?_, l.distinct⟩
    obtain ⟨r, hr, he⟩ := List.mem_map.mp hm
    exact Nat.lt_irrefl _ (he ▸ l.bounded r hr)

/-- A release is recorded whatever the state of the resource, so that a second
release of the same resource shows in the history. -/
def release (l : Ledger κ) (id : Nat) : Ledger κ := { l with released := id :: l.released }

/-- Release what a slot holds, if anything. -/
def releaseSlot (l : Ledger κ) : Option Nat → Ledger κ
  | none => l
  | some id => release l id

/-- Acquired, and not released since. -/
def Live (l : Ledger κ) (r : Entry κ) : Prop := r ∈ l.acquired ∧ r.id ∉ l.released

/-- The live acquisition with a given number, if there is one. -/
def find (l : Ledger κ) (id : Nat) : Option (Entry κ) :=
  l.acquired.find? (fun r => r.id == id && !l.released.contains id)

theorem find_live {l : Ledger κ} {id : Nat} {r : Entry κ} (h : find l id = some r) :
    Live l r ∧ r.id = id := by
  have hp := List.find?_some h
  have hm := List.mem_of_find?_eq_some h
  simp only [Bool.and_eq_true, beq_iff_eq, Bool.not_eq_true', List.contains_eq_mem,
    decide_eq_false_iff_not] at hp
  obtain ⟨he, hr⟩ := hp
  exact ⟨⟨hm, he ▸ hr⟩, he⟩

theorem entry_ext {l : Ledger κ} {r s : Entry κ} (hr : r ∈ l.acquired) (hs : s ∈ l.acquired)
    (he : r.id = s.id) : r = s :=
  List.inj_on_of_nodup_map l.distinct hr hs he

@[simp] theorem acquire_acquired (l : Ledger κ) (kind : κ) (owner : Nat) :
    (acquire l kind owner).acquired = ⟨l.next, kind, owner⟩ :: l.acquired := rfl

@[simp] theorem acquire_released (l : Ledger κ) (kind : κ) (owner : Nat) :
    (acquire l kind owner).released = l.released := rfl

@[simp] theorem acquire_next (l : Ledger κ) (kind : κ) (owner : Nat) :
    (acquire l kind owner).next = l.next + 1 := rfl

@[simp] theorem release_acquired (l : Ledger κ) (id : Nat) :
    (release l id).acquired = l.acquired := rfl

@[simp] theorem release_released (l : Ledger κ) (id : Nat) :
    (release l id).released = id :: l.released := rfl

theorem mem_releaseSlot {l : Ledger κ} {v : Option Nat} {id : Nat} :
    id ∈ (releaseSlot l v).released ↔ id ∈ l.released ∨ v = some id := by
  cases v with
  | none => simp [releaseSlot]
  | some i =>
    rw [releaseSlot, release_released, List.mem_cons, Option.some.injEq]
    constructor
    · rintro (rfl | h)
      · exact Or.inr rfl
      · exact Or.inl h
    · rintro (h | rfl)
      · exact Or.inr h
      · exact Or.inl rfl

/-- Where the numbers of resources are kept, by owner and kind. -/
abbrev Slots (κ : Type) := Nat → κ → Option Nat

def setSlot [DecidableEq κ] (s : Slots κ) (owner : Nat) (kind : κ) (v : Option Nat) : Slots κ :=
  Function.update s owner (Function.update (s owner) kind v)

/-- What a slot holds has been acquired for it, and only known numbers are released. -/
structure Owned (l : Ledger κ) (s : Slots κ) : Prop where
  held : ∀ o k id, s o k = some id → ⟨id, k, o⟩ ∈ l.acquired
  known : ∀ id ∈ l.released, id < l.next

/-- The slots hold the live resources and nothing else, and no release came twice. -/
structure Balanced (l : Ledger κ) (s : Slots κ) : Prop where
  held : ∀ o k id, s o k = some id ↔ Live l ⟨id, k, o⟩
  known : ∀ id ∈ l.released, id < l.next
  once : l.released.Nodup

variable {l : Ledger κ} {s : Slots κ}

theorem owned_lt (h : Owned l s) {o : Nat} {k : κ} {id : Nat} (hs : s o k = some id) :
    id < l.next :=
  l.bounded _ (h.held o k id hs)

theorem owned_release (h : Owned l s) {v : Option Nat} (hv : ∀ id, v = some id → id < l.next) :
    Owned (releaseSlot l v) s := by
  cases v with
  | none => exact h
  | some id =>
    refine ⟨h.held, fun i hi => ?_⟩
    rcases List.mem_cons.mp hi with rfl | hi
    · exact hv i rfl
    · exact h.known i hi

section

variable [DecidableEq κ]

@[simp] theorem setSlot_self (s : Slots κ) (o : Nat) (k : κ) (v : Option Nat) :
    setSlot s o k v o k = v := by
  simp [setSlot]

theorem setSlot_of_ne (s : Slots κ) {o o' : Nat} {k k' : κ} (v : Option Nat)
    (h : ¬(o' = o ∧ k' = k)) : setSlot s o k v o' k' = s o' k' := by
  unfold setSlot
  by_cases ho : o' = o
  · subst o'
    have hk : k' ≠ k := fun hk => h ⟨rfl, hk⟩
    rw [Function.update_self, Function.update_of_ne hk]
  · rw [Function.update_of_ne ho]

theorem owned_acquire (h : Owned l s) (o : Nat) (k : κ) :
    Owned (acquire l k o) (setSlot s o k (some l.next)) := by
  refine ⟨fun o' k' id hid => ?_, fun id hi => Nat.lt_succ_of_lt (h.known id hi)⟩
  rw [acquire_acquired, List.mem_cons]
  by_cases hs : o' = o ∧ k' = k
  · obtain ⟨rfl, rfl⟩ := hs
    rw [setSlot_self] at hid
    exact Or.inl (by rw [Option.some.inj hid])
  · rw [setSlot_of_ne s _ hs] at hid
    exact Or.inr (h.held o' k' id hid)

theorem owned_clear (h : Owned l s) (o : Nat) (k : κ) : Owned l (setSlot s o k none) := by
  refine ⟨fun o' k' id hid => ?_, h.known⟩
  by_cases hs : o' = o ∧ k' = k
  · obtain ⟨rfl, rfl⟩ := hs
    rw [setSlot_self] at hid
    cases hid
  · rw [setSlot_of_ne s _ hs] at hid
    exact h.held o' k' id hid

/-- Acquiring into an empty slot keeps the books. -/
theorem balanced_acquire (h : Balanced l s) {o : Nat} {k : κ} (he : s o k = none) :
    Balanced (acquire l k o) (setSlot s o k (some l.next)) := by
  have hfresh : l.next ∉ l.released := fun hm => Nat.lt_irrefl _ (h.known _ hm)
  refine ⟨fun o' k' id => ?_, fun id hm => Nat.lt_succ_of_lt (h.known id hm), h.once⟩
  unfold Live
  rw [acquire_acquired, acquire_released, List.mem_cons]
  by_cases hs : o' = o ∧ k' = k
  · obtain ⟨rfl, rfl⟩ := hs
    rw [setSlot_self, Option.some.injEq]
    constructor
    · rintro rfl
      exact ⟨Or.inl rfl, hfresh⟩
    · rintro ⟨hid | hid, hr⟩
      · exact (Entry.mk.inj hid).1.symm
      · rw [(h.held o' k' id).mpr ⟨hid, hr⟩] at he
        cases he
  · rw [setSlot_of_ne s _ hs, h.held o' k' id]
    constructor
    · rintro ⟨hm, hr⟩
      exact ⟨Or.inr hm, hr⟩
    · rintro ⟨hid | hm, hr⟩
      · obtain ⟨_, hk, ho⟩ := Entry.mk.inj hid
        exact absurd ⟨ho, hk⟩ hs
      · exact ⟨hm, hr⟩

/-- Releasing a live resource and clearing its slot keeps the books. -/
theorem balanced_release_live (h : Balanced l s) {o : Nat} {k : κ} {id : Nat}
    (hl : Live l ⟨id, k, o⟩) : Balanced (release l id) (setSlot s o k none) := by
  refine ⟨fun o' k' id' => ?_, ?_, ?_⟩
  · unfold Live
    rw [release_acquired, release_released, List.mem_cons]
    by_cases hs : o' = o ∧ k' = k
    · obtain ⟨rfl, rfl⟩ := hs
      rw [setSlot_self]
      constructor
      · rintro ⟨⟩
      · rintro ⟨hm, hr⟩
        have h' := (h.held o' k' id').mpr ⟨hm, fun hc => hr (Or.inr hc)⟩
        rw [(h.held o' k' id).mpr hl] at h'
        exact absurd (Or.inl (Option.some.inj h').symm) hr
    · rw [setSlot_of_ne s _ hs, h.held o' k' id']
      constructor
      · rintro ⟨hm, hr⟩
        refine ⟨hm, ?_⟩
        rintro (rfl | hc)
        · obtain ⟨_, hk, ho⟩ := Entry.mk.inj (entry_ext hm hl.1 rfl)
          exact hs ⟨ho, hk⟩
        · exact hr hc
      · rintro ⟨hm, hr⟩
        exact ⟨hm, fun hc => hr (Or.inr hc)⟩
  · intro i hi
    rcases List.mem_cons.mp hi with rfl | hi
    · exact l.bounded _ hl.1
    · exact h.known i hi
  · exact List.nodup_cons.mpr ⟨hl.2, h.once⟩

theorem setSlot_same {o : Nat} {k : κ} {v : Option Nat} (h : s o k = v) : setSlot s o k v = s := by
  subst h
  simp [setSlot]

theorem balanced_release (h : Balanced l s) (o : Nat) (k : κ) :
    Balanced (releaseSlot l (s o k)) (setSlot s o k none) := by
  cases hs : s o k with
  | none =>
    rw [setSlot_same hs]
    exact h
  | some id => exact balanced_release_live h ((h.held o k id).mp hs)

end

/-- A release ends one live resource and no other. -/
theorem live_release {r r' : Entry κ} (h : Live l r) :
    Live (release l r.id) r' ↔ Live l r' ∧ r' ≠ r := by
  unfold Live
  rw [release_acquired, release_released, List.mem_cons, not_or]
  constructor
  · rintro ⟨hm, hid, hr⟩
    exact ⟨⟨hm, hr⟩, fun he => hid (congrArg Entry.id he)⟩
  · rintro ⟨⟨hm, hr⟩, hne⟩
    exact ⟨hm, fun hid => hne (entry_ext hm h.1 hid), hr⟩

theorem live_find {r : Entry κ} (h : Live l r) : find l r.id = some r := by
  cases hf : find l r.id with
  | some r' =>
    obtain ⟨hlive, hid⟩ := find_live hf
    rw [entry_ext hlive.1 h.1 hid]
  | none =>
    have hnone := List.find?_eq_none.mp hf r h.1
    simp only [beq_self_eq_true, Bool.true_and, Bool.not_eq_true', Bool.not_eq_false,
      List.contains_eq_mem, decide_eq_true_eq] at hnone
    exact absurd hnone h.2

section

variable {o o' id : Nat} {k : κ}

/-- The live resources of an owner, the last one acquired first. -/
def liveIds (l : Ledger κ) (owner : Nat) : List Nat :=
  (l.acquired.filter (fun r => r.owner == owner && !l.released.contains r.id)).map Entry.id

theorem mem_liveIds : id ∈ liveIds l o ↔ ∃ k, Live l ⟨id, k, o⟩ := by
  simp only [liveIds, List.mem_map, List.mem_filter, Bool.and_eq_true, beq_iff_eq,
    Bool.not_eq_true', List.contains_eq_mem, decide_eq_false_iff_not, Live]
  constructor
  · rintro ⟨⟨_, k, _⟩, ⟨hm, rfl, hr⟩, rfl⟩
    exact ⟨k, hm, hr⟩
  · rintro ⟨k, hm, hr⟩
    exact ⟨_, ⟨hm, rfl, hr⟩, rfl⟩

theorem liveIds_owner (h : id ∈ liveIds l o) (h' : id ∈ liveIds l o') : o = o' := by
  obtain ⟨k, hm, _⟩ := mem_liveIds.mp h
  obtain ⟨k', hm', _⟩ := mem_liveIds.mp h'
  exact (Entry.mk.inj (entry_ext hm hm' rfl)).2.2

theorem liveIds_nodup (l : Ledger κ) (o : Nat) : (liveIds l o).Nodup :=
  l.distinct.sublist (List.filter_sublist.map Entry.id)

theorem liveIds_acquire (h : ∀ id ∈ l.released, id < l.next) (k : κ) (o o' : Nat) :
    liveIds (acquire l k o) o' = if o = o' then l.next :: liveIds l o' else liveIds l o' := by
  have hfresh : l.released.contains l.next = false := by
    rw [List.contains_eq_mem, decide_eq_false_iff_not]
    exact fun hm => Nat.lt_irrefl _ (h _ hm)
  unfold liveIds
  rw [acquire_acquired, acquire_released, List.filter_cons, hfresh]
  by_cases ho : o = o'
  · simp [ho]
  · simp [ho]

theorem liveIds_release (l : Ledger κ) (id o : Nat) :
    liveIds (release l id) o = (liveIds l o).filter (fun i => i != id) := by
  unfold liveIds
  rw [release_acquired, release_released, List.filter_map, List.filter_filter]
  congr 1
  apply List.filter_congr
  intro r _
  simp only [List.contains_cons, Bool.not_or, Function.comp_apply, bne]
  rw [Bool.and_left_comm]

/-- Releasing several resources, one after the other. -/
theorem liveIds_releases (ids : List Nat) (l : Ledger κ) (o : Nat) :
    liveIds (ids.foldl release l) o = (liveIds l o).filter (fun i => !ids.contains i) := by
  induction ids generalizing l with
  | nil => simp
  | cons id ids ih =>
    rw [List.foldl_cons, ih, liveIds_release, List.filter_filter]
    apply List.filter_congr
    intro i _
    rw [List.contains_cons, Bool.not_or, bne, Bool.and_comm]

theorem releases_acquired (ids : List Nat) (l : Ledger κ) :
    (ids.foldl release l).acquired = l.acquired := by
  induction ids generalizing l with
  | nil => rfl
  | cons i ids ih => exact ih (release l i)

/-- Releasing known resources keeps all releases known. -/
theorem releases_known (ids : List Nat) (l : Ledger κ) (hl : ∀ id ∈ l.released, id < l.next)
    (hi : ∀ id ∈ ids, id < l.next) :
    (∀ id ∈ (ids.foldl release l).released, id < l.next) ∧ (ids.foldl release l).next = l.next := by
  induction ids generalizing l with
  | nil => exact ⟨hl, rfl⟩
  | cons i ids ih =>
    refine ih (release l i) (fun id hid => ?_) (fun id hid => hi id (List.mem_cons_of_mem _ hid))
    rcases List.mem_cons.mp hid with rfl | hid
    · exact hi id List.mem_cons_self
    · exact hl id hid

end

/-! The number of live resources of one owner and one kind -/

/-- Leaving out the one entry with a given number. -/
theorem countP_without {xs : List (Entry κ)} (hn : (xs.map Entry.id).Nodup) {r : Entry κ}
    (hr : r ∈ xs) (q : Entry κ → Bool) :
    xs.countP (fun x => q x && x.id != r.id) + (if q r then 1 else 0) = xs.countP q := by
  induction xs with
  | nil => cases hr
  | cons x xs ih =>
    rw [List.map_cons, List.nodup_cons] at hn
    rw [List.countP_cons, List.countP_cons]
    rcases List.mem_cons.mp hr with rfl | hm
    · have hrest : xs.countP (fun x => q x && x.id != r.id) = xs.countP q := by
        apply List.countP_congr
        intro y hy
        have hne : y.id ≠ r.id := fun he => hn.1 (he ▸ List.mem_map_of_mem hy)
        simp [hne]
      rw [hrest]
      simp
    · have hne : x.id ≠ r.id := fun he => hn.1 (he ▸ List.mem_map_of_mem hm)
      have ih := ih hn.2 hm
      simp only [bne_iff_ne.mpr hne, Bool.and_true]
      omega

section

variable [DecidableEq κ] {o o' : Nat} {k k' : κ}

def liveCount (l : Ledger κ) (owner : Nat) (kind : κ) : Nat :=
  l.acquired.countP (fun r => decide (r.owner = owner ∧ r.kind = kind) && !l.released.contains r.id)

theorem liveCount_acquire (h : ∀ id ∈ l.released, id < l.next) :
    liveCount (acquire l k o) o' k' = liveCount l o' k' + if o = o' ∧ k = k' then 1 else 0 := by
  have hfresh : l.released.contains l.next = false := by
    rw [List.contains_eq_mem, decide_eq_false_iff_not]
    exact fun hm => Nat.lt_irrefl _ (h _ hm)
  unfold liveCount
  rw [acquire_acquired, acquire_released, List.countP_cons, hfresh]
  simp

theorem liveCount_release {r : Entry κ} (h : Live l r) :
    liveCount (release l r.id) o k + (if r.owner = o ∧ r.kind = k then 1 else 0) =
      liveCount l o k := by
  have hlive : l.released.contains r.id = false := by
    rw [List.contains_eq_mem, decide_eq_false_iff_not]
    exact h.2
  have hcount := countP_without l.distinct h.1
    (fun r => decide (r.owner = o ∧ r.kind = k) && !l.released.contains r.id)
  simp only [hlive, Bool.not_false, Bool.and_true, decide_eq_true_eq] at hcount
  unfold liveCount
  rw [← hcount, release_acquired, release_released]
  congr 1
  apply List.countP_congr
  intro x _
  rw [List.contains_cons, Bool.not_or, Bool.and_assoc, Bool.and_comm (!_)]
  rfl

end

end Library.Resources
