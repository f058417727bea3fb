import Mathlib.Data.List.Nodup
import Mathlib.Logic.Function.Basic

namespace Library.Maps

variable {K V : Type} [DecidableEq K]

/-- A finite map that remembers the order in which its keys came in. -/
structure OrderedMap (K V : Type) where
  entries : List (K × V)
  distinct : (entries.map Prod.fst).Nodup

def empty : OrderedMap K V := ⟨[], List.nodup_nil⟩

def keys (m : OrderedMap K V) : List K := m.entries.map Prod.fst

def lookup (m : OrderedMap K V) (k : K) : Option V :=
  (m.entries.find? (fun e => decide (e.1 = k))).map Prod.snd

/-- Replace the value at a key, where it stands. -/
def overwrite (k : K) (v : V) (es : List (K × V)) : List (K × V) :=
  es.map (fun e => if e.1 = k then (k, v) else e)

/-- The entries of the other keys, in their order. -/
def others (k : K) (es : List (K × V)) : List (K × V) := es.filter (fun e => e.1 ≠ k)

theorem overwrite_keys (k : K) (v : V) (es : List (K × V)) :
    (overwrite k v es).map Prod.fst = es.map Prod.fst := by
  unfold overwrite
  rw [List.map_map]
  apply List.map_congr_left
  rintro ⟨j, u⟩ _
  by_cases hj : j = k
  · simp [hj]
  · simp [hj]

/-- Store a value: in place if the key is there, at the end if it is not. -/
def put (m : OrderedMap K V) (k : K) (v : V) : OrderedMap K V where
  entries := if k ∈ m.entries.map Prod.fst then overwrite k v m.entries else m.entries ++ [(k, v)]
  distinct := by
    split
    · rw [overwrite_keys]
      exact m.distinct
    · next hk =>
      rw [List.map_append, List.map_cons, List.map_nil, List.nodup_append]
      refine ⟨m.distinct, List.nodup_singleton _, ?_⟩
      intro a ha b hb he
      rw [List.mem_singleton] at hb
      subst hb he
      exact hk ha

def erase (m : OrderedMap K V) (k : K) : OrderedMap K V where
  entries := others k m.entries
  distinct := m.distinct.sublist (List.filter_sublist.map _)

theorem put_present {m : OrderedMap K V} {k : K} (h : k ∈ m.entries.map Prod.fst) (v : V) :
    (put m k v).entries = overwrite k v m.entries :=
  if_pos h

theorem put_absent {m : OrderedMap K V} {k : K} (h : k ∉ m.entries.map Prod.fst) (v : V) :
    (put m k v).entries = m.entries ++ [(k, v)] :=
  if_neg h

theorem erase_entries (m : OrderedMap K V) (k : K) : (erase m k).entries = others k m.entries :=
  rfl

theorem find_overwrite (k j : K) (v : V) (es : List (K × V)) :
    ((overwrite k v es).find? (fun e => decide (e.1 = j))).map Prod.snd =
      if j = k then (if k ∈ es.map Prod.fst then some v else none)
      else (es.find? (fun e => decide (e.1 = j))).map Prod.snd := by
  unfold overwrite
  induction es with
  | nil => simp
  | cons e es ih =>
    obtain ⟨i, u⟩ := e
    simp only [List.map_cons, List.find?_cons, List.mem_cons]
    by_cases hi : i = k
    · subst i
      by_cases hj : j = k
      · simp [hj]
      · have hkj : decide (k = j) = false := by simpa using Ne.symm hj
        simpa only [if_true, hkj, hj, if_false] using ih
    · by_cases hij : i = j
      · subst j
        simp [hi]
      · have hij' : decide (i = j) = false := by simpa using hij
        simpa only [hi, Ne.symm hi, if_false, hij', false_or] using ih

theorem lookup_put (m : OrderedMap K V) (k j : K) (v : V) :
    lookup (put m k v) j = if j = k then some v else lookup m j := by
  unfold lookup
  by_cases hk : k ∈ m.entries.map Prod.fst
  · rw [put_present hk, find_overwrite]
    simp [hk]
  · rw [put_absent hk, List.find?_append]
    by_cases hj : j = k
    · subst j
      have hn : m.entries.find? (fun e => decide (e.1 = k)) = none := by
        rw [List.find?_eq_none]
        intro e he heq
        exact hk (List.mem_map.mpr ⟨e, he, by simpa using heq⟩)
      rw [hn]
      simp
    · cases hf : m.entries.find? (fun e => decide (e.1 = j)) with
      | none => simp [hj, Ne.symm hj]
      | some e => simp [hj]

theorem lookup_erase (m : OrderedMap K V) (k j : K) :
    lookup (erase m k) j = if j = k then none else lookup m j := by
  unfold lookup erase others
  by_cases hj : j = k
  · subst j
    have hn : (m.entries.filter (fun e => e.1 ≠ k)).find? (fun e => decide (e.1 = k)) = none := by
      rw [List.find?_eq_none]
      intro e he heq
      simp at he heq
      exact he.2 heq
    rw [hn]
    simp
  · simp only [hj, if_false, List.find?_filter]
    congr 2
    funext e
    by_cases he : e.1 = j
    · simp [he, hj]
    · simp [he]

theorem others_overwrite (k : K) (v : V) (es : List (K × V)) :
    others k (overwrite k v es) = others k es := by
  unfold others overwrite
  induction es with
  | nil => rfl
  | cons e es ih =>
    by_cases he : e.1 = k
    · simp only [List.map_cons, if_pos he]
      rw [List.filter_cons_of_neg (by simp), List.filter_cons_of_neg (by simp [he])]
      exact ih
    · simp only [List.map_cons, if_neg he]
      rw [List.filter_cons_of_pos (by simp [he]), List.filter_cons_of_pos (by simp [he]), ih]

theorem others_put (m : OrderedMap K V) (k : K) (v : V) :
    others k (put m k v).entries = others k m.entries := by
  by_cases hk : k ∈ m.entries.map Prod.fst
  · rw [put_present hk]
    exact others_overwrite k v m.entries
  · rw [put_absent hk]
    simp [others]

theorem others_erase (m : OrderedMap K V) (k : K) :
    others k (erase m k).entries = others k m.entries := by
  simp [erase, others, List.filter_filter]

/-! Partial functions -/

/-- What is found after an update is the new value at its own key, or an old one at another. -/
theorem update_some {f : K → Option V} {k j : K} {v x : V}
    (h : Function.update f k (some v) j = some x) : (j = k ∧ x = v) ∨ (j ≠ k ∧ f j = some x) := by
  by_cases hj : j = k
  · subst j
    rw [Function.update_self] at h
    exact Or.inl ⟨rfl, (Option.some.inj h).symm⟩
  · rw [Function.update_of_ne hj] at h
    exact Or.inr ⟨hj, h⟩

end Library.Maps
