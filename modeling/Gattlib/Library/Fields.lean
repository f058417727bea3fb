import Mathlib.Data.Nat.Notation

namespace Library.Fields

/-! Sequences of fields, each with a byte for its length in front -/

/-- The fields that are complete, and what is left from the first one on that is not: nothing,
an empty field, or a length byte with too few bytes behind it. -/
def splitFields : List UInt8 → List (List UInt8) × List UInt8
  | [] => ([], [])
  | len :: rest =>
    if 0 < len.toNat ∧ len.toNat ≤ rest.length then
      (rest.take len.toNat :: (splitFields (rest.drop len.toNat)).1,
        (splitFields (rest.drop len.toNat)).2)
    else ([], len :: rest)
termination_by buffer => buffer.length
decreasing_by
  all_goals
    rw [List.length_cons, List.length_drop]
    omega

variable {len : UInt8} {rest buffer : List UInt8}

@[simp] theorem split_nil : splitFields [] = ([], []) := by rw [splitFields]

theorem split_field (hpos : 0 < len.toNat) (hlen : len.toNat ≤ rest.length) :
    splitFields (len :: rest) = (rest.take len.toNat :: (splitFields (rest.drop len.toNat)).1,
      (splitFields (rest.drop len.toNat)).2) := by
  rw [splitFields, if_pos ⟨hpos, hlen⟩]

theorem split_stuck (h : ¬(0 < len.toNat ∧ len.toNat ≤ rest.length)) :
    splitFields (len :: rest) = ([], len :: rest) := by
  rw [splitFields, if_neg h]

end Library.Fields
