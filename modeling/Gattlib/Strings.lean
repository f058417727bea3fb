import Mathlib.Data.List.Basic

namespace Gattlib.Strings

/-- A C string: the bytes before its terminating NUL. -/
structure CString where
  bytes : List UInt8
  nul_free : 0 ∉ bytes
  deriving DecidableEq

/-- GLib's `TOLOWER`: only the ASCII capitals change. -/
def toLower (c : UInt8) : UInt8 := if 65 ≤ c ∧ c ≤ 90 then c + 32 else c

/-- The loop of `g_ascii_strcasecmp`, on the bytes of the two strings. Where one
string ends the difference of the two current bytes is returned, the end of a
string counting as its NUL. -/
def asciiStrcasecmp : List UInt8 → List UInt8 → Int
  | c1 :: s1, c2 :: s2 =>
      if toLower c1 ≠ toLower c2 then ((toLower c1).toNat : Int) - (toLower c2).toNat
      else asciiStrcasecmp s1 s2
  | s1, s2 => ((s1.headD 0).toNat : Int) - (s2.headD 0).toNat

def gAsciiStrcasecmp (a b : CString) : Int := asciiStrcasecmp a.bytes b.bytes

/-- The loop of `stricmp`, with the `tolower` of the C locale. -/
def stricmp : List UInt8 → List UInt8 → Int
  | c1 :: s1, c2 :: s2 =>
      if toLower c1 ≠ toLower c2 then ((toLower c1).toNat : Int) - (toLower c2).toNat
      else stricmp s1 s2
  | s1, s2 => ((toLower (s1.headD 0)).toNat : Int) - (toLower (s2.headD 0)).toNat

/-- The spelling all strings that differ only in ASCII case share. -/
def fold (a : CString) : List UInt8 := a.bytes.map toLower

theorem toNat_ne_zero {c : UInt8} (h : c ≠ 0) : c.toNat ≠ 0 :=
  fun hc => h (UInt8.toNat_inj.mp hc)

theorem asciiStrcasecmp_zero (s1 s2 : List UInt8) (h1 : 0 ∉ s1) (h2 : 0 ∉ s2) :
    asciiStrcasecmp s1 s2 = 0 ↔ s1.map toLower = s2.map toLower := by
  induction s1 generalizing s2 with
  | nil =>
    cases s2 with
    | nil => simp [asciiStrcasecmp]
    | cons c2 s2 =>
      have hc : c2.toNat ≠ 0 := toNat_ne_zero (fun h => h2 (by simp [h]))
      simp [asciiStrcasecmp, hc]
  | cons c1 s1 ih =>
    cases s2 with
    | nil =>
      have hc : c1.toNat ≠ 0 := toNat_ne_zero (fun h => h1 (by simp [h]))
      simp [asciiStrcasecmp, hc]
    | cons c2 s2 =>
      have hi := ih s2 (fun h => h1 (List.mem_cons_of_mem _ h)) (fun h => h2 (List.mem_cons_of_mem _ h))
      rw [List.map_cons, List.map_cons, List.cons.injEq, asciiStrcasecmp]
      by_cases hc : toLower c1 = toLower c2
      · simpa [hc] using hi
      · have hn : (toLower c1).toNat ≠ (toLower c2).toNat := fun h => hc (UInt8.toNat_inj.mp h)
        simp only [ne_eq, hc, not_false_eq_true, if_true, false_and, iff_false]
        omega

theorem toLower_zero : toLower 0 = 0 := by decide

theorem toLower_ne_zero {c : UInt8} (h : c ≠ 0) : toLower c ≠ 0 := by
  intro hc
  unfold toLower at hc
  split at hc
  · next hcap =>
    have hbig := UInt8.le_iff_toNat_le.mp hcap.1
    have hsmall := UInt8.le_iff_toNat_le.mp hcap.2
    have hsum := congrArg UInt8.toNat hc
    simp only [UInt8.toNat_add, UInt8.reduceToNat] at hbig hsmall hsum
    omega
  · exact h hc

theorem stricmp_zero (s1 s2 : List UInt8) (h1 : 0 ∉ s1) (h2 : 0 ∉ s2) :
    stricmp s1 s2 = 0 ↔ s1.map toLower = s2.map toLower := by
  induction s1 generalizing s2 with
  | nil =>
    cases s2 with
    | nil => simp [stricmp]
    | cons c2 s2 =>
      have hc := toNat_ne_zero (toLower_ne_zero (c := c2) (fun h => h2 (by simp [h])))
      simp [stricmp, toLower_zero, hc]
  | cons c1 s1 ih =>
    cases s2 with
    | nil =>
      have hc := toNat_ne_zero (toLower_ne_zero (c := c1) (fun h => h1 (by simp [h])))
      simp [stricmp, toLower_zero, hc]
    | cons c2 s2 =>
      have hi := ih s2 (fun h => h1 (List.mem_cons_of_mem _ h)) (fun h => h2 (List.mem_cons_of_mem _ h))
      rw [List.map_cons, List.map_cons, List.cons.injEq, stricmp]
      by_cases hc : toLower c1 = toLower c2
      · simpa [hc] using hi
      · have hn : (toLower c1).toNat ≠ (toLower c2).toNat := fun h => hc (UInt8.toNat_inj.mp h)
        simp only [ne_eq, hc, not_false_eq_true, if_true, false_and, iff_false]
        omega

/-- The comparison the registry searches with is equality up to ASCII case. -/
theorem gAsciiStrcasecmp_zero (a b : CString) : gAsciiStrcasecmp a b = 0 ↔ fold a = fold b :=
  asciiStrcasecmp_zero a.bytes b.bytes a.nul_free b.nul_free

end Gattlib.Strings
