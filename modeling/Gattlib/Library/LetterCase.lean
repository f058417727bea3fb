import Gattlib.Library.Text
import Mathlib.Data.List.Forall2
import Mathlib.Data.List.Induction

namespace Library.LetterCase

open Text

/-! The readers of `Library.Text` do not tell capital letters from small ones. -/

/-- A letter of ASCII in lower case. -/
def lower (c : UInt8) : UInt8 := if 65 ≤ c.toNat ∧ c.toNat ≤ 90 then c + 32 else c

/-- A byte that is no letter. -/
def NoLetter (c : UInt8) : Prop := ¬(65 ≤ c.toNat ∧ c.toNat ≤ 90) ∧ ¬(97 ≤ c.toNat ∧ c.toNat ≤ 122)

instance : DecidablePred NoLetter := fun _ => inferInstanceAs (Decidable (_ ∧ _))

section

variable {c x : UInt8} {s : List UInt8} {n : Nat}

theorem lower_capital (h : 65 ≤ c.toNat ∧ c.toNat ≤ 90) : (lower c).toNat = c.toNat + 32 := by
  rw [lower, if_pos h, UInt8.toNat_add]
  have h32 : (32 : UInt8).toNat = 32 := rfl
  omega

theorem lower_other (h : ¬(65 ≤ c.toNat ∧ c.toNat ≤ 90)) : lower c = c := if_neg h

/-- Only the byte itself becomes one that is no letter. -/
theorem lower_eq (hx : NoLetter x) : lower c = x ↔ c = x := by
  by_cases h : 65 ≤ c.toNat ∧ c.toNat ≤ 90
  · have hlower := lower_capital h
    constructor
    · rintro rfl
      exact absurd hx.2 (by omega)
    · rintro rfl
      exact absurd h hx.1
  · rw [lower_other h]

theorem lower_letter_x : lower c = 120 ∨ lower c = 88 ↔ c = 120 ∨ c = 88 := by
  simp only [← UInt8.toNat_inj]
  have h120 : (120 : UInt8).toNat = 120 := rfl
  have h88 : (88 : UInt8).toNat = 88 := rfl
  by_cases h : 65 ≤ c.toNat ∧ c.toNat ≤ 90
  · have hlower := lower_capital h
    omega
  · rw [lower_other h]

theorem hexValue_lower : hexValue (lower c) = hexValue c := by
  by_cases h : 65 ≤ c.toNat ∧ c.toNat ≤ 90
  · have hlower := lower_capital h
    unfold hexValue
    split_ifs <;> first | omega | (congr 1; omega) | rfl
  · rw [lower_other h]

theorem isSpace_lower : isSpace (lower c) = isSpace c := by
  have hno : ∀ x : UInt8, 65 ≤ x.toNat → isSpace x = false := by
    intro x hx
    have h32 : x ≠ 32 := fun he => by rw [he] at hx; exact absurd hx (by decide)
    have h13 : ¬x ≤ 13 := fun hle => by
      have hle : x.toNat ≤ 13 := UInt8.le_iff_toNat_le.mp hle
      omega
    simp [isSpace, h32, h13]
  by_cases h : 65 ≤ c.toNat ∧ c.toNat ≤ 90
  · have hlower := lower_capital h
    rw [hno (lower c) (by omega), hno c h.1]
  · rw [lower_other h]

theorem skipSpace_lower (s : List UInt8) : skipSpace (s.map lower) = (skipSpace s).map lower := by
  induction s with
  | nil => rfl
  | cons c s ih =>
    simp only [skipSpace, List.map_cons, List.dropWhile_cons, isSpace_lower] at ih ⊢
    cases isSpace c with
    | true => simpa using ih
    | false => simp

theorem readSign_lower (w : Nat) (s : List UInt8) : readSign w (s.map lower) =
    ((readSign w s).1, (readSign w s).2.1, (readSign w s).2.2.map lower) := by
  cases s with
  | nil => rfl
  | cons c s =>
    have hminus : lower c = 45 ↔ c = 45 := lower_eq (by decide)
    have hplus : lower c = 43 ↔ c = 43 := lower_eq (by decide)
    simp only [List.map_cons, readSign, hminus, hplus]
    split_ifs <;> rfl

/-- The prefix that is read is one the shortened text is long enough for. -/
theorem readPrefix_lower (w : Nat) (s : List UInt8) :
    readPrefix w (s.map lower) = ((readPrefix w s).1, (readPrefix w s).2.map lower) := by
  have hzero : ∀ c, lower c = 48 ↔ c = 48 := fun c => lower_eq (by decide)
  match s with
  | [] => rfl
  | [c] => simp [readPrefix]
  | [c, x] => simp [readPrefix]
  | c :: x :: y :: s =>
    by_cases hc : c = 48
    · subst hc
      have h48 : lower 48 = 48 := (hzero 48).mpr rfl
      simp only [List.map_cons, h48, readPrefix, lower_letter_x, hexValue_lower]
      split_ifs <;> simp [h48]
    · have hl : lower c ≠ 48 := fun h => hc ((hzero c).mp h)
      simp [readPrefix, hc, hl]

theorem readDigits_lower (w n : Nat) (s : List UInt8) : readDigits w n (s.map lower) =
    ((readDigits w n s).1, (readDigits w n s).2.1, (readDigits w n s).2.2.map lower) := by
  induction w generalizing n s with
  | zero => rfl
  | succ w ih =>
    cases s with
    | nil => rfl
    | cons c s =>
      rw [List.map_cons, readDigits, readDigits, hexValue_lower]
      cases hexValue c with
      | none => rfl
      | some v => simp [ih]

theorem readHex_lower (w : Nat) (s : List UInt8) :
    readHex w (s.map lower) = (readHex w s).map (fun r => (r.1, r.2.map lower)) := by
  simp only [readHex, skipSpace_lower, readSign_lower, readPrefix_lower, readDigits_lower]
  split_ifs <;> rfl

theorem barePrefix_lower (w : Nat) (s : List UInt8) :
    barePrefix w (s.map lower) = barePrefix w s := by
  have hzero : ∀ c, lower c = 48 ↔ c = 48 := fun c => lower_eq (by decide)
  match s with
  | [] => rfl
  | [c] => simp [barePrefix]
  | c :: x :: s =>
    by_cases hc : c = 48
    · subst hc
      have h48 : lower 48 = 48 := (hzero 48).mpr rfl
      have hx : (lower x == 120 || lower x == 88) = (x == 120 || x == 88) := by
        rw [Bool.eq_iff_iff]
        simpa using lower_letter_x
      have hhead : ((s.map lower).head?.bind hexValue) = s.head?.bind hexValue := by
        cases s with
        | nil => rfl
        | cons y s => simp [hexValue_lower]
      simp only [List.map_cons, h48, barePrefix, hx, hhead]
    · have hl : lower c ≠ 48 := fun h => hc ((hzero c).mp h)
      simp [barePrefix, hc, hl]

theorem scanHex_lower (w : Nat) (s : List UInt8) :
    scanHex w (s.map lower) = (scanHex w s).map (fun r => (r.1, r.2.map lower)) := by
  simp only [scanHex, skipSpace_lower, readSign_lower, barePrefix_lower, readHex_lower]
  split_ifs <;> rfl

theorem strtol_lower (s : List UInt8) :
    strtol (s.map lower) = ((strtol s).1, (strtol s).2.map lower) := by
  rw [strtol, strtol, readHex_lower, List.length_map]
  cases readHex s.length s with
  | none => rfl
  | some r => rfl

/-- A directive that takes a letter in both cases or in neither. -/
def AnyCase (R : Int → Int → Prop) : Directive → Prop
  | .text c => NoLetter c
  | .hex _ => True
  | .oneOf set => ∀ c, set.contains (lower c) = set.contains c ∧ R (lower c).toNat c.toNat

/-- The values stored are the same up to what `R` allows for the bytes of a set. -/
theorem sscanf_lower {R : Int → Int → Prop} {ds : List Directive} (hrefl : ∀ v, R v v)
    (h : ∀ d ∈ ds, AnyCase R d) (s : List UInt8) :
    List.Forall₂ R (sscanf ds (s.map lower)) (sscanf ds s) := by
  induction ds generalizing s with
  | nil => simp [sscanf]
  | cons d ds ih =>
    obtain ⟨hd, hds⟩ := List.forall_mem_cons.mp h
    cases d with
    | text c =>
      cases s with
      | nil => simp [sscanf]
      | cons x s =>
        have hx : lower x = c ↔ x = c := lower_eq hd
        simp only [List.map_cons, sscanf, hx]
        split_ifs
        · exact ih hds s
        · exact List.Forall₂.nil
    | hex width =>
      rw [sscanf, sscanf, scanHex_lower]
      cases scanHex width s with
      | none => exact List.Forall₂.nil
      | some r => exact List.Forall₂.cons (hrefl r.1) (ih hds r.2)
    | oneOf set =>
      cases s with
      | nil => simp [sscanf]
      | cons x s =>
        obtain ⟨hset, hvalue⟩ := hd x
        simp only [List.map_cons, sscanf, hset]
        split_ifs
        · exact List.Forall₂.cons hvalue (ih hds s)
        · exact List.Forall₂.nil

theorem lower_digit {v : Nat} (h : hexValue c = some v) : lower c = hexDigit v := by
  have hv := (hexValue_plain h).1
  have hdigit : (hexDigit v).toNat = if v < 10 then 48 + v else 87 + v := by
    rw [hexDigit, UInt8.toNat_ofNat']
    split_ifs
    · omega
    · omega
  rw [← UInt8.toNat_inj, hdigit]
  unfold hexValue at h
  by_cases hc : 65 ≤ c.toNat ∧ c.toNat ≤ 90
  · have hlower := lower_capital hc
    split_ifs at h ⊢ <;> simp only [Option.some.injEq] at h <;> omega
  · rw [lower_other hc]
    split_ifs at h ⊢ <;> simp only [Option.some.injEq] at h <;> omega

/-- Digits in lower case are those of the number they stand for. -/
theorem digits_lower {ds : List UInt8} (h : digitsValue 0 ds = some n) :
    ds.map lower = hexDigits ds.length n := by
  induction ds using List.reverseRecOn generalizing n with
  | nil => rfl
  | append_singleton ds c ih =>
    rw [digitsValue_append, Option.bind_eq_some_iff] at h
    obtain ⟨m, hm, h⟩ := h
    rw [digitsValue, Option.bind_eq_some_iff] at h
    obtain ⟨v, hv, h⟩ := h
    obtain rfl : m * 16 + v = n := by simpa [digitsValue] using h
    have hlt := (hexValue_plain hv).1
    have hdiv : (m * 16 + v) / 16 = m := by omega
    have hmod : (m * 16 + v) % 16 = v := by omega
    rw [List.map_append, ih hm, List.length_append, List.length_singleton, hexDigits, hdiv, hmod,
      List.map_singleton, lower_digit hv]

end

end Library.LetterCase
