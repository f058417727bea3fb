import Mathlib.Algebra.Group.Int.Defs
import Mathlib.Algebra.Group.Nat.Defs
import Mathlib.Data.List.Basic

namespace Library.Text

/-! Printing and reading of hexadecimal numbers as the C library does it, on bytes -/

/-- The bytes of a text in ASCII. -/
def chars (text : String) : List UInt8 := text.toList.map (fun c => UInt8.ofNat c.toNat)

/-- A hexadecimal digit in lower case. -/
def hexDigit (n : Nat) : UInt8 := UInt8.ofNat (if n < 10 then 48 + n else 87 + n)

/-- The value of a hexadecimal digit in either case. -/
def hexValue (c : UInt8) : Option Nat :=
  if 48 ≤ c.toNat ∧ c.toNat ≤ 57 then some (c.toNat - 48)
  else if 97 ≤ c.toNat ∧ c.toNat ≤ 102 then some (c.toNat - 87)
  else if 65 ≤ c.toNat ∧ c.toNat ≤ 70 then some (c.toNat - 55)
  else none

/-- The digits of a number, none for zero. The fuel is any number at least as large. -/
def hexLoop : Nat → Nat → List UInt8
  | 0, _ => []
  | _ + 1, 0 => []
  | fuel + 1, n => hexLoop fuel (n / 16) ++ [hexDigit (n % 16)]

/-- The conversion `%.wx`: at least `w` digits. -/
def printHex (w n : Nat) : List UInt8 :=
  let digits := hexLoop n n
  List.replicate (w - digits.length) 48 ++ digits

/-- `snprintf` into a buffer of `n` bytes: what does not fit in front of the NUL is cut off. -/
def snprintf (n : Nat) (text : List UInt8) : List UInt8 := text.take (n - 1)

def isSpace (c : UInt8) : Bool := c == 32 || (9 ≤ c && c ≤ 13)

def skipSpace (s : List UInt8) : List UInt8 := s.dropWhile isSpace

/-- An optional sign, within `w` bytes: whether it is a minus, and what is left. -/
def readSign (w : Nat) : List UInt8 → Bool × Nat × List UInt8
  | c :: s => if w ≠ 0 ∧ c = 45 then (true, w - 1, s) else
      if w ≠ 0 ∧ c = 43 then (false, w - 1, s) else (false, w, c :: s)
  | [] => (false, w, [])

/-- An optional `0x`, within `w` bytes. `strtol` takes it only in front of a digit. -/
def readPrefix (w : Nat) : List UInt8 → Nat × List UInt8
  | 48 :: x :: c :: s =>
      if 2 < w ∧ (x = 120 ∨ x = 88) ∧ (hexValue c).isSome then (w - 2, c :: s)
      else (w, 48 :: x :: c :: s)
  | s => (w, s)

/-- The digits of a number, within `w` bytes: how many there are, the number, what is left. -/
def readDigits : Nat → Nat → List UInt8 → Nat × Nat × List UInt8
  | 0, acc, s => (0, acc, s)
  | _ + 1, acc, [] => (0, acc, [])
  | w + 1, acc, c :: s =>
    match hexValue c with
    | none => (0, acc, c :: s)
    | some v =>
      let (count, value, rest) := readDigits w (acc * 16 + v) s
      (count + 1, value, rest)

/-- A signed number in base sixteen, if there is one. -/
def readHex (w : Nat) (s : List UInt8) : Option (Int × List UInt8) :=
  let (minus, w, s) := readSign w (skipSpace s)
  let (w, s) := readPrefix w s
  let (count, value, rest) := readDigits w 0 s
  if count = 0 then none else some (if minus then -(value : Int) else value, rest)

/-- The range of a `long` of 64 bits. -/
def clampLong (v : Int) : Int := max (-2 ^ 63) (min v (2 ^ 63 - 1))

/-- A `0x` that no digit follows, which `sscanf` takes for a number it cannot finish. -/
def barePrefix (w : Nat) : List UInt8 → Bool
  | 48 :: x :: s => 1 < w && (x == 120 || x == 88) && (w == 2 || (s.head?.bind hexValue).isNone)
  | _ => false

def scanHex (w : Nat) (s : List UInt8) : Option (Int × List UInt8) :=
  let (_, w', s') := readSign w (skipSpace s)
  if barePrefix w' s' then none else readHex w s

/-- `strtol(s, &endptr, 16)`: the number and what `endptr` points to. -/
def strtol (s : List UInt8) : Int × List UInt8 :=
  match readHex s.length s with
  | none => (0, s)
  | some (v, rest) => (clampLong v, rest)

/-- A directive of `sscanf`. -/
inductive Directive
  | text (c : UInt8)
  | hex (width : Nat)
  /-- `%1[..]` -/
  | oneOf (set : List UInt8)
  deriving DecidableEq

/-- The values `sscanf` stores before it stops. The number of them is its result. -/
def sscanf : List Directive → List UInt8 → List Int
  | [], _ => []
  | .text c :: ds, s =>
    match s with
    | [] => []
    | x :: s => if x = c then sscanf ds s else []
  | .hex width :: ds, s =>
    match scanHex width s with
    | none => []
    | some (v, rest) => v :: sscanf ds rest
  | .oneOf set :: ds, s =>
    match s with
    | [] => []
    | x :: s => if set.contains x then (x.toNat : Int) :: sscanf ds s else []

/-- A text without the occurrences of a pattern that are found from left to right. The
first `skip` bytes belong to an occurrence that has been found. -/
def removed (pattern : List UInt8) : Nat → List UInt8 → List UInt8
  | _, [] => []
  | skip + 1, _ :: s => removed pattern skip s
  | 0, c :: s =>
    if pattern.isPrefixOf (c :: s) then removed pattern (pattern.length - 1) s
    else c :: removed pattern 0 s

/-- A text without the bytes of a set at its two ends. -/
def strip (set : List UInt8) (s : List UInt8) : List UInt8 :=
  ((s.dropWhile set.contains).reverse.dropWhile set.contains).reverse

/-- The last `w` digits of a number. -/
def hexDigits : Nat → Nat → List UInt8
  | 0, _ => []
  | w + 1, n => hexDigits w (n / 16) ++ [hexDigit (n % 16)]

/-- The number that digits in either case add to one that has been read. -/
def digitsValue : Nat → List UInt8 → Option Nat
  | acc, [] => some acc
  | acc, c :: s => (hexValue c).bind (fun v => digitsValue (acc * 16 + v) s)

section

variable {n v w k : Nat} {s : List UInt8}

theorem hexValue_digit (h : n < 16) : hexValue (hexDigit n) = some n := by
  have hall : ∀ m, m < 16 → hexValue (hexDigit m) = some m := by decide
  exact hall n h

theorem hexDigit_inj (hn : n < 16) (hk : k < 16) (h : hexDigit n = hexDigit k) : n = k := by
  have hv := hexValue_digit hn
  rw [h, hexValue_digit hk, Option.some.injEq] at hv
  exact hv.symm

/-- A digit in either case is no space, no sign and no `x`. -/
theorem hexValue_plain {c : UInt8} (h : hexValue c = some v) : v < 16 ∧ isSpace c = false ∧
    c ≠ 45 ∧ c ≠ 43 ∧ c ≠ 120 ∧ c ≠ 88 := by
  have hall : ∀ b ∈ [48, 97, 65], ∀ m < 10,
      isSpace (UInt8.ofNat (b + m)) = false ∧ UInt8.ofNat (b + m) ≠ 45 ∧
      UInt8.ofNat (b + m) ≠ 43 ∧ UInt8.ofNat (b + m) ≠ 120 ∧ UInt8.ofNat (b + m) ≠ 88 := by
    decide
  have hplain : ∀ b ∈ [48, 97, 65], b ≤ c.toNat → c.toNat < b + 10 → isSpace c = false ∧
      c ≠ 45 ∧ c ≠ 43 ∧ c ≠ 120 ∧ c ≠ 88 := by
    intro b hb hle hlt
    have hc := hall b hb (c.toNat - b) (by omega)
    rw [Nat.add_sub_cancel' hle, UInt8.ofNat_toNat] at hc
    exact hc
  unfold hexValue at h
  split at h
  · next hc =>
    cases h
    exact ⟨by omega, hplain 48 (by decide) hc.1 (by omega)⟩
  · split at h
    · next hc =>
      cases h
      exact ⟨by omega, hplain 97 (by decide) hc.1 (by omega)⟩
    · split at h
      · next hc =>
        cases h
        exact ⟨by omega, hplain 65 (by decide) hc.1 (by omega)⟩
      · cases h

theorem digitsValue_two {acc : Nat} {c x : UInt8} {ds : List UInt8}
    (h : digitsValue acc (c :: x :: ds) = some n) :
    ∃ m₁ m₂, hexValue c = some m₁ ∧ hexValue x = some m₂ := by
  rw [digitsValue, Option.bind_eq_some_iff] at h
  obtain ⟨m₁, hc, h⟩ := h
  rw [digitsValue, Option.bind_eq_some_iff] at h
  obtain ⟨m₂, hx, _⟩ := h
  exact ⟨m₁, m₂, hc, hx⟩

theorem hexDigits_length (w n : Nat) : (hexDigits w n).length = w := by
  induction w generalizing n with
  | zero => rfl
  | succ w ih => rw [hexDigits, List.length_append, ih, List.length_singleton]

theorem hexDigits_zero (w : Nat) : hexDigits w 0 = List.replicate w 48 := by
  induction w with
  | zero => rfl
  | succ w ih =>
    have hdigit : hexDigit 0 = 48 := by decide
    rw [hexDigits, Nat.zero_div, ih, Nat.zero_mod, hdigit, ← List.replicate_succ']

theorem hexDigits_add (w v n : Nat) :
    hexDigits (w + v) n = hexDigits w (n / 16 ^ v) ++ hexDigits v n := by
  induction v generalizing n with
  | zero => simp [hexDigits]
  | succ v ih =>
    rw [Nat.add_succ, hexDigits, ih, hexDigits, List.append_assoc, Nat.div_div_eq_div_mul,
      Nat.pow_succ, Nat.mul_comm 16]

theorem mem_hexDigits {c : UInt8} (h : c ∈ hexDigits w n) : ∃ m, m < 16 ∧ c = hexDigit m := by
  induction w generalizing n with
  | zero => cases h
  | succ w ih =>
    rcases List.mem_append.mp h with h | h
    · exact ih h
    · exact ⟨n % 16, Nat.mod_lt _ (by omega), List.mem_singleton.mp h⟩

/-- Nothing is removed from a text in which the first byte of the pattern does not occur. -/
theorem removed_absent {p : UInt8} {ps : List UInt8} (h : p ∉ s) : removed (p :: ps) 0 s = s := by
  induction s with
  | nil => rfl
  | cons c s ih =>
    have hc : p ≠ c := fun he => h (he ▸ List.mem_cons_self)
    rw [removed, List.isPrefixOf_cons_cons, beq_false_of_ne hc, Bool.false_and,
      ih (fun hm => h (List.mem_cons_of_mem _ hm))]
    rfl

theorem dropWhile_absent {set : List UInt8} (h : ∀ c ∈ s, c ∉ set) :
    s.dropWhile set.contains = s := by
  cases s with
  | nil => rfl
  | cons c s =>
    have hc : set.contains c = false := by
      rw [← Bool.not_eq_true, List.contains_iff_mem]
      exact h c List.mem_cons_self
    rw [List.dropWhile_cons, hc]
    rfl

theorem strip_absent {set : List UInt8} (h : ∀ c ∈ s, c ∉ set) : strip set s = s := by
  have hr : ∀ c ∈ s.reverse, c ∉ set := fun c hc => h c (List.mem_reverse.mp hc)
  rw [strip, dropWhile_absent h, dropWhile_absent hr, List.reverse_reverse]

theorem hexDigits_mod (w n : Nat) : hexDigits w (n % 16 ^ w) = hexDigits w n := by
  induction w generalizing n with
  | zero => rfl
  | succ w ih =>
    have hdvd : 16 ∣ 16 ^ (w + 1) := ⟨16 ^ w, by rw [Nat.pow_succ, Nat.mul_comm]⟩
    have hdiv : n % 16 ^ (w + 1) / 16 = n / 16 % 16 ^ w := by
      rw [Nat.pow_succ, Nat.mul_comm, Nat.mod_mul_right_div_self]
    rw [hexDigits, hdiv, ih, Nat.mod_mod_of_dvd n hdvd]
    rfl

theorem hexDigits_append {a b : Nat} (h : b < 16 ^ v) :
    hexDigits w a ++ hexDigits v b = hexDigits (w + v) (a * 16 ^ v + b) := by
  have hdiv : (a * 16 ^ v + b) / 16 ^ v = a := by
    rw [Nat.mul_comm, Nat.mul_add_div (Nat.pos_of_neZero _), Nat.div_eq_of_lt h, Nat.add_zero]
  have hmod : (a * 16 ^ v + b) % 16 ^ v = b := by
    rw [Nat.mul_comm, Nat.mul_add_mod, Nat.mod_eq_of_lt h]
  rw [hexDigits_add, hdiv, ← hexDigits_mod v (a * 16 ^ v + b), hmod]

theorem hexDigits_inj (hn : n < 16 ^ w) (hk : k < 16 ^ w) (h : hexDigits w n = hexDigits w k) :
    n = k := by
  induction w generalizing n k with
  | zero =>
    rw [Nat.pow_zero] at hn hk
    omega
  | succ w ih =>
    rw [Nat.pow_succ] at hn hk
    rw [hexDigits, hexDigits] at h
    have hlen : (hexDigits w (n / 16)).length = (hexDigits w (k / 16)).length := by
      rw [hexDigits_length, hexDigits_length]
    obtain ⟨hinit, hlast⟩ := List.append_inj h hlen
    have hdiv := ih (by omega) (by omega) hinit
    have hmod := hexDigit_inj (by omega) (by omega) (List.singleton_inj.mp hlast)
    omega

/-- The padded digits of a number that fits are its last ones. -/
theorem hexLoop_padded (h : n < 16 ^ w) (hv : n ≤ v) :
    List.replicate (w - (hexLoop v n).length) 48 ++ hexLoop v n = hexDigits w n := by
  induction w generalizing n v with
  | zero =>
    rw [Nat.pow_zero, Nat.lt_one_iff] at h
    subst h
    cases v with
    | zero => rfl
    | succ v => rfl
  | succ w ih =>
    rw [Nat.pow_succ] at h
    cases n with
    | zero =>
      have hloop : hexLoop v 0 = [] := by cases v <;> rfl
      rw [hloop, List.append_nil, hexDigits_zero]
      rfl
    | succ n =>
      cases v with
      | zero => omega
      | succ v =>
        have hpad := ih (n := (n + 1) / 16) (v := v) (by omega) (by omega)
        rw [hexLoop, List.length_append, List.length_singleton, Nat.add_sub_add_right,
          ← List.append_assoc, hpad, hexDigits]
        omega

theorem printHex_digits (h : n < 16 ^ w) : printHex w n = hexDigits w n :=
  hexLoop_padded h (Nat.le_refl n)

/-! Reading what has been printed -/

/-- What follows a number ends it. -/
def Stops (v : Nat) (s : List UInt8) : Prop := v = 0 ∨ ∀ c ∈ s.head?, hexValue c = none

theorem readDigits_stops (acc : Nat) (h : Stops v s) : readDigits v acc s = (0, acc, s) := by
  cases v with
  | zero => rfl
  | succ v =>
    cases s with
    | nil => rfl
    | cons c s =>
      have hc := h.resolve_left (Nat.succ_ne_zero v) c rfl
      rw [readDigits, hc]

/-- Digits are read to their end. -/
theorem readDigits_value {acc : Nat} {ds : List UInt8} (h : digitsValue acc ds = some n) :
    readDigits (v + ds.length) acc (ds ++ s) =
      ((readDigits v n s).1 + ds.length, (readDigits v n s).2) := by
  induction ds generalizing acc with
  | nil =>
    cases h
    rfl
  | cons c ds ih =>
    rw [digitsValue, Option.bind_eq_some_iff] at h
    obtain ⟨m, hm, hrest⟩ := h
    have hi := ih hrest
    rw [List.length_cons, ← Nat.add_assoc, List.cons_append, readDigits, hm]
    dsimp only
    rw [hi]
    rfl

theorem digitsValue_append (acc : Nat) (ds es : List UInt8) :
    digitsValue acc (ds ++ es) = (digitsValue acc ds).bind (fun v => digitsValue v es) := by
  induction ds generalizing acc with
  | nil => rfl
  | cons c ds ih =>
    rw [List.cons_append, digitsValue, digitsValue]
    cases hexValue c with
    | none => rfl
    | some v => exact ih (acc * 16 + v)

theorem digitsValue_hexDigits (acc : Nat) (h : n < 16 ^ w) :
    digitsValue acc (hexDigits w n) = some (acc * 16 ^ w + n) := by
  induction w generalizing n with
  | zero =>
    rw [Nat.pow_zero, Nat.lt_one_iff] at h
    rw [h, Nat.pow_zero, Nat.mul_one]
    rfl
  | succ w ih =>
    rw [Nat.pow_succ] at h
    have hvalue := hexValue_digit (Nat.mod_lt n (y := 16) (by omega))
    rw [hexDigits, digitsValue_append, ih (by omega), Option.bind_some, digitsValue, hvalue]
    rw [Option.bind_some, digitsValue, Nat.pow_succ, ← Nat.mul_assoc]
    congr 1
    omega

theorem digitsValue_lt {acc : Nat} {ds : List UInt8} (h : digitsValue acc ds = some n) :
    n < (acc + 1) * 16 ^ ds.length := by
  induction ds generalizing acc with
  | nil =>
    cases h
    simp
  | cons c ds ih =>
    rw [digitsValue, Option.bind_eq_some_iff] at h
    obtain ⟨m, hm, hrest⟩ := h
    have hlt := ih hrest
    have hdigit := (hexValue_plain hm).1
    have hle : (acc * 16 + m + 1) * 16 ^ ds.length ≤ (acc + 1) * 16 * 16 ^ ds.length :=
      Nat.mul_le_mul_right _ (by omega)
    rw [List.length_cons, Nat.pow_succ, Nat.mul_comm (16 ^ _), ← Nat.mul_assoc]
    omega

theorem readDigits_append (acc : Nat) (h : n < 16 ^ w) :
    readDigits (v + w) acc (hexDigits w n ++ s) =
      ((readDigits v (acc * 16 ^ w + n) s).1 + w, (readDigits v (acc * 16 ^ w + n) s).2) := by
  have hread := readDigits_value (v := v) (s := s) (digitsValue_hexDigits acc h)
  rw [hexDigits_length] at hread
  exact hread

theorem hexDigits_two (v n : Nat) : ∃ m₁ m₂, m₁ < 16 ∧ m₂ < 16 ∧
    hexDigits (2 + v) n = hexDigit m₁ :: hexDigit m₂ :: hexDigits v n := by
  refine ⟨n / 16 ^ v / 16 % 16, n / 16 ^ v % 16, ?_, ?_, ?_⟩
  · exact Nat.mod_lt _ (by omega)
  · exact Nat.mod_lt _ (by omega)
  · rw [hexDigits_add]
    rfl

theorem skipSpace_cons {c : UInt8} (h : isSpace c = false) : skipSpace (c :: s) = c :: s := by
  rw [skipSpace, List.dropWhile_cons, h]
  rfl

theorem readSign_cons {c : UInt8} (hm : c ≠ 45) (hp : c ≠ 43) (w : Nat) :
    readSign w (c :: s) = (false, w, c :: s) := by
  rw [readSign, if_neg (fun h => hm h.2), if_neg (fun h => hp h.2)]

theorem readPrefix_cons {c x : UInt8} (h : x ≠ 120) (h' : x ≠ 88) (w : Nat) :
    readPrefix w (c :: x :: s) = (w, c :: x :: s) := by
  unfold readPrefix
  split
  · next he =>
    simp only [List.cons.injEq] at he
    obtain ⟨_, rfl, _⟩ := he
    rw [if_neg (fun hc => hc.2.1.elim h h')]
    simp_all
  · rfl

theorem barePrefix_cons {c x : UInt8} (h : x ≠ 120) (h' : x ≠ 88) (w : Nat) :
    barePrefix w (c :: x :: s) = false := by
  unfold barePrefix
  split
  · next he =>
    simp only [List.cons.injEq] at he
    obtain ⟨_, rfl, _⟩ := he
    simp [h, h']
  · rfl

/-- Two digits at least are read as the number they stand for. -/
theorem readHex_value {c x : UInt8} {ds : List UInt8} (h : digitsValue 0 (c :: x :: ds) = some n)
    (hs : Stops v s) : readHex (v + (2 + ds.length)) (c :: x :: ds ++ s) = some ((n : Int), s) := by
  obtain ⟨m₁, m₂, hc, hx⟩ := digitsValue_two h
  obtain ⟨_, hspace, hminus, hplus, _, _⟩ := hexValue_plain hc
  obtain ⟨_, _, _, _, hlower, hupper⟩ := hexValue_plain hx
  have hdigits := readDigits_value (v := v) (s := s) h
  rw [readDigits_stops n hs, List.length_cons, List.length_cons] at hdigits
  have hlength : v + (2 + ds.length) = v + (ds.length + 1 + 1) := by omega
  rw [hlength, readHex, List.cons_append, List.cons_append, skipSpace_cons hspace,
    readSign_cons hminus hplus]
  dsimp only
  rw [readPrefix_cons hlower hupper]
  dsimp only
  rw [List.cons_append, List.cons_append] at hdigits
  rw [hdigits]
  dsimp only
  rw [if_neg (by omega)]
  rfl

theorem scanHex_value {c x : UInt8} {ds : List UInt8} (h : digitsValue 0 (c :: x :: ds) = some n) :
    scanHex (2 + ds.length) (c :: x :: ds ++ s) = some ((n : Int), s) := by
  obtain ⟨m₁, m₂, hc, hx⟩ := digitsValue_two h
  obtain ⟨_, hspace, hminus, hplus, _, _⟩ := hexValue_plain hc
  obtain ⟨_, _, _, _, hlower, hupper⟩ := hexValue_plain hx
  have hread := readHex_value (v := 0) (s := s) h (Or.inl rfl)
  rw [Nat.zero_add] at hread
  rw [scanHex, hread, List.cons_append, List.cons_append, skipSpace_cons hspace,
    readSign_cons hminus hplus]
  dsimp only
  rw [barePrefix_cons hlower hupper]
  rfl

/-- A printed number of two digits at least is read back. -/
theorem readHex_digits (h : n < 16 ^ (2 + k)) (hs : Stops v s) :
    readHex (v + (2 + k)) (hexDigits (2 + k) n ++ s) = some ((n : Int), s) := by
  obtain ⟨m₁, m₂, _, _, hd⟩ := hexDigits_two k n
  have hvalue := digitsValue_hexDigits 0 h
  rw [Nat.zero_mul, Nat.zero_add, hd] at hvalue
  have hread := readHex_value hvalue hs
  rw [hexDigits_length] at hread
  rw [hd]
  exact hread

theorem scanHex_digits (h : n < 16 ^ (2 + k)) :
    scanHex (2 + k) (hexDigits (2 + k) n ++ s) = some ((n : Int), s) := by
  obtain ⟨m₁, m₂, _, _, hd⟩ := hexDigits_two k n
  have hvalue := digitsValue_hexDigits 0 h
  rw [Nat.zero_mul, Nat.zero_add, hd] at hvalue
  have hscan := scanHex_value (s := s) hvalue
  rw [hexDigits_length] at hscan
  rw [hd]
  exact hscan

theorem readPrefix_hex {c : UInt8} {m : Nat} (hc : hexValue c = some m) (w : Nat) :
    readPrefix (3 + w) (48 :: 120 :: c :: s) = (1 + w, c :: s) := by
  have hsome : (hexValue c).isSome := by rw [hc]; rfl
  rw [readPrefix, if_pos ⟨by omega, Or.inl rfl, hsome⟩]
  congr 1
  omega

/-- A number printed behind `0x` is read back. -/
theorem readHex_prefixed (h : n < 16 ^ (1 + k)) :
    readHex (3 + k) (48 :: 120 :: hexDigits (1 + k) n) = some ((n : Int), []) := by
  obtain ⟨m, hm, hd⟩ : ∃ m, m < 16 ∧ hexDigits (1 + k) n = hexDigit m :: hexDigits k n := by
    refine ⟨n / 16 ^ k % 16, Nat.mod_lt _ (by omega), ?_⟩
    rw [hexDigits_add]
    rfl
  have hdigits := readDigits_append (v := 0) (s := []) 0 h
  rw [Nat.zero_mul, Nat.zero_add, Nat.zero_add, List.append_nil, hd, readDigits_stops n (Or.inl rfl),
    Nat.zero_add] at hdigits
  rw [readHex, hd, skipSpace_cons (by decide), readSign_cons (by decide) (by decide)]
  dsimp only
  rw [readPrefix_hex (hexValue_digit hm)]
  dsimp only
  rw [hdigits]
  have hne : ¬1 + k = 0 := by omega
  dsimp only
  rw [if_neg hne]
  rfl

theorem clampLong_nat (h : n < 2 ^ 63) : clampLong n = n := by
  rw [clampLong]
  omega

theorem strtol_prefixed (h : n < 16 ^ (1 + k)) (hn : n < 2 ^ 63) :
    strtol (48 :: 120 :: hexDigits (1 + k) n) = ((n : Int), []) := by
  have hl : (48 :: 120 :: hexDigits (1 + k) n).length = 3 + k := by
    rw [List.length_cons, List.length_cons, hexDigits_length]
    omega
  rw [strtol, hl, readHex_prefixed h]
  dsimp only
  rw [clampLong_nat hn]

/-- The digits in front of what is no digit. -/
theorem strtol_digits (h : n < 16 ^ (2 + k)) (hn : n < 2 ^ 63) (hs : ∀ c ∈ s.head?, hexValue c = none) :
    strtol (hexDigits (2 + k) n ++ s) = ((n : Int), s) := by
  have hl : (hexDigits (2 + k) n ++ s).length = s.length + (2 + k) := by
    rw [List.length_append, hexDigits_length, Nat.add_comm]
  rw [strtol, hl, readHex_digits h (Or.inr hs)]
  dsimp only
  rw [clampLong_nat hn]

variable {ds : List Directive}

/-- Literal text lets exactly itself through. -/
theorem sscanf_text {cs xs : List UInt8} (h : xs.length = cs.length) :
    sscanf (cs.map .text ++ ds) (xs ++ s) = if xs = cs then sscanf ds s else [] := by
  induction cs generalizing xs with
  | nil =>
    rw [List.length_eq_zero_iff.mp h]
    simp
  | cons c cs ih =>
    cases xs with
    | nil => cases h
    | cons x xs =>
      have hi := ih (Nat.succ.inj h)
      rw [List.map_cons, List.cons_append, List.cons_append, sscanf, hi]
      by_cases hx : x = c
      · simp [hx]
      · simp [hx]

theorem sscanf_field (hn : n < 16 ^ w) (hk : k < 16 ^ w) :
    sscanf ((hexDigits w k).map .text ++ ds) (hexDigits w n ++ s) =
      if n = k then sscanf ds s else [] := by
  rw [sscanf_text (by rw [hexDigits_length, hexDigits_length])]
  have hiff : hexDigits w n = hexDigits w k ↔ n = k :=
    ⟨hexDigits_inj hn hk, congrArg (hexDigits w)⟩
  simp only [hiff]

theorem sscanf_literal (cs : List UInt8) : sscanf (cs.map .text ++ ds) (cs ++ s) = sscanf ds s := by
  rw [sscanf_text rfl, if_pos rfl]

/-- A text of digits is read as the number they stand for. -/
theorem sscanf_value {c x : UInt8} (h : digitsValue 0 (c :: x :: s) = some n) :
    sscanf [.hex (2 + s.length)] (c :: x :: s) = [(n : Int)] := by
  have hscan := scanHex_value (s := []) h
  rw [List.append_nil] at hscan
  rw [sscanf, hscan]
  rfl

theorem sscanf_hex (h : n < 16 ^ (2 + k)) :
    sscanf (.hex (2 + k) :: ds) (hexDigits (2 + k) n ++ s) = (n : Int) :: sscanf ds s := by
  rw [sscanf, scanHex_digits h]

/-! How many values are stored. A text in front of the last of them has to fit. -/

theorem sscanf_field_count {m : Nat} (hn : n < 16 ^ w) (hk : k < 16 ^ w) :
    (sscanf ((hexDigits w k).map .text ++ ds) (hexDigits w n ++ s)).length = m + 1 ↔
      n = k ∧ (sscanf ds s).length = m + 1 := by
  rw [sscanf_field hn hk]
  by_cases h : n = k
  · simp [h]
  · simp [h]

theorem sscanf_hex_count {m : Nat} (h : n < 16 ^ (2 + k)) :
    (sscanf (.hex (2 + k) :: ds) (hexDigits (2 + k) n ++ s)).length = m + 1 ↔
      (sscanf ds s).length = m := by
  rw [sscanf_hex h, List.length_cons, Nat.add_right_cancel_iff]

theorem sscanf_oneOf_count {m : Nat} {set : List UInt8}
    (hset : ∀ v < 16, set.contains (hexDigit v) = true ↔ v = k) (h : n < 16) :
    (sscanf (.oneOf set :: ds) (hexDigit n :: s)).length = m + 1 ↔
      n = k ∧ (sscanf ds s).length = m := by
  rw [sscanf]
  by_cases hc : set.contains (hexDigit n) = true
  · have hn : n = k := (hset n h).mp hc
    rw [if_pos hc, List.length_cons, Nat.add_right_cancel_iff]
    exact ⟨fun hl => ⟨hn, hl⟩, And.right⟩
  · have hn : n ≠ k := fun hn => hc ((hset n h).mpr hn)
    rw [if_neg hc]
    exact ⟨fun hl => absurd hl (Nat.succ_ne_zero m).symm, fun hl => absurd hl.1 hn⟩

end

end Library.Text
