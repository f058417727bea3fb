import Gattlib.Library.LetterCase
import Gattlib.PythonNotifications

namespace Gattlib.UuidKeys

open Library.Text Library.LetterCase Uuids UuidText PythonNotifications

/-! A text is ASCII here, as bytes. -/

/-- `\s` of a regular expression in Python -/
def reSpace (c : UInt8) : Bool := isSpace c || (28 ≤ c && c ≤ 31)

def baseSuffix : List UInt8 := chars "-0000-1000-8000-00805f9b34fb"

/-- The group of a match that begins here. `\S+` takes as much as it can. -/
def matchHere : List UInt8 → Option (List UInt8)
  | [] => none
  | c :: s =>
    if reSpace c then none
    else match matchHere s with
      | some group => some (c :: group)
      | none => if baseSuffix.isPrefixOf (s.map lower) then some [c] else none

/-- `GATT_STANDARD_UUID_FORMAT.search` -/
def search : List UInt8 → Option (List UInt8)
  | [] => none
  | c :: s => (matchHere (c :: s)).or (search s)

/-- The digits behind the first one. Single underscores may stand between them. -/
def pythonDigits : ℕ → List UInt8 → Option ℕ
  | acc, [] => some acc
  | acc, 95 :: c :: s => (hexValue c).bind (fun v => pythonDigits (acc * 16 + v) s)
  | acc, c :: s => (hexValue c).bind (fun v => pythonDigits (acc * 16 + v) s)

def pythonNumber : List UInt8 → Option ℕ
  | [] => none
  | c :: s => (hexValue c).bind (fun v => pythonDigits v s)

/-- What is left behind an optional `0x` and an underscore behind that. -/
def pythonPrefix : List UInt8 → List UInt8
  | 48 :: x :: 95 :: s => if x = 120 ∨ x = 88 then s else 48 :: x :: 95 :: s
  | 48 :: x :: s => if x = 120 ∨ x = 88 then s else 48 :: x :: s
  | s => s

/-- `int(text, 16)` -/
def pythonInt (text : List UInt8) : Option ℤ :=
  let s := strip [9, 10, 11, 12, 13, 32] text
  let (minus, _, s) := readSign s.length s
  (pythonNumber (pythonPrefix s)).map (fun n => if minus then -(n : ℤ) else n)

/-- `gattlib_uuid_str_to_int` -/
def gattlibUuidStrToInt (uuidStr : List UInt8) : Option ℤ :=
  if uuidStr.length ≤ 8 then pythonInt uuidStr
  else match search uuidStr with
    | some group => pythonInt group
    | none => (pythonUuidInt uuidStr).map Nat.cast

/-- `self._services[service.short_uuid] = service`, of a service with the UUID `u`. The
characteristics are stored in the same way. -/
def store (entries : ℤ → Option Uuid) (u : Uuid) : ℤ → Option Uuid :=
  match gattlibUuidToInt u with
  | some key => Function.update entries key (some u)
  | none => entries

/-- The dictionary that `Device.discover` makes of the UUIDs it is given. -/
def discover (uuids : List Uuid) : ℤ → Option Uuid := uuids.foldl store (fun _ => none)

def HexText (w : ℕ) (s : List UInt8) : Prop := s.length = w ∧ ∀ c ∈ s, (hexValue c).isSome

/-- 8-4-4-4-12 -/
def LongForm (s : List UInt8) : Prop :=
  ∃ a b c d e, HexText 8 a ∧ HexText 4 b ∧ HexText 4 c ∧ HexText 4 d ∧ HexText 12 e ∧
    s = a ++ 45 :: (b ++ 45 :: (c ++ 45 :: (d ++ 45 :: e)))

def UuidString (s : List UInt8) : Prop := HexText 4 s ∨ HexText 8 s ∨ LongForm s

/-- The key of the text is that of the UUID it is parsed as, under which a device on which
that UUID was discovered has an entry. -/
def Agree (s : List UInt8) (n : ℕ) : Prop :=
  ∃ u key, gattlibStringToUuid s n = .ok u ∧ gattlibUuidToInt u = some key ∧
    gattlibUuidStrToInt s = some (key : ℤ) ∧
    ∀ uuids, u ∈ uuids → ∃ v, discover uuids key = some v ∧ gattlibUuidToInt v = some key

/-- A long UUID in the Bluetooth base whose first field has more than 16 bits. -/
def WideBase (s : List UInt8) : Prop :=
  s.length = 36 ∧ (s.drop 8).map lower = baseSuffix ∧ s.take 4 ≠ chars "0000"

section

variable {s a : List UInt8} {u : Uuid} {n w : ℕ} {f : Fields}

/-! The dictionary -/

theorem store_same (entries : ℤ → Option Uuid) (h : gattlibUuidToInt u = some n) :
    store entries u n = some u := by
  simp [store, h]

theorem store_other (entries : ℤ → Option Uuid) (h : gattlibUuidToInt u ≠ some n) :
    store entries u n = entries n := by
  rw [store]
  cases hkey : gattlibUuidToInt u with
  | none => rfl
  | some key =>
    have hne : n ≠ key := fun he => h (by rw [hkey, he])
    simp [hne]

/-- A key that is in the dictionary stays, with an entry of that key. -/
theorem stored_stays {uuids : List Uuid} {entries : ℤ → Option Uuid}
    (h : ∃ v, entries n = some v ∧ gattlibUuidToInt v = some n) :
    ∃ v, uuids.foldl store entries n = some v ∧ gattlibUuidToInt v = some n := by
  induction uuids generalizing entries with
  | nil => exact h
  | cons w uuids ih =>
    apply ih
    by_cases hw : gattlibUuidToInt w = some n
    · exact ⟨w, store_same entries hw, hw⟩
    · simpa [store_other entries hw] using h

theorem discover_finds {uuids : List Uuid} (hu : u ∈ uuids) (h : gattlibUuidToInt u = some n) :
    ∃ v, discover uuids n = some v ∧ gattlibUuidToInt v = some n := by
  obtain ⟨before, rest, rfl⟩ := List.append_of_mem hu
  rw [discover, List.foldl_append, List.foldl_cons]
  exact stored_stays ⟨u, store_same _ h, h⟩

/-! The C parser does not look at the case of the letters -/

theorem isUuid128_lower (s : List UInt8) : isUuid128 (s.map lower) = isUuid128 s := by
  have hdash : ∀ i : ℕ, ((s.map lower)[i]? == some 45) = (s[i]? == some 45) := by
    intro i
    rw [List.getElem?_map]
    cases s[i]? with
    | none => rfl
    | some c =>
      have hc : lower c = 45 ↔ c = 45 := lower_eq (by decide)
      rw [Option.map_some, Bool.eq_iff_iff]
      simp [hc]
  simp only [isUuid128, List.length_map, hdash]

theorem contains_lower {letter capital : UInt8} (hl : letter = capital + 32)
    (hc : 65 ≤ capital.toNat ∧ capital.toNat ≤ 90) (c : UInt8) :
    [letter, capital].contains (lower c) = [letter, capital].contains c := by
  subst hl
  have hsum : (capital + 32).toNat = capital.toNat + 32 := by
    have h32 : (32 : UInt8).toNat = 32 := rfl
    rw [UInt8.toNat_add]
    omega
  rw [Bool.eq_iff_iff]
  simp only [List.contains_iff_mem, List.mem_cons, List.not_mem_nil, or_false, ← UInt8.toNat_inj, hsum]
  by_cases h : 65 ≤ c.toNat ∧ c.toNat ≤ 90
  · rw [lower_capital h]
    omega
  · rw [lower_other h]

theorem literal_anyCase {R : Int → Int → Prop} {text : String}
    (h : (chars text).all (fun c => decide (NoLetter c)) = true) :
    ∀ d ∈ literal text, AnyCase R d := by
  intro d hd
  obtain ⟨c, hc, rfl⟩ := List.mem_map.mp hd
  have hno : NoLetter c := of_decide_eq_true (List.all_eq_true.mp h c hc)
  exact hno

theorem isBaseUuid128_lower (s : List UInt8) : isBaseUuid128 (s.map lower) = isBaseUuid128 s := by
  have hany : ∀ d ∈ baseFormat, AnyCase (fun _ _ => True) d := by
    have hf : chars "fF" = [102, 70] := by decide
    have hb : chars "bB" = [98, 66] := by decide
    have hset : ∀ c, (chars "fF").contains (lower c) = (chars "fF").contains c ∧ True := by
      rw [hf]
      exact fun c => ⟨contains_lower (by decide) (by decide) c, trivial⟩
    have hset' : ∀ c, (chars "bB").contains (lower c) = (chars "bB").contains c ∧ True := by
      rw [hb]
      exact fun c => ⟨contains_lower (by decide) (by decide) c, trivial⟩
    intro d hd
    simp only [baseFormat, List.mem_append, List.mem_cons, List.not_mem_nil, or_false] at hd
    rcases hd with hd | rfl | hd | rfl | hd | rfl | hd | rfl | rfl
    · exact literal_anyCase (by decide) d hd
    · trivial
    · exact literal_anyCase (by decide) d hd
    · exact hset
    · exact literal_anyCase (by decide) d hd
    · exact hset'
    · exact literal_anyCase (by decide) d hd
    · exact hset
    · exact hset'
  have hlength := (sscanf_lower (fun _ => trivial) hany s).length_eq
  rw [isBaseUuid128, isBaseUuid128, isUuid128_lower, hlength]

theorem longScan_lower (s : List UInt8) : sscanf longFormat (s.map lower) = sscanf longFormat s := by
  have hany : ∀ d ∈ longFormat, AnyCase Eq d := by
    intro d hd
    simp only [longFormat, List.mem_append, List.mem_cons, List.not_mem_nil, or_false] at hd
    rcases hd with rfl | hd | rfl | hd | rfl | hd | rfl | hd | rfl | rfl
    · trivial
    · exact literal_anyCase (by decide) d hd
    · trivial
    · exact literal_anyCase (by decide) d hd
    · trivial
    · exact literal_anyCase (by decide) d hd
    · trivial
    · exact literal_anyCase (by decide) d hd
    · trivial
    · trivial
  have hscan := sscanf_lower (fun _ => rfl) hany s
  rwa [List.forall₂_eq_eq_eq] at hscan

theorem head_lower {c : UInt8} (hc : NoLetter c) :
    (s.map lower).head? = some c ↔ s.head? = some c := by
  cases s with
  | nil => simp
  | cons x s => simp [lower_eq hc]

/-- `gattlib_string_to_uuid` of a text in any case. -/
theorem parse_lower (s : List UInt8) (m : ℕ) :
    gattlibStringToUuid (s.map lower) m = gattlibStringToUuid s m := by
  have hshort : ∀ t : List UInt8, btStringToUuid16 (t.map lower) = btStringToUuid16 t := by
    intro t
    have hdash : ((strtol t).2.map lower).head? = some 45 ↔ (strtol t).2.head? = some 45 :=
      head_lower (by decide)
    simp only [btStringToUuid16, strtol_lower, hdash, List.head?_eq_none_iff, List.map_eq_nil_iff]
  have hmiddle : btStringToUuid32 (s.map lower) = btStringToUuid32 s := by
    simp [btStringToUuid32, strtol_lower]
  have hlong : btStringToUuid128 (s.map lower) = btStringToUuid128 s := by
    simp only [btStringToUuid128, longScan_lower]
  have h32 : isUuid32 (s.map lower) = isUuid32 s := by simp [isUuid32]
  have h16 : isUuid16 (s.map lower) = isUuid16 s := by simp [isUuid16]
  have hparse : btStringToUuid (s.map lower) = btStringToUuid s := by
    rw [btStringToUuid, btStringToUuid, isBaseUuid128_lower, isUuid128_lower, h32, h16,
      ← List.map_drop, hshort, hshort, hmiddle, hlong]
  rw [gattlibStringToUuid, gattlibStringToUuid, hparse]

/-! What it makes of digits -/

theorem fieldsOf_ofFields (f : Fields) : fieldsOf (ofFields f) = f := by
  have hwide : ∀ x : BitVec 32, BitVec.ofNat 32
      (bigEndian [byteOf x 3, byteOf x 2, byteOf x 1, byteOf x 0]) = x := by
    intro x
    have hx := x.isLt
    rw [← BitVec.toNat_inj, BitVec.toNat_ofNat]
    simp only [bigEndian, List.length_cons, List.length_nil, byteOf_toNat]
    omega
  have hnarrow : ∀ x : BitVec 16, BitVec.ofNat 16 (bigEndian [byteOf x 1, byteOf x 0]) = x := by
    intro x
    have hx := x.isLt
    rw [← BitVec.toNat_inj, BitVec.toNat_ofNat]
    simp only [bigEndian, List.length_cons, List.length_nil, byteOf_toNat]
    omega
  simp [fieldsOf, ofFields, field, hwide, hnarrow]

theorem hexText_lower (h : HexText w s) :
    ∃ n, n < 16 ^ w ∧ digitsValue 0 s = some n ∧ s.map lower = hexDigits w n := by
  have hvalue : ∀ t : List UInt8, (∀ c ∈ t, (hexValue c).isSome) →
      ∀ acc, ∃ n, digitsValue acc t = some n := by
    intro t ht
    induction t with
    | nil => exact fun acc => ⟨acc, rfl⟩
    | cons c t ih =>
      intro acc
      obtain ⟨hc, hrest⟩ := List.forall_mem_cons.mp ht
      obtain ⟨v, hv⟩ := Option.isSome_iff_exists.mp hc
      obtain ⟨n, hn⟩ := ih hrest (acc * 16 + v)
      exact ⟨n, by rw [digitsValue, hv, Option.bind_some, hn]⟩
  obtain ⟨n, hn⟩ := hvalue s h.2 0
  have hlt := digitsValue_lt hn
  have hlower := digits_lower hn
  rw [h.1] at hlt hlower
  exact ⟨n, by omega, hn, hlower⟩

/-- Four digits. -/
theorem parse_four {m : ℕ} (h : HexText 4 s) (hn : digitsValue 0 s = some n) :
    ∃ x : BitVec 16, gattlibStringToUuid s m = .ok (.uuid16 x) ∧ x.toNat = n := by
  obtain ⟨k, hk, hvalue, hlower⟩ := hexText_lower h
  obtain rfl : n = k := by simpa [hn] using hvalue
  have hl : (hexDigits 4 n).length = 4 := hexDigits_length 4 n
  obtain ⟨hlong, hbase⟩ := not_long (s := hexDigits 4 n) (by omega)
  have hread := strtol_digits (n := n) (k := 2) (s := []) hk (by omega) (by simp)
  rw [List.append_nil] at hread
  refine ⟨BitVec.ofNat 16 n, ?_, by simpa using hk⟩
  rw [← parse_lower, hlower]
  simp [gattlibStringToUuid, btStringToUuid, hlong, hbase, isUuid32, isUuid16, hl,
    btStringToUuid16, hread, Except.map, btUuidToUuid]

/-- Eight digits. -/
theorem parse_eight {m : ℕ} (h : HexText 8 s) (hn : digitsValue 0 s = some n) :
    ∃ x : BitVec 32, gattlibStringToUuid s m = .ok (.uuid32 x) ∧ x.toNat = n := by
  obtain ⟨k, hk, hvalue, hlower⟩ := hexText_lower h
  obtain rfl : n = k := by simpa [hn] using hvalue
  have hl : (hexDigits 8 n).length = 8 := hexDigits_length 8 n
  obtain ⟨hlong, hbase⟩ := not_long (s := hexDigits 8 n) (by omega)
  have hread := strtol_digits (n := n) (k := 6) (s := []) hk (by omega) (by simp)
  rw [List.append_nil] at hread
  refine ⟨BitVec.ofNat 32 n, ?_, by simpa using hk⟩
  rw [← parse_lower, hlower]
  simp [gattlibStringToUuid, btStringToUuid, hlong, hbase, isUuid32, hl, btStringToUuid32, hread,
    Except.map, btUuidToUuid]

/-! What Python makes of digits -/

theorem digit_range {c : UInt8} (h : (hexValue c).isSome) :
    48 ≤ c.toNat ∧ c.toNat ≤ 102 ∧ c.toNat ≠ 95 := by
  unfold hexValue at h
  split_ifs at h
  · omega
  · omega
  · omega
  · cases h

theorem pythonDigits_hex (h : ∀ c ∈ s, (hexValue c).isSome) (acc : ℕ) :
    pythonDigits acc s = digitsValue acc s := by
  induction s generalizing acc with
  | nil => rfl
  | cons c s ih =>
    obtain ⟨hc, hs⟩ := List.forall_mem_cons.mp h
    have hline : c ≠ 95 := fun he => (digit_range hc).2.2 (by rw [he]; rfl)
    have hone : pythonDigits acc (c :: s) =
        (hexValue c).bind (fun v => pythonDigits (acc * 16 + v) s) := by
      cases s with
      | nil => simp [pythonDigits]
      | cons x s => simp [pythonDigits, hline]
    simp [hone, digitsValue, ih hs]

theorem pythonPrefix_hex (h : ∀ c ∈ s, (hexValue c).isSome) : pythonPrefix s = s := by
  match s with
  | [] => rfl
  | [c] => simp [pythonPrefix]
  | c :: x :: s =>
    obtain ⟨v, hv⟩ := Option.isSome_iff_exists.mp (h x (by simp))
    obtain ⟨_, _, _, _, hx, hx'⟩ := hexValue_plain hv
    unfold pythonPrefix
    split
    · next heq => simp_all
    · next heq => simp_all
    · rfl

theorem pythonInt_hex (h : HexText w s) (hw : 0 < w) (hn : digitsValue 0 s = some n) :
    pythonInt s = some (n : ℤ) := by
  obtain ⟨hl, hall⟩ := h
  have hstrip : strip [9, 10, 11, 12, 13, 32] s = s := by
    apply strip_absent
    intro c hc hm
    have hlarge := (digit_range (hall c hc)).1
    have hsmall : ∀ x ∈ ([9, 10, 11, 12, 13, 32] : List UInt8), x.toNat < 48 := by simp
    have hlt := hsmall c hm
    omega
  cases s with
  | nil => exact absurd hl (by simp; omega)
  | cons c s =>
    obtain ⟨hc, hs⟩ := List.forall_mem_cons.mp hall
    obtain ⟨v, hv⟩ := Option.isSome_iff_exists.mp hc
    obtain ⟨_, _, hminus, hplus, _, _⟩ := hexValue_plain hv
    have hnumber : pythonNumber (c :: s) = some n := by
      rw [digitsValue, hv] at hn
      rw [pythonNumber, hv]
      simpa [pythonDigits_hex hs] using hn
    simp [pythonInt, hstrip, readSign_cons hminus hplus, pythonPrefix_hex hall, hnumber]

/-! The search for a standard UUID -/

theorem baseSuffix_length : baseSuffix.length = 28 := by decide

theorem matchHere_short (h : s.length ≤ 28) : matchHere s = none := by
  induction s with
  | nil => rfl
  | cons c s ih =>
    rw [List.length_cons] at h
    have hno : baseSuffix.isPrefixOf (s.map lower) = false := by
      rw [← Bool.not_eq_true, List.isPrefixOf_iff_prefix]
      intro hp
      have hle := hp.length_le
      rw [baseSuffix_length, List.length_map] at hle
      omega
    simp [matchHere, ih (by omega), hno]

theorem search_short (h : s.length ≤ 28) : search s = none := by
  induction s with
  | nil => rfl
  | cons c s ih =>
    have hs := h
    rw [List.length_cons] at hs
    simp [search, matchHere_short h, ih (by omega)]

/-- Only at the first hyphen the suffix can begin. -/
theorem matchHere_groups {rest : List UInt8} (h : ∀ c ∈ a, (hexValue c).isSome) (ha : a ≠ [])
    (hr : rest.length = 28) :
    matchHere (a ++ rest) = if rest.map lower = baseSuffix then some a else none := by
  have hspace : ∀ c, (hexValue c).isSome → reSpace c = false := by
    intro c hc
    obtain ⟨v, hv⟩ := Option.isSome_iff_exists.mp hc
    have hlarge := (digit_range hc).1
    have h31 : ¬c ≤ 31 := fun hle => by
      have hle : c.toNat ≤ 31 := UInt8.le_iff_toNat_le.mp hle
      omega
    simp [reSpace, (hexValue_plain hv).2.1, h31]
  induction a with
  | nil => exact absurd rfl ha
  | cons c a ih =>
    obtain ⟨hc, hs⟩ := List.forall_mem_cons.mp h
    rw [List.cons_append, matchHere, hspace c hc]
    cases a with
    | nil =>
      have hp : baseSuffix.isPrefixOf (rest.map lower) = true ↔ rest.map lower = baseSuffix := by
        rw [List.isPrefixOf_iff_prefix]
        constructor
        · intro hp
          exact (hp.eq_of_length (by rw [baseSuffix_length, List.length_map, hr])).symm
        · intro he
          exact he ▸ List.prefix_rfl
      simp [matchHere_short (s := rest) (by omega), hp]
    | cons x a =>
      obtain ⟨v, hv⟩ := Option.isSome_iff_exists.mp (hs x List.mem_cons_self)
      have hdash : lower x ≠ 45 := by
        have hiff : lower x = 45 ↔ x = 45 := lower_eq (by decide)
        exact fun he => (hexValue_plain hv).2.2.1 (hiff.mp he)
      have hchars : baseSuffix = 45 :: chars "0000-1000-8000-00805f9b34fb" := by decide
      have hno : baseSuffix.isPrefixOf ((x :: a ++ rest).map lower) = false := by
        rw [hchars, List.cons_append, List.map_cons, List.isPrefixOf_cons_cons]
        simp [Ne.symm hdash]
      rw [if_neg (by simp), ih hs (by simp), hno]
      by_cases hb : rest.map lower = baseSuffix
      · simp [hb]
      · simp [hb]

theorem search_groups {rest : List UInt8} (h : ∀ c ∈ a, (hexValue c).isSome) (ha : a ≠ [])
    (hr : rest.length = 28) :
    search (a ++ rest) = if rest.map lower = baseSuffix then some a else none := by
  induction a with
  | nil => exact absurd rfl ha
  | cons c a ih =>
    have hmatch := matchHere_groups h ha hr
    rw [List.cons_append] at hmatch ⊢
    rw [search, hmatch]
    split_ifs with hb
    · rfl
    · rw [Option.none_or]
      cases a with
      | nil => exact search_short (by rw [List.nil_append, hr])
      | cons x a =>
        have hrest := ih (List.forall_mem_cons.mp h).2 (by simp)
        rwa [if_neg hb] at hrest

/-! A long UUID -/

/-- The text behind the first field of a UUID. -/
def tailText (f : Fields) : List UInt8 :=
  45 :: (hexDigits 4 f.data1.toNat ++ 45 :: (hexDigits 4 f.data2.toNat ++
    45 :: (hexDigits 4 f.data3.toNat ++ 45 :: (hexDigits 8 f.data4.toNat ++ hexDigits 4 f.data5.toNat))))

theorem longText_tail (f : Fields) : longText f = hexDigits 8 f.data0.toNat ++ tailText f := by
  have hdash : chars "-" = [45] := by decide
  simp [longText, tailText, hdash]

theorem tailText_base : tailText f = baseSuffix ↔ f.data1.toNat = 0 ∧ f.data2.toNat = 0x1000 ∧
    f.data3.toNat = 0x8000 ∧ f.data4.toNat = 0x00805F9B ∧ f.data5.toNat = 0x34FB := by
  have hbase : baseSuffix = 45 :: (hexDigits 4 0 ++ 45 :: (hexDigits 4 0x1000 ++
      45 :: (hexDigits 4 0x8000 ++ 45 :: (hexDigits 8 0x00805F9B ++ hexDigits 4 0x34FB)))) := by
    decide
  have happend : ∀ {w m k : ℕ} {t t' : List UInt8}, m < 16 ^ w → k < 16 ^ w →
      (hexDigits w m ++ t = hexDigits w k ++ t' ↔ m = k ∧ t = t') := by
    intro w m k t t' hm hk
    constructor
    · intro h
      obtain ⟨hd, ht⟩ := List.append_inj h (by rw [hexDigits_length, hexDigits_length])
      exact ⟨hexDigits_inj hm hk hd, ht⟩
    · rintro ⟨rfl, rfl⟩
      rfl
  have hlast : ∀ {m k : ℕ}, m < 16 ^ 4 → k < 16 ^ 4 → (hexDigits 4 m = hexDigits 4 k ↔ m = k) :=
    fun hm hk => ⟨hexDigits_inj hm hk, congrArg _⟩
  rw [tailText, hbase, List.cons_inj_right, happend f.data1.isLt (by omega), List.cons_inj_right,
    happend f.data2.isLt (by omega), List.cons_inj_right, happend f.data3.isLt (by omega),
    List.cons_inj_right, happend f.data4.isLt (by omega), hlast f.data5.isLt (by omega)]

theorem inBase_tail : InBase f ↔ f.data0.toNat < 2 ^ 16 ∧ tailText f = baseSuffix := by
  rw [InBase, tailText_base]

/-- The numbers of a text in the long form. The first field is read as `data0`. -/
theorem longForm_fields (h : LongForm s) : ∃ f a rest, s = a ++ rest ∧ HexText 8 a ∧
    digitsValue 0 a = some f.data0.toNat ∧ a.map lower = hexDigits 8 f.data0.toNat ∧
    rest.map lower = tailText f ∧ rest.length = 28 ∧ ∀ c ∈ s, (hexValue c).isSome ∨ c = 45 := by
  obtain ⟨a, b, c, d, e, ha, hb, hc, hd, he, rfl⟩ := h
  obtain ⟨na, hna, hav, hal⟩ := hexText_lower ha
  obtain ⟨nb, hnb, _, hbl⟩ := hexText_lower hb
  obtain ⟨nc, hnc, _, hcl⟩ := hexText_lower hc
  obtain ⟨nd, hnd, _, hdl⟩ := hexText_lower hd
  obtain ⟨ne, hne, _, hel⟩ := hexText_lower he
  have htail : hexDigits 12 ne = hexDigits 8 (ne / 16 ^ 4) ++ hexDigits 4 (ne % 16 ^ 4) := by
    rw [hexDigits_mod 4 ne]
    exact hexDigits_add 8 4 ne
  have hhigh : ne / 16 ^ 4 < 16 ^ 8 := by omega
  have hlow : ne % 16 ^ 4 < 16 ^ 4 := by omega
  have hwide : ∀ {m : ℕ}, m < 16 ^ 8 → (BitVec.ofNat 32 m).toNat = m := by
    intro m hm
    rw [BitVec.toNat_ofNat]
    exact Nat.mod_eq_of_lt hm
  have hnarrow : ∀ {m : ℕ}, m < 16 ^ 4 → (BitVec.ofNat 16 m).toNat = m := by
    intro m hm
    rw [BitVec.toNat_ofNat]
    exact Nat.mod_eq_of_lt hm
  have hdash : lower 45 = 45 := by decide
  have hdigit : ∀ {w t}, HexText w t → ∀ x ∈ t, (hexValue x).isSome ∨ x = 45 :=
    fun ht x hx => Or.inl (ht.2 x hx)
  refine ⟨⟨BitVec.ofNat 32 na, BitVec.ofNat 16 nb, BitVec.ofNat 16 nc, BitVec.ofNat 16 nd,
    BitVec.ofNat 32 (ne / 16 ^ 4), BitVec.ofNat 16 (ne % 16 ^ 4)⟩, a, _, rfl, ha, ?_, ?_, ?_, ?_, ?_⟩
  · rwa [hwide hna]
  · rwa [hwide hna]
  · simp only [tailText, hnarrow hnb, hnarrow hnc, hnarrow hnd, hwide hhigh, hnarrow hlow,
      List.map_cons, List.map_append, hdash, hbl, hcl, hdl, hel, htail]
  · simp [hb.1, hc.1, hd.1, he.1]
  · simp only [List.forall_mem_append, List.forall_mem_cons]
    exact ⟨hdigit ha, Or.inr trivial, hdigit hb, Or.inr trivial, hdigit hc, Or.inr trivial, hdigit hd,
      Or.inr trivial, hdigit he⟩

theorem pythonUuidInt_lower (h : ∀ c ∈ s, (hexValue c).isSome ∨ c = 45) :
    pythonUuidInt (s.map lower) = pythonUuidInt s := by
  have hplain : ∀ c, (hexValue c).isSome ∨ c = 45 → c ≠ 117 ∧ c ∉ chars "\x7b\x7d" := by
    have hbrace : chars "\x7b\x7d" = [123, 125] := by decide
    have hlarge : ∀ x ∈ ([117, 123, 125] : List UInt8), 102 < x.toNat := by simp
    intro c hc
    have hle : c.toNat ≤ 102 := by
      rcases hc with hc | rfl
      · exact (digit_range hc).2.1
      · decide
    have hno : ∀ x ∈ ([117, 123, 125] : List UInt8), c ≠ x := by
      intro x hx he
      have hgt := hlarge x hx
      rw [← he] at hgt
      omega
    rw [hbrace]
    simpa using hno
  have hmap : ∀ c ∈ s.map lower, (hexValue c).isSome ∨ c = 45 := by
    have hdash : ∀ c, lower c = 45 ↔ c = 45 := fun c => lower_eq (by decide)
    simpa [hexValue_lower, hdash] using h
  have hfilter : (s.map lower).filter (fun c => c ≠ 45) = (s.filter (fun c => c ≠ 45)).map lower := by
    have hdash : ∀ c, lower c = 45 ↔ c = 45 := fun c => lower_eq (by decide)
    rw [List.filter_map]
    simp [Function.comp_def, hdash]
  rw [pythonUuidInt_plain (fun c hc => hplain c (h c hc)),
    pythonUuidInt_plain (fun c hc => hplain c (hmap c hc)), hfilter, hexNumber, hexNumber, readDigits_lower]
  obtain ⟨count, value, rest⟩ := readDigits 32 0 (s.filter (fun c => c ≠ 45))
  cases rest with
  | nil => rfl
  | cons c rest =>
    dsimp only [List.map_cons]
    split
    · next heq => simp at heq
    · split
      · next heq => simp at heq
      · rfl

/-! Agreement -/

theorem agree_of {key m : ℕ} (hp : gattlibStringToUuid s m = .ok u) (hu : gattlibUuidToInt u = some key) :
    Agree s m ↔ gattlibUuidStrToInt s = some (key : ℤ) := by
  constructor
  · rintro ⟨w, k, hw, hk, hs, _⟩
    obtain rfl : u = w := Except.ok.inj (hp.symm.trans hw)
    obtain rfl : key = k := Option.some.inj (hu.symm.trans hk)
    exact hs
  · intro hs
    exact ⟨u, key, hp, hu, hs, fun uuids hm => discover_finds hm hu⟩

theorem not_wide (h : s.length ≠ 36) : ¬WideBase s := fun hw => h hw.1

theorem agree_four {m : ℕ} (h : HexText 4 s) : Agree s m := by
  obtain ⟨n, _, hn, _⟩ := hexText_lower h
  obtain ⟨x, hp, hx⟩ := parse_four (m := m) h hn
  have hl := h.1
  rw [agree_of hp rfl, gattlibUuidStrToInt, if_pos (by omega), hx]
  exact pythonInt_hex h (by omega) hn

theorem agree_eight {m : ℕ} (h : HexText 8 s) : Agree s m := by
  obtain ⟨n, _, hn, _⟩ := hexText_lower h
  obtain ⟨x, hp, hx⟩ := parse_eight (m := m) h hn
  have hl := h.1
  rw [agree_of hp rfl, gattlibUuidStrToInt, if_pos (by omega), hx]
  exact pythonInt_hex h (by omega) hn

theorem parse_inBase {m : ℕ} (h : s.map lower = longText f) (hb : InBase f) :
    gattlibStringToUuid s m = .ok (.uuid16 (BitVec.ofNat 16 f.data0.toNat)) := by
  have hparse := parse_base (BitVec.ofNat 16 f.data0.toNat) m
  rwa [← ofFields_base hb, fieldsOf_ofFields, ← h, parse_lower] at hparse

theorem parse_outside {m : ℕ} (h : s.map lower = longText f) (hb : ¬InBase f) :
    gattlibStringToUuid s m = .ok (.uuid128 (ofFields f)) := by
  rw [← fieldsOf_ofFields f] at h hb
  rw [← parse_lower, h]
  exact parse_long hb m

/-- The number of the six fields is never that of the first one alone. -/
theorem fieldsInt_wide (h : 2 ^ 16 ≤ f.data0.toNat) : f.data0.toNat ≠ fieldsInt f := by
  rw [fieldsInt]
  omega

theorem zeros_iff (ha : a.length = 8) (hn : n < 2 ^ 32) (hl : a.map lower = hexDigits 8 n) :
    a.take 4 = chars "0000" ↔ n < 2 ^ 16 := by
  have hzero : chars "0000" = hexDigits 4 0 := by decide
  have hlower : (hexDigits 4 0).map lower = hexDigits 4 0 := by decide
  have htake : (a.take 4).map lower = hexDigits 4 (n / 16 ^ 4) := by
    rw [List.map_take, hl]
    exact (congrArg (List.take 4) (hexDigits_add 4 4 n)).trans (List.take_left' (hexDigits_length 4 _))
  constructor
  · intro h
    rw [h, hzero, hlower] at htake
    have hdiv : 0 = n / 16 ^ 4 := hexDigits_inj (by omega) (by omega) htake
    omega
  · intro h
    have hdiv : n / 16 ^ 4 = 0 := by omega
    rw [hdiv, hexDigits_zero] at htake
    rw [hzero, hexDigits_zero, List.eq_replicate_iff]
    refine ⟨by simp [ha], fun c hc => ?_⟩
    have hc48 : lower c = 48 := List.eq_of_mem_replicate (htake ▸ List.mem_map_of_mem hc)
    exact (lower_eq (by decide)).mp hc48

theorem agree_long {m : ℕ} (h : LongForm s) : Agree s m ↔ ¬WideBase s := by
  obtain ⟨f, a, rest, rfl, ha, hvalue, hal, hrest, hlength, hplain⟩ := longForm_fields h
  have hlower : (a ++ rest).map lower = longText f := by
    rw [List.map_append, hal, hrest, longText_tail]
  have hl : (a ++ rest).length = 36 := by rw [List.length_append, ha.1, hlength]
  have hne : a ≠ [] := by
    rintro rfl
    exact absurd ha.1 (by simp)
  have hsearch := search_groups ha.2 hne hlength
  have hwide : WideBase (a ++ rest) ↔ tailText f = baseSuffix ∧ 2 ^ 16 ≤ f.data0.toNat := by
    rw [WideBase, List.drop_left' ha.1, List.take_append_of_le_length (by rw [ha.1]; omega), hrest,
      Ne, zeros_iff ha.1 f.data0.isLt hal, Nat.not_lt]
    simp only [hl, true_and]
  rw [hrest] at hsearch
  by_cases hbase : InBase f
  · obtain ⟨hsmall, htail⟩ := inBase_tail.mp hbase
    have hkey : gattlibUuidToInt (.uuid16 (BitVec.ofNat 16 f.data0.toNat)) = some f.data0.toNat := by
      rw [gattlibUuidToInt, BitVec.toNat_ofNat, Nat.mod_eq_of_lt hsmall]
    rw [agree_of (parse_inBase hlower hbase) hkey, gattlibUuidStrToInt, if_neg (by omega), hsearch,
      hwide]
    simpa [htail, pythonInt_hex ha (by omega) hvalue] using hsmall
  · have hkey : gattlibUuidToInt (.uuid128 (ofFields f)) = some (fieldsInt f) := by
      rw [gattlibUuidToInt, ← fieldsInt_fieldsOf, fieldsOf_ofFields]
    rw [agree_of (parse_outside hlower hbase) hkey, gattlibUuidStrToInt, if_neg (by omega), hsearch,
      hwide]
    by_cases htail : tailText f = baseSuffix
    · have hlarge : 2 ^ 16 ≤ f.data0.toNat := by
        by_contra hs
        exact hbase (inBase_tail.mpr ⟨Nat.not_le.mp hs, htail⟩)
      rw [iff_false_right (not_not.mpr ⟨htail, hlarge⟩)]
      simp [htail, pythonInt_hex ha (by omega) hvalue, fieldsInt_wide hlarge]
    · have hlong := pythonUuidInt_long (ofFields f)
      rw [fieldsOf_ofFields, ← hlower, pythonUuidInt_lower hplain, ← fieldsInt_fieldsOf,
        fieldsOf_ofFields] at hlong
      simp [htail, hlong]

end

/-- The two keys are the same but for a long UUID in the Bluetooth base with a wide first field. -/
theorem keys_agree {s : List UInt8} (h : UuidString s) (m : ℕ) : Agree s m ↔ ¬WideBase s := by
  rcases h with h | h | h
  · have hl := h.1
    exact ⟨fun _ => not_wide (by omega), fun _ => agree_four h⟩
  · have hl := h.1
    exact ⟨fun _ => not_wide (by omega), fun _ => agree_eight h⟩
  · exact agree_long h

theorem hexText_all {w : ℕ} {s : List UInt8}
    (h : (s.length == w && s.all (fun c => (hexValue c).isSome)) = true) : HexText w s := by
  obtain ⟨hlength, hall⟩ := Bool.and_eq_true_iff.mp h
  exact ⟨beq_iff_eq.mp hlength, List.all_eq_true.mp hall⟩

/-- The battery service in the Bluetooth base. -/
theorem keys_agree_battery : Agree (chars "0000180F-0000-1000-8000-00805f9b34FB") 36 := by
  have hform : UuidString (chars "0000180F-0000-1000-8000-00805f9b34FB") :=
    Or.inr (Or.inr ⟨chars "0000180F", chars "0000", chars "1000", chars "8000", chars "00805f9b34FB",
      hexText_all (by decide), hexText_all (by decide), hexText_all (by decide), hexText_all (by decide),
      hexText_all (by decide), by decide⟩)
  exact (keys_agree hform 36).mpr (fun h => h.2.2 (by decide))

/-- Python reads the first field only, and the C parser keeps all sixteen bytes. -/
theorem wide_key_differs :
    gattlibUuidStrToInt (chars "12345678-0000-1000-8000-00805f9b34fb") = some 0x12345678 ∧
      gattlibStringToUuid (chars "12345678-0000-1000-8000-00805f9b34fb") 36 =
        .ok (.uuid128 (ofFields ⟨0x12345678, 0, 0x1000, 0x8000, 0x00805F9B, 0x34FB⟩)) ∧
      gattlibUuidToInt (.uuid128 (ofFields ⟨0x12345678, 0, 0x1000, 0x8000, 0x00805F9B, 0x34FB⟩)) =
        some 0x1234567800001000800000805F9B34FB ∧
      UuidString (chars "12345678-0000-1000-8000-00805f9b34fb") ∧
      ¬Agree (chars "12345678-0000-1000-8000-00805f9b34fb") 36 := by
  have hlower : (chars "12345678-0000-1000-8000-00805f9b34fb").map lower =
      longText ⟨0x12345678, 0, 0x1000, 0x8000, 0x00805F9B, 0x34FB⟩ := by decide
  have hform : LongForm (chars "12345678-0000-1000-8000-00805f9b34fb") :=
    ⟨chars "12345678", chars "0000", chars "1000", chars "8000", chars "00805f9b34fb",
      hexText_all (by decide), hexText_all (by decide), hexText_all (by decide), hexText_all (by decide),
      hexText_all (by decide), by decide⟩
  have hwide : WideBase (chars "12345678-0000-1000-8000-00805f9b34fb") :=
    ⟨by decide, by decide, by decide⟩
  have hbase : ¬InBase ⟨0x12345678, 0, 0x1000, 0x8000, 0x00805F9B, 0x34FB⟩ :=
    fun h => absurd h.1 (by decide)
  refine ⟨by decide, parse_outside hlower hbase, by decide, Or.inr (Or.inr hform), ?_⟩
  exact fun h => (agree_long hform).mp h hwide

end Gattlib.UuidKeys
