import Gattlib.Library.Text
import Gattlib.Uuids

namespace Gattlib.UuidText

open Uuids Library.Text

/-- MAX_LEN_UUID_STR -/
def maxLenUuidStr : ℕ := 37

/-- The six numbers a 128-bit UUID is printed and read as, in host order. -/
structure Fields where
  data0 : BitVec 32
  data1 : BitVec 16
  data2 : BitVec 16
  data3 : BitVec 16
  data4 : BitVec 32
  data5 : BitVec 16
  deriving DecidableEq

/-- `memcpy` of `n` bytes from `i` on, followed by `ntohs` or `ntohl`. -/
def field (w : ℕ) (value : Uint128) (i n : ℕ) : BitVec w :=
  BitVec.ofNat w (bigEndian ((value.data.drop i).take n))

def fieldsOf (value : Uint128) : Fields where
  data0 := field 32 value 0 4
  data1 := field 16 value 4 2
  data2 := field 16 value 6 2
  data3 := field 16 value 8 2
  data4 := field 32 value 10 4
  data5 := field 16 value 14 2

def gattlibUuidToString (uuid : Uuid) (n : ℕ) : Int × List UInt8 :=
  match uuid with
  | .uuid16 value => (0, snprintf n (chars "0x" ++ printHex 4 value.toNat))
  | .uuid32 value => (0, snprintf n (chars "0x" ++ printHex 8 value.toNat))
  | .uuid128 value =>
    let f := fieldsOf value
    (0, snprintf n (printHex 8 f.data0.toNat ++ chars "-" ++ printHex 4 f.data1.toNat ++ chars "-" ++
      printHex 4 f.data2.toNat ++ chars "-" ++ printHex 4 f.data3.toNat ++ chars "-" ++
      printHex 8 f.data4.toNat ++ printHex 4 f.data5.toNat))
  | .other type => (-1, snprintf n (chars "Unsupported type:" ++ chars (toString type.toNat)))

def EINVAL : Int := 22

/-- `is_uuid128` -/
def isUuid128 (string : List UInt8) : Bool :=
  string.length == 36 && string[8]? == some 45 && string[13]? == some 45 &&
    string[18]? == some 45 && string[23]? == some 45

def literal (text : String) : List Directive := (chars text).map .text

/-- "0000%04hx-0000-1000-8000-00805%1[fF]9%1[bB]34%1[fF]%1[bB]" -/
def baseFormat : List Directive :=
  literal "0000" ++ .hex 4 :: (literal "-0000-1000-8000-00805" ++ .oneOf (chars "fF") ::
    (literal "9" ++ .oneOf (chars "bB") :: (literal "34" ++ [.oneOf (chars "fF"), .oneOf (chars "bB")])))

/-- `is_base_uuid128` -/
def isBaseUuid128 (string : List UInt8) : Bool :=
  isUuid128 string && (sscanf baseFormat string).length == 5

/-- `is_uuid32` -/
def isUuid32 (string : List UInt8) : Bool := string.length == 8 || string.length == 10

/-- `is_uuid16` -/
def isUuid16 (string : List UInt8) : Bool := string.length == 4 || string.length == 6

def btStringToUuid16 (string : List UInt8) : Except Int BtUuid :=
  let (u16, endptr) := strtol string
  if endptr.head? = none ∨ endptr.head? = some 45 then .ok (.u16 (BitVec.ofInt 16 u16))
  else .error (-EINVAL)

def btStringToUuid32 (string : List UInt8) : Except Int BtUuid :=
  let (u32, endptr) := strtol string
  if endptr.head? = none then .ok (.u32 (BitVec.ofInt 32 u32)) else .error (-EINVAL)

/-- "%08x-%04hx-%04hx-%04hx-%08x%04hx" -/
def longFormat : List Directive :=
  .hex 8 :: (literal "-" ++ .hex 4 :: (literal "-" ++ .hex 4 :: (literal "-" ++ .hex 4 ::
    (literal "-" ++ [.hex 8, .hex 4]))))

/-- `htonl` and `htons` of the six numbers and the bytes they are copied to. -/
def ofFields (f : Fields) : Uint128 where
  data := [byteOf f.data0 3, byteOf f.data0 2, byteOf f.data0 1, byteOf f.data0 0,
    byteOf f.data1 1, byteOf f.data1 0, byteOf f.data2 1, byteOf f.data2 0,
    byteOf f.data3 1, byteOf f.data3 0, byteOf f.data4 3, byteOf f.data4 2,
    byteOf f.data4 1, byteOf f.data4 0, byteOf f.data5 1, byteOf f.data5 0]
  size := rfl

def btStringToUuid128 (string : List UInt8) : Except Int BtUuid :=
  match sscanf longFormat string with
  | [data0, data1, data2, data3, data4, data5] =>
    .ok (.u128 (ofFields ⟨BitVec.ofInt 32 data0, BitVec.ofInt 16 data1, BitVec.ofInt 16 data2,
      BitVec.ofInt 16 data3, BitVec.ofInt 32 data4, BitVec.ofInt 16 data5⟩))
  | _ => .error (-EINVAL)

def btStringToUuid (string : List UInt8) : Except Int BtUuid :=
  if isBaseUuid128 string then btStringToUuid16 (string.drop 4)
  else if isUuid128 string then btStringToUuid128 string
  else if isUuid32 string then btStringToUuid32 string
  else if isUuid16 string then btStringToUuid16 string
  else .error (-EINVAL)

def sdpUuidUnspec : UInt8 := 0x18

def btUuidToUuid : BtUuid → Uuid
  | .u16 value => .uuid16 value
  | .u32 value => .uuid32 value
  | .u128 value => .uuid128 value
  | .unspec => .other sdpUuidUnspec

/-- `gattlib_string_to_uuid`, which does not look at `n`: `.ok` is the return value 0. -/
def gattlibStringToUuid (str : List UInt8) (_n : ℕ) : Except Int Uuid :=
  (btStringToUuid str).map btUuidToUuid

section

variable {x : BitVec 16} {y : BitVec 32} {v : Uint128} {f : Fields} {n : ℕ}

/-! The six numbers of a UUID -/

theorem byteOf_four (a b c d : UInt8) : ∀ i, i < 4 →
    byteOf (BitVec.ofNat 32 (bigEndian [a, b, c, d])) i = [d, c, b, a].getD i 0 := by
  intro i hi
  have ha := a.toNat_lt
  have hb := b.toNat_lt
  have hc := c.toNat_lt
  have hd := d.toNat_lt
  rw [← UInt8.toNat_inj, byteOf_toNat, BitVec.toNat_ofNat]
  simp only [bigEndian, List.length_cons, List.length_nil]
  obtain rfl | rfl | rfl | rfl : i = 0 ∨ i = 1 ∨ i = 2 ∨ i = 3 := by omega
  all_goals
    simp only [List.getD_cons_zero, List.getD_cons_succ]
    omega

theorem byteOf_two (a b : UInt8) : ∀ i, i < 2 →
    byteOf (BitVec.ofNat 16 (bigEndian [a, b])) i = [b, a].getD i 0 := by
  intro i hi
  have ha := a.toNat_lt
  have hb := b.toNat_lt
  rw [← UInt8.toNat_inj, byteOf_toNat, BitVec.toNat_ofNat]
  simp only [bigEndian, List.length_cons, List.length_nil]
  obtain rfl | rfl : i = 0 ∨ i = 1 := by omega
  all_goals
    simp only [List.getD_cons_zero, List.getD_cons_succ]
    omega

theorem ofFields_fieldsOf (v : Uint128) : ofFields (fieldsOf v) = v := by
  obtain ⟨data, size⟩ := v
  match data, size with
  | [b0, b1, b2, b3, b4, b5, b6, b7, b8, b9, b10, b11, b12, b13, b14, b15], size =>
    simp [ofFields, fieldsOf, field, byteOf_four, byteOf_two]

/-! The printed text -/

/-- The text of the six numbers. -/
def longText (f : Fields) : List UInt8 :=
  hexDigits 8 f.data0.toNat ++ chars "-" ++ hexDigits 4 f.data1.toNat ++ chars "-" ++
    hexDigits 4 f.data2.toNat ++ chars "-" ++ hexDigits 4 f.data3.toNat ++ chars "-" ++
    hexDigits 8 f.data4.toNat ++ hexDigits 4 f.data5.toNat

theorem longText_length (f : Fields) : (longText f).length = 36 := by
  simp only [longText, List.length_append, hexDigits_length]
  rfl

theorem shortText_length (w m : ℕ) : (chars "0x" ++ hexDigits w m).length = 2 + w := by
  rw [List.length_append, hexDigits_length]
  rfl

theorem snprintf_fits {text : List UInt8} (h : text.length < n) : snprintf n text = text :=
  List.take_of_length_le (by omega)

theorem toString_uuid16 (hn : 37 ≤ n) :
    gattlibUuidToString (.uuid16 x) n = (0, chars "0x" ++ hexDigits 4 x.toNat) := by
  have hl := shortText_length 4 x.toNat
  rw [gattlibUuidToString, printHex_digits x.isLt, snprintf_fits (by omega)]

theorem toString_uuid32 (hn : 37 ≤ n) :
    gattlibUuidToString (.uuid32 y) n = (0, chars "0x" ++ hexDigits 8 y.toNat) := by
  have hl := shortText_length 8 y.toNat
  rw [gattlibUuidToString, printHex_digits y.isLt, snprintf_fits (by omega)]

theorem toString_uuid128 (hn : 37 ≤ n) :
    gattlibUuidToString (.uuid128 v) n = (0, longText (fieldsOf v)) := by
  have hl := longText_length (fieldsOf v)
  rw [gattlibUuidToString, printHex_digits (fieldsOf v).data0.isLt, printHex_digits (fieldsOf v).data1.isLt,
    printHex_digits (fieldsOf v).data2.isLt, printHex_digits (fieldsOf v).data3.isLt,
    printHex_digits (fieldsOf v).data4.isLt, printHex_digits (fieldsOf v).data5.isLt]
  have hfits : snprintf n (longText (fieldsOf v)) = longText (fieldsOf v) :=
    snprintf_fits (by omega)
  exact congrArg (Prod.mk 0) hfits

/-! Which of the four forms a printed text is taken for -/

theorem not_long {s : List UInt8} (h : s.length ≠ 36) :
    isUuid128 s = false ∧ isBaseUuid128 s = false := by
  have hlong : isUuid128 s = false := by simp [isUuid128, h]
  exact ⟨hlong, by rw [isBaseUuid128, hlong, Bool.false_and]⟩

theorem parse_short16 {s : List UInt8} (h : s.length = 6) :
    btStringToUuid s = btStringToUuid16 s := by
  obtain ⟨hlong, hbase⟩ := not_long (s := s) (by omega)
  simp [btStringToUuid, hlong, hbase, isUuid32, isUuid16, h]

theorem parse_short32 {s : List UInt8} (h : s.length = 10) :
    btStringToUuid s = btStringToUuid32 s := by
  obtain ⟨hlong, hbase⟩ := not_long (s := s) (by omega)
  simp [btStringToUuid, hlong, hbase, isUuid32, h]

theorem longText_long (f : Fields) : isUuid128 (longText f) = true := by
  have hdash : chars "-" = [45] := by decide
  rw [isUuid128, longText_length]
  simp [longText, hdash, hexDigits_length]

/-- The numbers of 0000xxxx-0000-1000-8000-00805f9b34fb. -/
def InBase (f : Fields) : Prop :=
  f.data0.toNat < 2 ^ 16 ∧ f.data1.toNat = 0 ∧ f.data2.toNat = 0x1000 ∧
    f.data3.toNat = 0x8000 ∧ f.data4.toNat = 0x00805F9B ∧ f.data5.toNat = 0x34FB

theorem baseFormat_digits : baseFormat = (hexDigits 4 0).map .text ++ .hex (2 + 2) ::
    (literal "-" ++ ((hexDigits 4 0).map .text ++ (literal "-" ++ ((hexDigits 4 0x1000).map .text ++
      (literal "-" ++ ((hexDigits 4 0x8000).map .text ++ (literal "-" ++
        ((hexDigits 5 0x805).map .text ++ .oneOf (chars "fF") :: ((hexDigits 1 9).map .text ++
          .oneOf (chars "bB") :: ((hexDigits 2 0x34).map .text ++
            [.oneOf (chars "fF"), .oneOf (chars "bB")])))))))))) := by decide

theorem longText_digits (f : Fields) : longText f = hexDigits 4 (f.data0.toNat / 16 ^ 4) ++
    (hexDigits (2 + 2) (f.data0.toNat % 16 ^ 4) ++ (chars "-" ++ (hexDigits 4 f.data1.toNat ++
      (chars "-" ++ (hexDigits 4 f.data2.toNat ++ (chars "-" ++ (hexDigits 4 f.data3.toNat ++
        (chars "-" ++ (hexDigits 5 (f.data4.toNat / 16 ^ 3) ++
          hexDigit (f.data4.toNat / 16 ^ 2 % 16) :: (hexDigits 1 (f.data4.toNat / 16 % 16) ++
            hexDigit (f.data4.toNat % 16) :: (hexDigits 2 (f.data5.toNat / 16 ^ 2) ++
              hexDigit (f.data5.toNat / 16 % 16) :: [hexDigit (f.data5.toNat % 16)]))))))))))) := by
  have h0 := hexDigits_add 4 4 f.data0.toNat
  have hmod := hexDigits_mod 4 f.data0.toNat
  have h4 : hexDigits 8 f.data4.toNat = hexDigits 5 (f.data4.toNat / 16 ^ 3) ++
      hexDigit (f.data4.toNat / 16 ^ 2 % 16) :: (hexDigits 1 (f.data4.toNat / 16 % 16) ++
        [hexDigit (f.data4.toNat % 16)]) := by
    rw [hexDigits_add 5 3]
    simp [hexDigits, Nat.div_div_eq_div_mul]
  have h5 : hexDigits 4 f.data5.toNat = hexDigits 2 (f.data5.toNat / 16 ^ 2) ++
      hexDigit (f.data5.toNat / 16 % 16) :: [hexDigit (f.data5.toNat % 16)] := by
    rw [hexDigits_add 2 2]
    simp [hexDigits]
  rw [longText, h0, h4, h5, hmod]
  simp only [List.append_assoc, List.cons_append, List.nil_append]

theorem inBase_iff (f : Fields) : (sscanf baseFormat (longText f)).length = 5 ↔ InBase f := by
  have hf : ∀ v < 16, (chars "fF").contains (hexDigit v) = true ↔ v = 15 := by decide
  have hb : ∀ v < 16, (chars "bB").contains (hexDigit v) = true ↔ v = 11 := by decide
  have l0 := f.data0.isLt
  have l4 := f.data4.isLt
  have l5 := f.data5.isLt
  rw [baseFormat_digits, longText_digits, sscanf_field_count (by omega) (by omega),
    sscanf_hex_count (by omega), literal, sscanf_literal,
    sscanf_field_count f.data1.isLt (by omega), sscanf_literal,
    sscanf_field_count f.data2.isLt (by omega), sscanf_literal,
    sscanf_field_count f.data3.isLt (by omega), sscanf_literal,
    sscanf_field_count (by omega) (by omega), sscanf_oneOf_count hf (by omega),
    sscanf_field_count (by omega) (by omega), sscanf_oneOf_count hb (by omega),
    sscanf_field_count (by omega) (by omega), sscanf_oneOf_count hf (by omega),
    sscanf_oneOf_count hb (by omega)]
  rw [InBase, sscanf]
  simp only [List.length_nil, and_true]
  omega

theorem longText_base (f : Fields) : isBaseUuid128 (longText f) = true ↔ InBase f := by
  rw [isBaseUuid128, longText_long, Bool.true_and, beq_iff_eq, inBase_iff]

/-! What the forms read -/

theorem ofInt_toNat {w : ℕ} (x : BitVec w) : BitVec.ofInt w (x.toNat : Int) = x := by
  rw [BitVec.ofInt_natCast, BitVec.ofNat_toNat, BitVec.setWidth_eq]

theorem read_uuid16 (x : BitVec 16) :
    btStringToUuid16 (chars "0x" ++ hexDigits 4 x.toNat) = .ok (.u16 x) := by
  have hx : x.toNat < 16 ^ (1 + 3) := x.isLt
  have hprefix : chars "0x" = [48, 120] := by decide
  have hread := strtol_prefixed hx (by omega)
  rw [btStringToUuid16, hprefix, List.cons_append, List.cons_append, List.nil_append, hread]
  simp

theorem read_uuid32 (y : BitVec 32) :
    btStringToUuid32 (chars "0x" ++ hexDigits 8 y.toNat) = .ok (.u32 y) := by
  have hy : y.toNat < 16 ^ (1 + 7) := y.isLt
  have hprefix : chars "0x" = [48, 120] := by decide
  have hread := strtol_prefixed hy (by omega)
  rw [btStringToUuid32, hprefix, List.cons_append, List.cons_append, List.nil_append, hread]
  simp

theorem read_uuid128 (f : Fields) : btStringToUuid128 (longText f) = .ok (.u128 (ofFields f)) := by
  have h0 : f.data0.toNat < 16 ^ (2 + 6) := f.data0.isLt
  have h1 : f.data1.toNat < 16 ^ (2 + 2) := f.data1.isLt
  have h2 : f.data2.toNat < 16 ^ (2 + 2) := f.data2.isLt
  have h3 : f.data3.toNat < 16 ^ (2 + 2) := f.data3.isLt
  have h4 : f.data4.toNat < 16 ^ (2 + 6) := f.data4.isLt
  have h5 : f.data5.toNat < 16 ^ (2 + 2) := f.data5.isLt
  have hscan : sscanf longFormat (longText f) = [(f.data0.toNat : Int), f.data1.toNat,
      f.data2.toNat, f.data3.toNat, f.data4.toNat, f.data5.toNat] := by
    simp only [longFormat, longText, literal, List.append_assoc]
    rw [sscanf_hex h0, sscanf_literal, sscanf_hex h1, sscanf_literal, sscanf_hex h2,
      sscanf_literal, sscanf_hex h3, sscanf_literal, sscanf_hex h4,
      ← List.append_nil (hexDigits 4 f.data5.toNat), sscanf_hex h5, sscanf]
  rw [btStringToUuid128, hscan]
  simp only [ofInt_toNat]

/-- In the base form the number in front of the first dash is read. -/
theorem read_base (h : f.data0.toNat < 2 ^ 16) :
    btStringToUuid16 ((longText f).drop 4) = .ok (.u16 (BitVec.ofNat 16 f.data0.toNat)) := by
  obtain ⟨rest, htext⟩ : ∃ rest, longText f = hexDigits 4 (f.data0.toNat / 16 ^ 4) ++
      (hexDigits (2 + 2) (f.data0.toNat % 16 ^ 4) ++ 45 :: rest) := by
    rw [longText_digits]
    exact ⟨_, rfl⟩
  have hmod : f.data0.toNat % 16 ^ 4 = f.data0.toNat := Nat.mod_eq_of_lt h
  have hread := strtol_digits (n := f.data0.toNat) (k := 2) (s := 45 :: rest) h (by omega)
    (fun c hc => by cases hc; decide)
  have hdrop : (hexDigits 4 (f.data0.toNat / 16 ^ 4) ++
      (hexDigits (2 + 2) f.data0.toNat ++ 45 :: rest)).drop 4 =
      hexDigits (2 + 2) f.data0.toNat ++ 45 :: rest :=
    List.drop_left' (hexDigits_length 4 _)
  rw [htext, hmod, hdrop, btStringToUuid16, hread]
  simp

/-! The base form -/

theorem ofFields_base (h : InBase f) : ofFields f = inBluetoothBase (BitVec.ofNat 16 f.data0.toNat) := by
  obtain ⟨h0, h1, h2, h3, h4, h5⟩ := h
  have hb3 : f.data0.toNat / 16777216 % 256 = 0 := by omega
  have hb2 : f.data0.toNat / 65536 % 256 = 0 := by omega
  have hmod : f.data0.toNat % 65536 = f.data0.toNat := Nat.mod_eq_of_lt h0
  simp [ofFields, inBluetoothBase, bluetoothBaseUuid, byteOf, h1, h2, h3, h4, h5, hb3, hb2, hmod]

theorem inBase_base (x : BitVec 16) : InBase (fieldsOf (inBluetoothBase x)) ∧
    BitVec.ofNat 16 (fieldsOf (inBluetoothBase x)).data0.toNat = x := by
  have hx := x.isLt
  have hvalue : (fieldsOf (inBluetoothBase x)).data0.toNat = x.toNat := by
    have hbytes : (fieldsOf (inBluetoothBase x)).data0 =
        BitVec.ofNat 32 (bigEndian [0, 0, byteOf x 1, byteOf x 0]) := rfl
    rw [hbytes, BitVec.toNat_ofNat]
    simp only [bigEndian, List.length_cons, List.length_nil, byteOf_toNat, UInt8.toNat_zero]
    omega
  rw [hvalue]
  refine ⟨⟨by omega, rfl, rfl, rfl, rfl, rfl⟩, ?_⟩
  rw [BitVec.ofNat_toNat, BitVec.setWidth_eq]

theorem inBase_uuid : InBase (fieldsOf v) ↔ ∃ x, v = inBluetoothBase x := by
  constructor
  · intro h
    refine ⟨BitVec.ofNat 16 (fieldsOf v).data0.toNat, ?_⟩
    rw [← ofFields_base h, ofFields_fieldsOf]
  · rintro ⟨x, rfl⟩
    exact (inBase_base x).1

theorem denoted_base (x : BitVec 16) : denoted (.uuid128 (inBluetoothBase x)) = denoted (.uuid16 x) := by
  obtain ⟨v, hv, hd⟩ := btExpanded16 .unspec x
  have hbase : btUuidToUuid128 .unspec (.u16 x) = .u128 (inBluetoothBase x) := rfl
  rw [hbase, BtUuid.u128.injEq] at hv
  rw [hv]
  exact hd

theorem parse_base (x : BitVec 16) (m : ℕ) :
    gattlibStringToUuid (longText (fieldsOf (inBluetoothBase x))) m = .ok (.uuid16 x) := by
  obtain ⟨hin, hvalue⟩ := inBase_base x
  rw [gattlibStringToUuid, btStringToUuid, if_pos ((longText_base _).mpr hin), read_base hin.1, hvalue]
  rfl

theorem parse_long (h : ¬InBase (fieldsOf v)) (m : ℕ) :
    gattlibStringToUuid (longText (fieldsOf v)) m = .ok (.uuid128 v) := by
  have hbase : ¬isBaseUuid128 (longText (fieldsOf v)) = true := fun hb => h ((longText_base _).mp hb)
  rw [gattlibStringToUuid, btStringToUuid, if_neg hbase, if_pos (longText_long _), read_uuid128,
    ofFields_fieldsOf]
  rfl

end

/-- What is printed is read back, except that a 128-bit UUID in the Bluetooth base comes back short. -/
theorem uuid_text_round_trip {u : Uuid} {n : ℕ} (hu : Known u) (hn : 37 ≤ n) (m : ℕ) :
    (gattlibUuidToString u n).1 = 0 ∧
      ∃ r, gattlibStringToUuid (gattlibUuidToString u n).2 m = .ok r ∧
        (∀ x, u = .uuid128 (inBluetoothBase x) → r = .uuid16 x) ∧
        ((∀ x, u ≠ .uuid128 (inBluetoothBase x)) → r = u) ∧ denoted r = denoted u := by
  cases u with
  | uuid16 x =>
    rw [toString_uuid16 hn]
    refine ⟨rfl, .uuid16 x, ?_, fun _ h => (by cases h), fun _ => rfl, rfl⟩
    rw [gattlibStringToUuid, parse_short16 (shortText_length 4 x.toNat), read_uuid16]
    rfl
  | uuid32 y =>
    rw [toString_uuid32 hn]
    refine ⟨rfl, .uuid32 y, ?_, fun _ h => (by cases h), fun _ => rfl, rfl⟩
    rw [gattlibStringToUuid, parse_short32 (shortText_length 8 y.toNat), read_uuid32]
    rfl
  | uuid128 v =>
    rw [toString_uuid128 hn]
    by_cases h : InBase (fieldsOf v)
    · obtain ⟨x, rfl⟩ := inBase_uuid.mp h
      refine ⟨rfl, .uuid16 x, parse_base x m, ?_, fun hne => absurd rfl (hne x), (denoted_base x).symm⟩
      intro z hz
      have hparse := parse_base z m
      rw [← Uuid.uuid128.inj hz, parse_base x m] at hparse
      exact Except.ok.inj hparse
    · refine ⟨rfl, .uuid128 v, parse_long h m, ?_, fun _ => rfl, rfl⟩
      intro z hz
      exact absurd (inBase_uuid.mpr ⟨z, Uuid.uuid128.inj hz⟩) h
  | other t => exact hu.elim

/-- The battery level in the Bluetooth base. -/
theorem uuid_text_round_trip_battery :
    ∃ r, gattlibStringToUuid (gattlibUuidToString (.uuid128 (inBluetoothBase 0x2A19)) 37).2 37 = .ok r ∧
      r = .uuid16 0x2A19 := by
  obtain ⟨_, r, hr, hbase, _⟩ :=
    uuid_text_round_trip (u := .uuid128 (inBluetoothBase 0x2A19)) (n := 37) trivial (by decide) 37
  exact ⟨r, hr, hbase _ rfl⟩

end Gattlib.UuidText
