import Mathlib.Data.Nat.Notation
import Mathlib.Tactic.NormNum

namespace Gattlib.Uuids

/-- `uint128_t` -/
structure Uint128 where
  data : List UInt8
  size : data.length = 16
  deriving DecidableEq

/-- `uuid_t`, with the member of the union that its type selects. -/
inductive Uuid
  | uuid16 (value : BitVec 16)
  | uuid32 (value : BitVec 32)
  | uuid128 (value : Uint128)
  | other (type : UInt8)
  deriving DecidableEq

def sdpUuid16 : UInt8 := 0x19
def sdpUuid32 : UInt8 := 0x1A
def sdpUuid128 : UInt8 := 0x1C

def typeOf : Uuid → UInt8
  | .uuid16 _ => sdpUuid16
  | .uuid32 _ => sdpUuid32
  | .uuid128 _ => sdpUuid128
  | .other type => type

/-- The type is one of the three kinds of UUID. -/
def Known : Uuid → Prop
  | .uuid16 _ | .uuid32 _ | .uuid128 _ => True
  | .other _ => False

/-- `(x >> (8 * i)) & 0xFF` -/
def byteOf {n : Nat} (x : BitVec n) (i : Nat) : UInt8 := UInt8.ofNat (x.toNat / 256 ^ i % 256)

/-- The sixteen bytes `gattlib_uuid_to_uuid128` starts from. -/
def gattlibBase : List UInt8 :=
  [0xEF, 0x68, 0x00, 0x00, 0x9B, 0x35, 0x49, 0x33, 0x9B, 0x10, 0x52, 0xFF, 0xA9, 0x74, 0x00, 0x42]

def gattlibUuidToUuid128 : Uuid → Uint128
  | .uuid128 value => value
  | .uuid32 value =>
    { data := (((gattlibBase.set 0 (byteOf value 3)).set 1 (byteOf value 2)).set 2
        (byteOf value 1)).set 3 (byteOf value 0)
      size := by simp [gattlibBase] }
  | .uuid16 value =>
    { data := (gattlibBase.set 2 (byteOf value 1)).set 3 (byteOf value 0)
      size := by simp [gattlibBase] }
  | .other _ => ⟨gattlibBase, rfl⟩

/-- `m_battery_level_uuid` -/
def mBatteryLevelUuid : Uuid := .uuid16 0x2A19

def gattlibUuidCmp (uuid1 uuid2 : Uuid) : BitVec 32 :=
  if typeOf uuid1 ≠ typeOf uuid2 then
    if (gattlibUuidToUuid128 uuid1).data = (gattlibUuidToUuid128 uuid2).data then 0 else 2
  else
    match uuid1, uuid2 with
    | .uuid16 value1, .uuid16 value2 => if value1 = value2 then 0 else 2
    | .uuid32 value1, .uuid32 value2 => if value1 = value2 then 0 else 2
    | .uuid128 value1, .uuid128 value2 => if value1.data = value2.data then 0 else 2
    | _, _ => 3

/-- `bt_uuid_t` -/
inductive BtUuid
  | unspec
  | u16 (value : BitVec 16)
  | u32 (value : BitVec 32)
  | u128 (value : Uint128)
  deriving DecidableEq

def bluetoothBaseUuid : List UInt8 :=
  [0x00, 0x00, 0x00, 0x00, 0x00, 0x00, 0x10, 0x00, 0x80, 0x00, 0x00, 0x80, 0x5F, 0x9B, 0x34, 0xFB]

/-- The bundled expansion. An unspecified UUID leaves the destination as it is. -/
def btUuidToUuid128 (dst : BtUuid) : BtUuid → BtUuid
  | .u128 value => .u128 value
  | .u32 value => .u128
    { data := (((bluetoothBaseUuid.set 0 (byteOf value 3)).set 1 (byteOf value 2)).set 2
        (byteOf value 1)).set 3 (byteOf value 0)
      size := by simp [bluetoothBaseUuid] }
  | .u16 value => .u128
    { data := (bluetoothBaseUuid.set 2 (byteOf value 1)).set 3 (byteOf value 0)
      size := by simp [bluetoothBaseUuid] }
  | .unspec => dst

/-- The number sixteen bytes stand for, the first one leading. -/
def bigEndian : List UInt8 → ℕ
  | [] => 0
  | b :: bs => b.toNat * 256 ^ bs.length + bigEndian bs

/-- 00000000-0000-1000-8000-00805F9B34FB -/
def bluetoothBase : ℕ := 0x1000800000805F9B34FB

/-- The 128-bit UUID that a UUID denotes: a short one is placed in the Bluetooth base. It is the one that
`gattlib_uuid_to_uuid` of the Python package makes. -/
def denoted : Uuid → Option ℕ
  | .uuid16 value => some (bluetoothBase + 2 ^ 96 * value.toNat)
  | .uuid32 value => some (bluetoothBase + 2 ^ 96 * value.toNat)
  | .uuid128 value => some (bigEndian value.data)
  | .other _ => none

/-- EF680000-9B35-4933-9B10-52FFA9740042 without its first field. -/
def thingyBase : ℕ := 0x9B3549339B1052FFA9740042

/-- The short UUID is expanded neither to the number by the Bluetooth base nor by
the base that the comparison uses, whose first field `first` the value is put into. -/
def Apart (value first number : ℕ) : Prop :=
  number ≠ bluetoothBase + 2 ^ 96 * value ∧ number ≠ thingyBase + 2 ^ 96 * (first + value)

/-- Two UUIDs of different types of which neither is an expansion of the other. -/
def Comparable : Uuid → Uuid → Prop
  | .uuid16 v, .uuid32 w | .uuid32 w, .uuid16 v =>
      w.toNat ≠ v.toNat ∧ w.toNat ≠ 0xEF680000 + v.toNat
  | .uuid16 v, .uuid128 w | .uuid128 w, .uuid16 v =>
      Apart v.toNat 0xEF680000 (bigEndian w.data)
  | .uuid32 v, .uuid128 w | .uuid128 w, .uuid32 v => Apart v.toNat 0 (bigEndian w.data)
  | _, _ => True

section

variable {a b : List UInt8}

theorem bigEndian_lt (a : List UInt8) : bigEndian a < 256 ^ a.length := by
  induction a with
  | nil => exact Nat.one_pos
  | cons b bs ih =>
    have hb : b.toNat < 256 := b.toNat_lt
    have hstep : (b.toNat + 1) * 256 ^ bs.length ≤ 256 * 256 ^ bs.length :=
      Nat.mul_le_mul_right _ hb
    rw [bigEndian, List.length_cons, Nat.pow_succ, Nat.mul_comm (256 ^ bs.length)]
    rw [Nat.add_mul, Nat.one_mul] at hstep
    omega

theorem bigEndian_inj (hl : a.length = b.length) (h : bigEndian a = bigEndian b) : a = b := by
  induction a generalizing b with
  | nil => exact (List.length_eq_zero_iff.mp hl.symm).symm
  | cons x xs ih =>
    cases b with
    | nil => cases hl
    | cons y ys =>
      have hlen : xs.length = ys.length := Nat.succ.inj hl
      have hx := bigEndian_lt xs
      have hy := bigEndian_lt ys
      rw [bigEndian, bigEndian, hlen] at h
      rw [hlen] at hx
      have hpos : 0 < 256 ^ ys.length := Nat.pow_pos (by omega)
      have hdiv := congrArg (· / 256 ^ ys.length) h
      simp only [Nat.mul_comm _ (256 ^ ys.length), Nat.mul_add_div hpos, Nat.div_eq_of_lt hx,
        Nat.div_eq_of_lt hy, Nat.add_zero] at hdiv
      have hxy : x = y := UInt8.toNat_inj.mp hdiv
      subst hxy
      rw [ih hlen (by omega)]

theorem uint128_inj {v w : Uint128} : v.data = w.data ↔ bigEndian v.data = bigEndian w.data :=
  ⟨fun h => by rw [h], fun h => bigEndian_inj (v.size.trans w.size.symm) h⟩

theorem byteOf_toNat {n : ℕ} (x : BitVec n) (i : ℕ) :
    (byteOf x i).toNat = x.toNat / 256 ^ i % 256 := by
  rw [byteOf, UInt8.toNat_ofNat']
  omega

/-- The number of a 32-bit value in front of twelve further bytes. -/
theorem bigEndian_value32 (x : BitVec 32) (bs : List UInt8) (h : bs.length = 12) :
    bigEndian (byteOf x 3 :: byteOf x 2 :: byteOf x 1 :: byteOf x 0 :: bs) =
      bigEndian bs + 2 ^ 96 * x.toNat := by
  have hx : x.toNat < 2 ^ 32 := x.isLt
  simp only [bigEndian, List.length_cons, h, byteOf_toNat]
  omega

theorem bigEndian_value16 (x : BitVec 16) (c d : UInt8) (bs : List UInt8) (h : bs.length = 12) :
    bigEndian (c :: d :: byteOf x 1 :: byteOf x 0 :: bs) =
      bigEndian bs + 2 ^ 96 * (c.toNat * 2 ^ 24 + d.toNat * 2 ^ 16 + x.toNat) := by
  have hx : x.toNat < 2 ^ 16 := x.isLt
  simp only [bigEndian, List.length_cons, h, byteOf_toNat]
  omega

/-! The numbers of the expansions -/

theorem expanded32 (x : BitVec 32) :
    bigEndian (gattlibUuidToUuid128 (.uuid32 x)).data = thingyBase + 2 ^ 96 * (0 + x.toNat) := by
  have h := bigEndian_value32 x (gattlibBase.drop 4) rfl
  have hbase : bigEndian (gattlibBase.drop 4) = thingyBase := by decide
  rw [hbase] at h
  rw [Nat.zero_add]
  exact h

theorem expanded16 (x : BitVec 16) :
    bigEndian (gattlibUuidToUuid128 (.uuid16 x)).data =
      thingyBase + 2 ^ 96 * (0xEF680000 + x.toNat) := by
  have h := bigEndian_value16 x 0xEF 0x68 (gattlibBase.drop 4) rfl
  have hbase : bigEndian (gattlibBase.drop 4) = thingyBase := by decide
  rw [hbase] at h
  exact h

/-- The bundled expansion denotes what the short UUID does. -/
theorem btExpanded32 (dst : BtUuid) (x : BitVec 32) : ∃ v, btUuidToUuid128 dst (.u32 x) = .u128 v ∧
    some (bigEndian v.data) = denoted (.uuid32 x) := by
  have h := bigEndian_value32 x (bluetoothBaseUuid.drop 4) rfl
  have hbase : bigEndian (bluetoothBaseUuid.drop 4) = bluetoothBase := by decide
  rw [hbase] at h
  exact ⟨_, rfl, congrArg some h⟩

theorem btExpanded16 (dst : BtUuid) (x : BitVec 16) : ∃ v, btUuidToUuid128 dst (.u16 x) = .u128 v ∧
    some (bigEndian v.data) = denoted (.uuid16 x) := by
  have h := bigEndian_value16 x 0 0 (bluetoothBaseUuid.drop 4) rfl
  have hbase : bigEndian (bluetoothBaseUuid.drop 4) = bluetoothBase := by decide
  have hzero : (0 : UInt8).toNat * 2 ^ 24 + (0 : UInt8).toNat * 2 ^ 16 + x.toNat = x.toNat := by
    simp
  rw [hbase, hzero] at h
  exact ⟨_, rfl, congrArg some h⟩

/-! The comparison -/

theorem cmp_expanded {u v : Uuid} (h : typeOf u ≠ typeOf v) :
    gattlibUuidCmp u v = 0 ↔
      bigEndian (gattlibUuidToUuid128 u).data = bigEndian (gattlibUuidToUuid128 v).data := by
  unfold gattlibUuidCmp
  rw [← uint128_inj, if_pos h]
  split
  · next he => exact ⟨fun _ => he, fun _ => rfl⟩
  · next he => exact ⟨fun hc => absurd hc (by decide), fun hc => absurd hc he⟩

/-- Between a short value and a number, the comparison goes wrong exactly at the
two expansions. -/
theorem apart_iff {value first number : ℕ} :
    (thingyBase + 2 ^ 96 * (first + value) = number ↔
      some (bluetoothBase + 2 ^ 96 * value) = some number) ↔ Apart value first number := by
  rw [Apart, Option.some.injEq, thingyBase, bluetoothBase]
  omega

theorem types_16_32 (x : BitVec 16) (y : BitVec 32) : typeOf (.uuid16 x) ≠ typeOf (.uuid32 y) := by
  simp [typeOf, sdpUuid16, sdpUuid32]

theorem types_16_128 (x : BitVec 16) (v : Uint128) : typeOf (.uuid16 x) ≠ typeOf (.uuid128 v) := by
  simp [typeOf, sdpUuid16, sdpUuid128]

theorem types_32_128 (x : BitVec 32) (v : Uint128) : typeOf (.uuid32 x) ≠ typeOf (.uuid128 v) := by
  simp [typeOf, sdpUuid32, sdpUuid128]

/-- The comparison of two UUIDs agrees with the ones they denote. -/
def Agrees (u v : Uuid) : Prop := gattlibUuidCmp u v = 0 ↔ denoted u = denoted v

theorem agrees_symm {u v : Uuid} (h : typeOf u ≠ typeOf v) : Agrees u v ↔ Agrees v u := by
  unfold Agrees
  rw [cmp_expanded h, cmp_expanded h.symm, eq_comm, eq_comm (a := denoted u)]

theorem agrees_short (x : BitVec 16) (y : BitVec 32) :
    Agrees (.uuid16 x) (.uuid32 y) ↔ Comparable (.uuid16 x) (.uuid32 y) := by
  have hx : x.toNat < 2 ^ 16 := x.isLt
  rw [Agrees, cmp_expanded (types_16_32 x y), expanded16, expanded32, denoted, denoted,
    Option.some.injEq, Comparable]
  omega

theorem agrees_long16 (x : BitVec 16) (v : Uint128) :
    Agrees (.uuid16 x) (.uuid128 v) ↔ Comparable (.uuid16 x) (.uuid128 v) := by
  rw [Agrees, cmp_expanded (types_16_128 x v), expanded16]
  exact apart_iff

theorem agrees_long32 (x : BitVec 32) (v : Uint128) :
    Agrees (.uuid32 x) (.uuid128 v) ↔ Comparable (.uuid32 x) (.uuid128 v) := by
  rw [Agrees, cmp_expanded (types_32_128 x v), expanded32]
  exact apart_iff

theorem cmp_same {p : Prop} [Decidable p] : (if p then (0 : BitVec 32) else 2) = 0 ↔ p := by
  by_cases h : p
  · simp [h]
  · simp [h]

theorem agrees_same16 (x y : BitVec 16) : Agrees (.uuid16 x) (.uuid16 y) := by
  have hcmp : gattlibUuidCmp (.uuid16 x) (.uuid16 y) = if x = y then 0 else 2 := rfl
  rw [Agrees, hcmp, cmp_same, denoted, denoted, Option.some.injEq, ← BitVec.toNat_inj]
  omega

theorem agrees_same32 (x y : BitVec 32) : Agrees (.uuid32 x) (.uuid32 y) := by
  have hcmp : gattlibUuidCmp (.uuid32 x) (.uuid32 y) = if x = y then 0 else 2 := rfl
  rw [Agrees, hcmp, cmp_same, denoted, denoted, Option.some.injEq, ← BitVec.toNat_inj]
  omega

theorem agrees_same128 (v w : Uint128) : Agrees (.uuid128 v) (.uuid128 w) := by
  have hcmp : gattlibUuidCmp (.uuid128 v) (.uuid128 w) = if v.data = w.data then 0 else 2 := rfl
  rw [Agrees, hcmp, cmp_same, denoted, denoted, Option.some.injEq]
  exact uint128_inj

end

/-- The comparison follows the Bluetooth base UUID except at the expansions of a
short UUID by the one base or the other. -/
theorem cmp_follows_base {u v : Uuid} (hu : Known u) (hv : Known v) :
    (gattlibUuidCmp u v = 0 ↔ denoted u = denoted v) ↔ Comparable u v := by
  cases u with
  | uuid16 x =>
    cases v with
    | uuid16 y => exact iff_of_true (agrees_same16 x y) trivial
    | uuid32 y => exact agrees_short x y
    | uuid128 w => exact agrees_long16 x w
    | other t => exact hv.elim
  | uuid32 x =>
    cases v with
    | uuid16 y => exact (agrees_symm (types_16_32 y x).symm).trans (agrees_short y x)
    | uuid32 y => exact iff_of_true (agrees_same32 x y) trivial
    | uuid128 w => exact agrees_long32 x w
    | other t => exact hv.elim
  | uuid128 x =>
    cases v with
    | uuid16 y => exact (agrees_symm (types_16_128 y x).symm).trans (agrees_long16 y x)
    | uuid32 y => exact (agrees_symm (types_32_128 y x).symm).trans (agrees_long32 y x)
    | uuid128 w => exact iff_of_true (agrees_same128 x w) trivial
    | other t => exact hv.elim
  | other t => exact hu.elim

/-- The 128-bit UUID of a value in the Bluetooth base. -/
def inBluetoothBase (value : BitVec 16) : Uint128 where
  data := (bluetoothBaseUuid.set 2 (byteOf value 1)).set 3 (byteOf value 0)
  size := by simp [bluetoothBaseUuid]

/-- The battery level, as a 16-bit UUID and in the Bluetooth base. -/
theorem cmp_misses_base : ¬∀ u v : Uuid, Known u → Known v →
    (gattlibUuidCmp u v = 0 ↔ denoted u = denoted v) := by
  intro h
  have hcmp := h (.uuid16 0x2A19) (.uuid128 (inBluetoothBase 0x2A19)) trivial trivial
  exact absurd (hcmp.mpr (by decide)) (by decide)

theorem cmp_follows_base_battery :
    gattlibUuidCmp (.uuid16 0x2A19) (.uuid32 0x2A18) = 0 ↔
      denoted (.uuid16 0x2A19) = denoted (.uuid32 0x2A18) :=
  (cmp_follows_base (u := .uuid16 0x2A19) (v := .uuid32 0x2A18) trivial trivial).mpr
    ⟨by decide, by decide⟩

end Gattlib.Uuids
