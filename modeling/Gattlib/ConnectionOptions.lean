import Gattlib.Library.Bits
import Mathlib.Algebra.Group.Int.Defs

namespace Gattlib.ConnectionOptions

open Library.Bits

/-- `unsigned long` -/
abbrev Options := BitVec 64

def legacyBtSecLow : Options := 1#64 <<< 2
def legacyBtSecMedium : Options := 1#64 <<< 3
def legacyBtSecHigh : Options := 1#64 <<< 4

/-- `((value) & 0x3FF) << 11`, for an integer of whatever type -/
def legacyPsm (value : ℤ) : Options := (BitVec.ofInt 64 value &&& 0x3FF) <<< 11

/-- `((value) & 0x3FF) << 21` -/
def legacyMtu (value : ℤ) : Options := (BitVec.ofInt 64 value &&& 0x3FF) <<< 21

/-- `a && b` of C, where zero is false -/
def logicalAnd (a b : Options) : ℤ := if a ≠ 0#64 ∧ b ≠ 0#64 then 1 else 0

/-- `((options) >> 11) && 0x3FF` -/
def legacyGetPsm (options : Options) : ℤ := logicalAnd (options >>> 11) 0x3FF

/-- `((options) >> 21) && 0x3FF` -/
def legacyGetMtu (options : Options) : ℤ := logicalAnd (options >>> 21) 0x3FF

/-- `BtIOSecLevel` -/
inductive BtIOSecLevel
  | sdp | low | medium | high
  deriving DecidableEq

/-- What `get_connection_options` stores through its pointers. -/
structure Decoded where
  btIoSecLevel : BtIOSecLevel
  psm : ℤ
  mtu : ℤ
  deriving DecidableEq

def getConnectionOptions (options : Options) : Decoded where
  btIoSecLevel :=
    if options &&& legacyBtSecLow ≠ 0 then .low
    else if options &&& legacyBtSecMedium ≠ 0 then .medium
    else if options &&& legacyBtSecHigh ≠ 0 then .high
    else .sdp
  psm := legacyGetPsm options
  mtu := legacyGetMtu options

/-- The options of a call, with a set of the five flags. -/
def encode (flags : BitVec 5) (psm mtu : ℤ) : Options :=
  flags.setWidth 64 ||| legacyPsm psm ||| legacyMtu mtu

/-- The security level of a set of flags: the lowest one that is asked for. -/
def secLevelOf (flags : BitVec 5) : BtIOSecLevel :=
  if flags.getLsbD 2 then .low
  else if flags.getLsbD 3 then .medium
  else if flags.getLsbD 4 then .high
  else .sdp

/-- What has been encoded is what is decoded and handed to the Bluetooth layer. -/
structure Decodes (flags : BitVec 5) (p m : ℤ) : Prop where
  psm : legacyGetPsm (encode flags p m) = p % 1024
  mtu : legacyGetMtu (encode flags p m) = m % 1024
  flag : ∀ i < 5, (encode flags p m).getLsbD i = flags.getLsbD i
  handed : getConnectionOptions (encode flags p m) = ⟨secLevelOf flags, p % 1024, m % 1024⟩

section

variable {flags : BitVec 5} {psm mtu : ℤ} {options : Options}

theorem masked_toNat (value : ℤ) :
    ((BitVec.ofInt 64 value &&& 0x3FF).toNat : ℤ) = value % 1024 := by
  have hmask : (0x3FF : BitVec 64).toNat = 2 ^ 10 - 1 := rfl
  rw [BitVec.toNat_and, hmask, Nat.and_two_pow_sub_one_eq_mod, BitVec.toNat_ofInt]
  omega

theorem masked_lt (value : ℤ) : (BitVec.ofInt 64 value &&& 0x3FF).toNat < 2 ^ 10 := by
  have h := masked_toNat value
  omega

theorem flags_lt (flags : BitVec 5) : (flags.setWidth 64).toNat < 2 ^ 11 := by
  have h := flags.isLt
  rw [BitVec.toNat_setWidth]
  omega

/-- The three fields of a word. -/
theorem encode_toNat (flags : BitVec 5) (psm mtu : ℤ) : ((encode flags psm mtu).toNat : ℤ) =
    flags.toNat + psm % 1024 * 2 ^ 11 + mtu % 1024 * 2 ^ 21 := by
  have hflags := flags_lt flags
  have hpsm := masked_lt psm
  have hmtu := masked_lt mtu
  have hlow := pack_lt hflags hpsm (by omega)
  have hwidth : (flags.setWidth 64).toNat = flags.toNat :=
    BitVec.toNat_setWidth_of_le (by omega)
  rw [encode, legacyPsm, legacyMtu, pack_toNat hlow (by omega), pack_toNat hflags (by omega),
    hwidth, ← masked_toNat psm, ← masked_toNat mtu]
  omega

/-- The flags are below both fields. -/
theorem encode_flags {i : ℕ} (hi : i < 5) :
    (encode flags psm mtu).getLsbD i = flags.getLsbD i := by
  rw [encode, legacyPsm, legacyMtu, pack_getLsbD (by omega), pack_getLsbD (by omega),
    BitVec.getLsbD_setWidth]
  simp [Nat.lt_trans hi (by decide : 5 < 64)]

/-- The security level is decoded from every word. -/
theorem secLevel_decoded :
    (getConnectionOptions (encode flags psm mtu)).btIoSecLevel = secLevelOf flags := by
  simp only [getConnectionOptions, secLevelOf, legacyBtSecLow, legacyBtSecMedium, legacyBtSecHigh,
    flag_set, encode_flags (by decide : 2 < 5), encode_flags (by decide : 3 < 5),
    encode_flags (by decide : 4 < 5)]

/-- What is decoded says only whether any bit is set from the field on. -/
theorem getPsm_eq : legacyGetPsm (encode flags psm mtu) =
    if psm % 1024 = 0 ∧ mtu % 1024 = 0 then 0 else 1 := by
  have h := encode_toNat flags psm mtu
  have hf := flags.isLt
  have hzero : encode flags psm mtu >>> 11 ≠ 0#64 ↔ ¬(psm % 1024 = 0 ∧ mtu % 1024 = 0) := by
    rw [ne_eq, shifted_zero]
    omega
  have hmask : (0x3FF : Options) ≠ 0#64 := by decide
  simp only [legacyGetPsm, logicalAnd, hzero, hmask, ne_eq, not_false_eq_true, and_true, ite_not]

theorem getMtu_eq :
    legacyGetMtu (encode flags psm mtu) = if mtu % 1024 = 0 then 0 else 1 := by
  have h := encode_toNat flags psm mtu
  have hf := flags.isLt
  have hzero : encode flags psm mtu >>> 21 ≠ 0#64 ↔ ¬mtu % 1024 = 0 := by
    rw [ne_eq, shifted_zero]
    omega
  have hmask : (0x3FF : Options) ≠ 0#64 := by decide
  simp only [legacyGetMtu, logicalAnd, hzero, hmask, ne_eq, not_false_eq_true, and_true, ite_not]

end

/-- The fields are decoded when the one that is not zero, or both, are one. -/
theorem decodes_iff (flags : BitVec 5) (psm mtu : ℤ) : Decodes flags psm mtu ↔
    psm % 1024 ≤ 1 ∧ mtu % 1024 = 0 ∨ psm % 1024 = 1 ∧ mtu % 1024 = 1 := by
  constructor
  · intro h
    have hpsm := h.psm
    have hmtu := h.mtu
    rw [getPsm_eq] at hpsm
    rw [getMtu_eq] at hmtu
    split at hpsm
    · split at hmtu <;> omega
    · split at hmtu <;> omega
  · intro h
    have hpsm : legacyGetPsm (encode flags psm mtu) = psm % 1024 := by
      rw [getPsm_eq]
      split <;> omega
    have hmtu : legacyGetMtu (encode flags psm mtu) = mtu % 1024 := by
      rw [getMtu_eq]
      split <;> omega
    refine ⟨hpsm, hmtu, fun i hi => encode_flags hi, ?_⟩
    have hlevel := @secLevel_decoded flags psm mtu
    rw [← hpsm, ← hmtu, ← hlevel]
    rfl

/-- The PSM of ATT over BR/EDR. -/
theorem psm_lost : ¬∀ (flags : BitVec 5) (psm mtu : ℤ), Decodes flags psm mtu := by
  intro h
  have hpsm := (h 1 31 0).psm
  revert hpsm
  decide

end Gattlib.ConnectionOptions
