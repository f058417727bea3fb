import Gattlib.Library.Bits
import Gattlib.State
import Mathlib.Data.Int.Bitwise

namespace Gattlib.DbusErrors

open Library.Bits Gattlib.State

/-- What `handle_return` raises. -/
inductive PyException
  | invalidParameter | notFound | outOfMemory | timeoutError | notSupported | deviceError
  | notConnected | noAdapter | busy | unexpected | adapterClose | disconnected
  | dbusError (domain code : ℤ)
  | valueError
  | runtimeError (ret : ℤ)
  deriving DecidableEq

/-- The codes that `handle_return` looks for first, in its order. -/
def plainErrors : List (ℤ × PyException) :=
  [(1, .invalidParameter), (2, .notFound), (4, .outOfMemory), (3, .timeoutError),
    (5, .notSupported), (6, .deviceError), (7, .notConnected), (8, .noAdapter), (9, .busy),
    (10, .unexpected), (11, .adapterClose), (12, .disconnected)]

/-- `ret & GATTLIB_ERROR_MODULE_MASK` -/
def moduleOf (ret : ℤ) : ℤ := Int.land ret 0xF0000000

/-- `(ret >> 8) & 0xFFF` -/
def domainOf (ret : ℤ) : ℤ := Int.land (Int.shiftRight ret 8) 0xFFF

/-- `ret & 0xFFFF` -/
def codeOf (ret : ℤ) : ℤ := Int.land ret 0xFFFF

/-- `handle_return`, on the `int` that ctypes makes of the return value: the exception that it
raises, if any. -/
def handleReturn (ret : ℤ) : Option PyException :=
  match plainErrors.lookup ret with
  | some exception => some exception
  | none =>
    if moduleOf ret = 0x10000000 then some (.dbusError (domainOf ret) (codeOf ret))
    else if ret = -22 then some .valueError
    else if ret ≠ 0 then some (.runtimeError ret)
    else none

/-- GATTLIB_SUCCESS and the twelve plain errors -/
def plainCodes : List ℤ := 0 :: plainErrors.map Prod.fst

/-- The value of an error is a D-Bus error of its own, and comes out with its domain and code. -/
structure Survives (e : GError) : Prop where
  nonzero : gattlibErrorDbusWithError e ≠ gattlibSuccess
  plain : (gattlibErrorDbusWithError e).toInt ∉ plainCodes
  raised : handleReturn (gattlibErrorDbusWithError e).toInt =
    some (.dbusError e.domain.toNat e.code.toInt)

section

variable {e : GError} {ret : ℤ} {n : ℕ} {domain code : ℤ}

theorem lookup_plain (h : ret ∉ plainCodes) : plainErrors.lookup ret = none := by
  rw [List.lookup_eq_none_iff]
  intro p hp
  have hmem : p.1 ∈ plainCodes := List.mem_cons_of_mem _ (List.mem_map_of_mem hp)
  rw [bne_iff_ne]
  rintro rfl
  exact h hmem

theorem plainCodes_small : ∀ code ∈ plainCodes, 0 ≤ code ∧ code ≤ 12 := by decide

/-- Bit 28 is set, so the value is none of the small codes. -/
theorem dbusError_plain (e : GError) : (gattlibErrorDbusWithError e).toInt ∉ plainCodes := by
  intro h
  have hsmall := plainCodes_small _ h
  have hbit : (gattlibErrorDbusWithError e).getLsbD 28 = true := by
    simp [gattlibErrorDbusWithError, gattlibErrorDbus]
  have hlarge : 2 ^ 28 ≤ (gattlibErrorDbusWithError e).toNat := Nat.ge_two_pow_of_testBit hbit
  have hint := BitVec.toInt_eq_toNat_cond (gattlibErrorDbusWithError e)
  have hlt := (gattlibErrorDbusWithError e).isLt
  split at hint <;> omega

/-- The three fields of the value. -/
theorem dbusError_toNat (hdomain : e.domain.toNat < 2 ^ 20) (hcode : e.code.toNat < 2 ^ 8) :
    (gattlibErrorDbusWithError e).toNat = e.code.toNat + e.domain.toNat * 2 ^ 8 + 2 ^ 28 := by
  have hmodule : gattlibErrorDbus = 1#32 <<< 28 := rfl
  have hlow := pack_lt hcode hdomain (by decide)
  have horder : gattlibErrorDbusWithError e = (e.code ||| e.domain <<< 8) ||| 1#32 <<< 28 := by
    rw [gattlibErrorDbusWithError, hmodule, BitVec.or_comm (1#32 <<< 28), BitVec.or_assoc,
      BitVec.or_comm _ e.code, ← BitVec.or_assoc, BitVec.or_comm (e.domain <<< 8)]
  rw [horder, pack_toNat hlow (by decide), pack_toNat hcode (by omega)]
  rfl

/-- A value of the module comes out with the two fields that `handle_return` reads. -/
theorem handleReturn_module (hplain : (n : ℤ) ∉ plainCodes) (hmodule : n / 2 ^ 28 = 1) :
    handleReturn n = some (.dbusError (n / 2 ^ 8 % 2 ^ 12 : ℕ) (n % 2 ^ 16 : ℕ)) := by
  have hmask : moduleOf n = 0x10000000 := by
    have hland : n &&& 15 <<< 28 = 0x10000000 := by
      rw [and_shifted, Nat.shiftRight_eq_div_pow, hmodule]
      rfl
    exact congrArg Int.ofNat hland
  have hdomain : domainOf n = (n / 2 ^ 8 % 2 ^ 12 : ℕ) := by
    have hland : n >>> 8 &&& 2 ^ 12 - 1 = n / 2 ^ 8 % 2 ^ 12 := by
      rw [Nat.and_two_pow_sub_one_eq_mod, Nat.shiftRight_eq_div_pow]
    exact congrArg Int.ofNat hland
  have hcode : codeOf n = (n % 2 ^ 16 : ℕ) :=
    congrArg Int.ofNat (Nat.and_two_pow_sub_one_eq_mod n 16)
  simp only [handleReturn, lookup_plain hplain, hmask, hdomain, hcode, if_true]

/-- The two bytes of the domain that the value has are in both fields. -/
theorem handleReturn_dbus (hdomain : e.domain.toNat < 2 ^ 20) (hcode : e.code.toNat < 2 ^ 8) :
    handleReturn (gattlibErrorDbusWithError e).toInt = some (.dbusError
      (e.domain.toNat % 2 ^ 12 : ℕ) (e.domain.toNat % 2 ^ 8 * 2 ^ 8 + e.code.toNat : ℕ)) := by
  have hvalue := dbusError_toNat hdomain hcode
  have hint : (gattlibErrorDbusWithError e).toInt = (gattlibErrorDbusWithError e).toNat := by
    rw [BitVec.toInt_eq_toNat_cond, if_pos (by omega)]
  have hplain := dbusError_plain e
  rw [hint] at hplain ⊢
  have hread := handleReturn_module hplain (by omega)
  have hdom : (gattlibErrorDbusWithError e).toNat / 2 ^ 8 % 2 ^ 12 = e.domain.toNat % 2 ^ 12 := by
    omega
  have hlow : (gattlibErrorDbusWithError e).toNat % 2 ^ 16 =
      e.domain.toNat % 2 ^ 8 * 2 ^ 8 + e.code.toNat := by
    omega
  rw [hdom, hlow] at hread
  exact hread

/-- A negative number has all of its upper bits set. -/
theorem moduleOf_negative {v : Ret} (h : v.toInt < 0) : moduleOf v.toInt ≠ 0x10000000 := by
  have hv := v.isLt
  rw [BitVec.toInt_eq_toNat_cond] at h ⊢
  split at h
  · omega
  · obtain ⟨m, hm, hneg⟩ : ∃ m : ℕ, m < 2 ^ 31 ∧ (v.toNat : ℤ) - (2 ^ 32 : ℕ) = Int.negSucc m :=
      ⟨2 ^ 32 - 1 - v.toNat, by omega, by omega⟩
    rw [if_neg (by assumption), hneg]
    intro hland
    have hbit : (Nat.ldiff 0xF0000000 m).testBit 31 = Nat.testBit 0x10000000 31 :=
      congrArg (Nat.testBit · 31) (Int.ofNat.inj hland)
    rw [Nat.testBit_ldiff, Nat.testBit_lt_two_pow hm] at hbit
    exact absurd hbit (by decide)

/-- A negative code makes the whole value negative. -/
theorem dbusError_negative (h : e.code.toInt < 0) : (gattlibErrorDbusWithError e).toInt < 0 := by
  have hcode : e.code.msb = true := by
    rw [BitVec.msb_eq_toInt]
    simpa using h
  have hmsb : (gattlibErrorDbusWithError e).msb = true := by
    rw [gattlibErrorDbusWithError, BitVec.msb_or, hcode, Bool.or_true]
  rw [BitVec.msb_eq_toInt] at hmsb
  simpa using hmsb

theorem negative_lost (h : e.code.toInt < 0) :
    handleReturn (gattlibErrorDbusWithError e).toInt ≠ some (.dbusError domain code) := by
  simp only [handleReturn, lookup_plain (dbusError_plain e),
    moduleOf_negative (dbusError_negative h), if_false]
  split
  · simp
  · split <;> simp

end

/-- An error comes out as it went in exactly when the low byte of its domain, which is read as
a part of the code, is zero and the domain has no more than twelve bits. -/
theorem survives_iff {e : GError} (hcode : e.code.toInt < 2 ^ 8)
    (hdomain : e.domain.toNat < 2 ^ 20) : Survives e ↔
    0 ≤ e.code.toInt ∧ e.domain.toNat < 2 ^ 12 ∧ e.domain.toNat % 2 ^ 8 = 0 := by
  by_cases hneg : e.code.toInt < 0
  · constructor
    · exact fun h => absurd h.raised (negative_lost hneg)
    · rintro ⟨hpos, _⟩
      omega
  · have hnat : e.code.toInt = e.code.toNat := by
      rw [BitVec.toInt_eq_toNat_cond] at hneg ⊢
      have hlt := e.code.isLt
      split at hneg
      · next h => rw [if_pos h]
      · omega
    have hsmall : e.code.toNat < 2 ^ 8 := by omega
    have hdecoded := handleReturn_dbus hdomain hsmall
    constructor
    · intro h
      have hraised := hdecoded.symm.trans h.raised
      simp only [Option.some.injEq, PyException.dbusError.injEq, hnat] at hraised
      omega
    · rintro ⟨_, hshort, hlow⟩
      refine ⟨dbusError_ne_success e, dbusError_plain e, ?_⟩
      rw [hdecoded, hlow, Nat.mod_eq_of_lt hshort, hnat]
      simp

/-- An error of a domain whose low byte is zero. -/
theorem survives_iff_aligned : Survives ⟨256, 36, []⟩ :=
  (survives_iff (e := ⟨256, 36, []⟩) (by decide) (by decide)).mpr (by decide)

/-- G_IO_ERROR_DBUS_ERROR in the domain 238 -/
theorem code_merged : ¬∀ e : GError, e.code.toInt < 2 ^ 8 → e.domain.toNat < 2 ^ 20 →
    Survives e := by
  intro h
  have hraised := (h ⟨238, 36, []⟩ (by decide) (by decide)).raised
  revert hraised
  decide

end Gattlib.DbusErrors
