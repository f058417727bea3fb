import Gattlib.ClientDiscovery
import Mathlib.Algebra.Group.Int.Defs
import Mathlib.Algebra.Group.Nat.Defs

namespace Gattlib.Timeouts

open Gattlib.Client (ApiCall)

/-- `int32_t`, and `int` -/
abbrev Int32T := BitVec 32

/-- `uint32_t`, and `guint` -/
abbrev Uint32T := BitVec 32

/-- `size_t` -/
abbrev SizeT := BitVec 64

/-- The part of `_ble_scan_loop_thread` that arms the timer: the seconds it passes to
`g_timeout_add_seconds`. -/
def bleScanLoopThread (bleScanTimeout : SizeT) : Option Uint32T :=
  if bleScanTimeout > 0 then some (bleScanTimeout.setWidth 32) else none

/-- `_gattlib_adapter_scan_enable_with_filter` stores the timeout for the thread. -/
def gattlibAdapterScanEnable (timeout : SizeT) : Option Uint32T := bleScanLoopThread timeout

def kScanTimeoutBufferSec : Int32T := 5

/-- The timer of the library and the wait of the scanner, both in seconds. -/
structure ScanTimes where
  timer : Option Uint32T
  wait : ℤ
  deriving DecidableEq

/-- `GattlibScanner::Impl::scan`, unless it returns GATTLIB_INVALID_PARAMETER. The sum is one
of unsigned numbers. -/
def scan (timeoutSec : Uint32T) : Option ScanTimes :=
  if timeoutSec = 0 then none
  else some
    { timer := gattlibAdapterScanEnable (timeoutSec.setWidth 64)
      wait := (timeoutSec + kScanTimeoutBufferSec).toNat }

/-- A sum of signed numbers. What overflows is not defined. -/
def addInt (a b : Int32T) : Option ℤ := if a.saddOverflow b then none else some (a + b).toInt

/-- The times of the scan that a call of `connect` makes, and its own wait. -/
structure ConnectTimes where
  scan : ScanTimes
  wait : Option ℤ
  deriving DecidableEq

/-- `GattlibClient::Impl::connect`, unless it returns GATTLIB_INVALID_PARAMETER. The scan takes
the same bits for an unsigned number. -/
def connect (timeout : Int32T) : Option ConnectTimes :=
  if timeout = 0 then none
  else (scan timeout).map (fun times => ⟨times, addInt timeout kScanTimeoutBufferSec⟩)

/-- A call with its timeout. -/
inductive Request
  | connect (timeout : Int32T)
  | scan (timeoutSec : Uint32T)

def Accepted : Request → Prop
  | .connect timeout => (connect timeout).isSome = true
  | .scan timeoutSec => (scan timeoutSec).isSome = true

/-- The timer runs for `t` seconds, and the scanner waits for five more. -/
def ScanKeeps (t : ℤ) (times : ScanTimes) : Prop :=
  times.timer.map (fun seconds => (seconds.toNat : ℤ)) = some t ∧ times.wait = t + 5

/-- The timer and the waits are those of the timeout that the caller has passed. -/
def Keeps : Request → Prop
  | .connect timeout => ∃ times, connect timeout = some times ∧
      ScanKeeps timeout.toInt times.scan ∧ times.wait = some (timeout.toInt + 5)
  | .scan timeoutSec => ∃ times, scan timeoutSec = some times ∧ ScanKeeps timeoutSec.toNat times

/-- The timeout is positive, and five seconds more can be counted by its type. -/
def InRange : Request → Prop
  | .connect timeout => 0 < timeout.toInt ∧ timeout.toInt + 5 < 2 ^ 31
  | .scan timeoutSec => timeoutSec.toNat + 5 < 2 ^ 32

section

variable {t : BitVec 32}

/-- The conversions from `uint32_t` to `size_t` and from there to `guint` lose nothing. -/
theorem timer_exact (h : t ≠ 0) : gattlibAdapterScanEnable (t.setWidth 64) = some t := by
  have hpos : t.setWidth 64 > 0 := by
    rw [gt_iff_lt, BitVec.lt_def, BitVec.toNat_setWidth_of_le (by decide)]
    exact Nat.pos_of_ne_zero (fun hzero => h (BitVec.eq_of_toNat_eq hzero))
  have hback : (t.setWidth 64).setWidth 32 = t := by simp
  rw [gattlibAdapterScanEnable, bleScanLoopThread, if_pos hpos, hback]

theorem scan_some (h : t ≠ 0) :
    scan t = some ⟨some t, (t + kScanTimeoutBufferSec).toNat⟩ := by
  rw [scan, if_neg h, timer_exact h]

theorem connect_some (h : t ≠ 0) : connect t = some
    ⟨⟨some t, (t + kScanTimeoutBufferSec).toNat⟩, addInt t kScanTimeoutBufferSec⟩ := by
  rw [connect, if_neg h, scan_some h]
  rfl

theorem wait_toNat (t : BitVec 32) :
    (t + kScanTimeoutBufferSec).toNat = (t.toNat + 5) % 2 ^ 32 := by
  rw [BitVec.toNat_add]
  rfl

theorem addInt_eq (t : BitVec 32) : addInt t kScanTimeoutBufferSec =
    if t.toInt + 5 < 2 ^ 31 then some (t.toInt + 5) else none := by
  have hfive : kScanTimeoutBufferSec.toInt = 5 := by decide
  have hlt := t.isLt
  have hint := BitVec.toInt_eq_toNat_cond t
  have hsum : ¬t.saddOverflow kScanTimeoutBufferSec = true →
      (t + kScanTimeoutBufferSec).toInt = t.toInt + 5 := by
    intro h
    rw [BitVec.toInt_add_of_not_saddOverflow h, hfive]
  have hover : t.saddOverflow kScanTimeoutBufferSec = true ↔ ¬t.toInt + 5 < 2 ^ 31 := by
    rw [BitVec.saddOverflow, hfive, Bool.or_eq_true, decide_eq_true_iff, decide_eq_true_iff]
    split at hint <;> omega
  rw [addInt]
  by_cases h : t.saddOverflow kScanTimeoutBufferSec = true
  · rw [if_pos h, if_neg (hover.mp h)]
  · rw [if_neg h, if_pos (not_not.mp (fun hn => h (hover.mpr hn))), hsum h]

end

/-- The conversion to `uint32_t` is the one of the client's model. -/
theorem timeoutSec_connect (timeout : Int32T) (address : Strings.CString) :
    ClientDiscovery.timeoutSec (.connect timeout.toInt address) = timeout.toNat := by
  have hlt := timeout.isLt
  have hint := BitVec.toInt_eq_toNat_cond timeout
  rw [ClientDiscovery.timeoutSec, Client.timeoutArg]
  split at hint <;> omega

/-- The timeout is kept exactly when it is in its range. -/
theorem keeps_iff {r : Request} (h : Accepted r) : Keeps r ↔ InRange r := by
  cases r with
  | scan timeoutSec =>
    have hne : timeoutSec ≠ 0 := by
      rintro rfl
      cases h
    have hlt := timeoutSec.isLt
    rw [Keeps, InRange, scan_some hne]
    simp only [Option.some.injEq, exists_eq_left', ScanKeeps, Option.map_some, true_and,
      wait_toNat]
    omega
  | connect timeout =>
    have hne : timeout ≠ 0 := by
      rintro rfl
      cases h
    have hlt := timeout.isLt
    have hint := BitVec.toInt_eq_toNat_cond timeout
    have hpos : timeout.toNat ≠ 0 := fun hzero => hne (BitVec.eq_of_toNat_eq hzero)
    rw [Keeps, InRange, connect_some hne]
    simp only [Option.some.injEq, exists_eq_left', ScanKeeps, Option.map_some, wait_toNat,
      addInt_eq]
    by_cases hfits : timeout.toInt + 5 < 2 ^ 31
    · simp only [if_pos hfits, and_true]
      split at hint <;> omega
    · simp only [if_neg hfits, reduceCtorEq, and_false]
      exact iff_of_false id (fun h => hfits h.2)

/-- The scan of ten seconds. -/
theorem keeps_iff_ten : Keeps (.connect 10) :=
  (keeps_iff (r := .connect 10) rfl).mpr ⟨by decide, by decide⟩

/-- A timeout of minus one second is accepted, and the scan goes on for 136 years. -/
theorem negative_armed : ¬∀ r, Accepted r → Keeps r := by
  intro h
  obtain ⟨times, htimes, ⟨htimer, _⟩, _⟩ := h (.connect (-1)) rfl
  cases htimes
  revert htimer
  decide

end Gattlib.Timeouts
