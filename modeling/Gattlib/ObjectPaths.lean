import Gattlib.DevicePaths
import Gattlib.PrimaryServices

namespace Gattlib.ObjectPaths

open Library.Text Gattlib.Strings Gattlib.Adapters Gattlib.DevicePaths Gattlib.PrimaryServices

/-- "/service" -/
def slashService : List UInt8 := [47, 115, 101, 114, 118, 105, 99, 101]

/-- "/char" -/
def slashChar : List UInt8 := [47, 99, 104, 97, 114]

def FourDigits (digits : List UInt8) : Prop :=
  digits.length = 4 ∧ (digitsValue 0 digits).isSome = true

/-- /org/bluez/hci0/dev_DE_79_A2_A1_E9_FA, with any adapter and address. -/
def DevicePath (p : List UInt8) : Prop :=
  ∃ adapter address, 47 ∉ adapter ∧ 47 ∉ address ∧
    p = orgBluez ++ adapter ++ slashDev ++ address

/-- The path of a device, and service0024 -/
def ServicePath (p : List UInt8) : Prop :=
  ∃ device digits, DevicePath device ∧ FourDigits digits ∧ p = device ++ slashService ++ digits

/-- The path of a service, and char0029 -/
def CharacteristicPath (p : List UInt8) : Prop :=
  ∃ service digits, ServicePath service ∧ FourDigits digits ∧ p = service ++ slashChar ++ digits

/-- The handle at the end of a path, in four digits. -/
def handleOf (path : CString) : Option Nat :=
  if 4 ≤ path.bytes.length then digitsValue 0 (path.bytes.drop (path.bytes.length - 4)) else none

section

variable {path : CString} {p q digits : List UInt8} {n : Nat}

theorem handleOf_append (h : path.bytes = p ++ digits) (hd : digits.length = 4) :
    handleOf path = digitsValue 0 digits := by
  have hlength : path.bytes.length = p.length + 4 := by rw [h, List.length_append, hd]
  rw [handleOf, if_pos (by omega), hlength, Nat.add_sub_cancel, h, List.drop_left]

theorem handleOf_lt (h : handleOf path = some n) : n < 65536 := by
  unfold handleOf at h
  split at h
  · next hlength =>
    have hlt := digitsValue_lt h
    have hfour : (path.bytes.drop (path.bytes.length - 4)).length = 4 := by
      rw [List.length_drop]
      omega
    rw [hfour] at hlt
    omega
  · cases h

/-- A path that ends with its handle is read, whatever the variable has held. -/
theorem pathHandle_eq (h : handleOf path = some n) (handle : BitVec 32) :
    pathHandle path handle = BitVec.ofNat 32 n := by
  unfold handleOf at h
  split at h
  · next hlength =>
    have hfour : (path.bytes.drop (path.bytes.length - 4)).length = 4 := by
      rw [List.length_drop]
      omega
    unfold pathHandle
    generalize path.bytes.drop (path.bytes.length - 4) = last at h hfour
    match last, hfour with
    | [c, x, d, e], _ =>
      have hread : sscanf [.hex 4] [c, x, d, e] = [(n : Int)] := sscanf_value h
      rw [hread]
      exact BitVec.ofInt_natCast 32 n
  · cases h

theorem fourDigits_handle (hd : FourDigits digits) (h : path.bytes = p ++ digits) :
    ∃ n, handleOf path = some n := by
  rw [handleOf_append h hd.1]
  exact Option.isSome_iff_exists.mp hd.2

theorem digits_slashless (hd : FourDigits digits) : 47 ∉ digits := by
  have hall : ∀ (acc : Nat) (ds : List UInt8), (digitsValue acc ds).isSome = true → 47 ∉ ds := by
    intro acc ds
    induction ds generalizing acc with
    | nil => exact fun _ => List.not_mem_nil
    | cons c ds ih =>
      intro h
      obtain ⟨v, hv⟩ := Option.isSome_iff_exists.mp h
      rw [digitsValue, Option.bind_eq_some_iff] at hv
      obtain ⟨m, hc, hrest⟩ := hv
      have hslash : 47 ≠ c := by
        rintro rfl
        cases hc
      rw [List.mem_cons, not_or]
      exact ⟨hslash, ih _ (Option.isSome_iff_exists.mpr ⟨v, hrest⟩)⟩
  exact hall 0 digits hd.2

/-! The slashes tell how deep a path is -/

theorem devicePath_slashes (h : DevicePath p) : p.count 47 = 4 := by
  obtain ⟨adapter, address, ha, hd, rfl⟩ := h
  rw [List.count_append, List.count_append, List.count_append, List.count_eq_zero.mpr ha,
    List.count_eq_zero.mpr hd]
  rfl

theorem servicePath_slashes (h : ServicePath p) : p.count 47 = 5 := by
  obtain ⟨device, digits, hdevice, hd, rfl⟩ := h
  rw [List.count_append, List.count_append, devicePath_slashes hdevice,
    List.count_eq_zero.mpr (digits_slashless hd)]
  rfl

/-- What follows the last slash. -/
theorem lastSlash_inj {u v : List UInt8} (hu : 47 ∉ u) (hv : 47 ∉ v)
    (h : p ++ 47 :: u = q ++ 47 :: v) : p = q ∧ u = v := by
  obtain ⟨a, hp, hs⟩ | ⟨a, hq, hs⟩ := List.append_eq_append_iff.mp h
  · cases a with
    | nil =>
      rw [List.append_nil] at hp
      exact ⟨hp.symm, (List.cons.inj hs).2⟩
    | cons c a =>
      obtain ⟨_, htail⟩ := List.cons.inj hs
      exact absurd (htail ▸ List.mem_append_right a List.mem_cons_self) hu
  · cases a with
    | nil =>
      rw [List.append_nil] at hq
      exact ⟨hq, (List.cons.inj hs).2.symm⟩
    | cons c a =>
      obtain ⟨_, htail⟩ := List.cons.inj hs
      exact absurd (htail ▸ List.mem_append_right a List.mem_cons_self) hv

/-- A service has no path of its own below another. -/
theorem servicePath_extend {a : List UInt8} (hp : ServicePath p) (hq : ServicePath (p ++ a)) :
    a = [] := by
  have hslashes := servicePath_slashes hq
  rw [List.count_append, servicePath_slashes hp] at hslashes
  have ha : 47 ∉ a := List.count_eq_zero.mp (by omega)
  obtain ⟨device, digits, _, hd, rfl⟩ := hp
  obtain ⟨device', digits', _, hd', he⟩ := hq
  have hname : ∀ ds, 47 ∉ ds → 47 ∉ ([115, 101, 114, 118, 105, 99, 101] : List UInt8) ++ ds := by
    intro ds hds
    rw [List.mem_append, not_or]
    exact ⟨by decide, hds⟩
  have hdigits : 47 ∉ digits ++ a := by
    rw [List.mem_append, not_or]
    exact ⟨digits_slashless hd, ha⟩
  have hslash : device ++ 47 :: ([115, 101, 114, 118, 105, 99, 101] ++ (digits ++ a)) =
      device' ++ 47 :: ([115, 101, 114, 118, 105, 99, 101] ++ digits') := by
    simpa [slashService] using he
  obtain ⟨_, hlast⟩ := lastSlash_inj (hname _ hdigits) (hname _ (digits_slashless hd')) hslash
  have hlength := congrArg List.length hlast
  rw [List.length_append, List.length_append, List.length_append, hd.1, hd'.1] at hlength
  exact List.length_eq_zero_iff.mp (by omega)

/-- The prefix test of the loop over the characteristics finds those of the service. -/
theorem prefix_own {service : List UInt8} (hp : ServicePath p) (hs : ServicePath service)
    (h : p <+: service ++ slashChar ++ digits) : p = service := by
  obtain ⟨rest, he⟩ := h
  rw [List.append_assoc] at he
  obtain ⟨a, hservice, htail⟩ | ⟨a, hpath, htail⟩ := List.append_eq_append_iff.mp he
  · rw [hservice] at hs
    rw [servicePath_extend hp hs, List.append_nil] at hservice
    exact hservice.symm
  · cases a with
    | nil =>
      rw [List.append_nil] at hpath
      exact hpath
    | cons c a =>
      have hc : c = 47 := (List.cons.inj htail).1.symm
      have hslashes := servicePath_slashes hp
      rw [hpath, List.count_append, servicePath_slashes hs, hc, List.count_cons_self] at hslashes
      omega

end

end Gattlib.ObjectPaths
