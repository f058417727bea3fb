import Gattlib.Adapters
import Gattlib.Library.Text

namespace Gattlib.DevicePaths

open Library.Text Gattlib.Strings Gattlib.State Gattlib.Registry
open Gattlib.Adapters

/-- XX:XX:XX:XX:XX:XX, with digits in either case. -/
def IsMac (s : CString) : Prop :=
  s.bytes.length = 17 ∧ ∀ i c, s.bytes[i]? = some c →
    if i % 3 = 2 then c = 58 else (hexValue c).isSome = true

instance (s : CString) : Decidable (IsMac s) :=
  decidable_of_iff (s.bytes.length = 17 ∧ ∀ p ∈ s.bytes.zipIdx,
    if p.2 % 3 = 2 then p.1 = 58 else (hexValue p.1).isSome = true) (by
      refine and_congr_right (fun _ => ⟨fun h i c hc => ?_, fun h p hp => ?_⟩)
      · exact h (c, i) (List.mk_mem_zipIdx_iff_getElem?.mpr hc)
      · exact h p.2 p.1 (List.mem_zipIdx_iff_getElem?.mp hp))

/-- ':' becomes '_'. -/
def underscored (c : UInt8) : UInt8 := if c = 58 then 95 else c

/-- "/dev_" -/
def slashDev : List UInt8 := [47, 100, 101, 118, 95]

/-- The name that a NULL name stands for. -/
def nameOf (adapterName : Option CString) : CString := adapterName.getD hci0

theorem path_nul_free (name mac : CString) :
    0 ∉ orgBluez ++ name.bytes ++ slashDev ++ mac.bytes.map underscored := by
  have hbluez : 0 ∉ orgBluez := by decide
  have hdev : 0 ∉ slashDev := by decide
  have hmac : 0 ∉ mac.bytes.map underscored := by
    intro h
    obtain ⟨c, hc, he⟩ := List.mem_map.mp h
    rw [underscored] at he
    split at he
    · cases he
    · exact mac.nul_free (he ▸ hc)
  simp only [List.mem_append, not_or]
  exact ⟨⟨⟨hbluez, name.nul_free⟩, hdev⟩, hmac⟩

/-- The object path under which BlueZ exports a device of an adapter. -/
def objectPath (adapterName : Option CString) (mac : CString) : CString where
  bytes := orgBluez ++ (nameOf adapterName).bytes ++ slashDev ++ mac.bytes.map underscored
  nul_free := path_nul_free _ mac

/-- `strncpy` takes 20 bytes of the address, and the buffer for the path has 200. -/
def getDevicePathFromMac (adapterName : Option CString) (mac : CString) : CString where
  bytes := (orgBluez ++ (nameOf adapterName).bytes ++ slashDev ++
    (mac.bytes.take 20).map underscored).take 199
  nul_free := by
    intro h
    have hm := List.mem_of_mem_take h
    rw [List.map_take] at hm
    refine path_nul_free (nameOf adapterName) mac ?_
    rcases List.mem_append.mp hm with hm | hm
    · exact List.mem_append_left _ hm
    · exact List.mem_append_right _ (List.mem_of_mem_take hm)

/-- The path of a device with a MAC address fits the buffer. -/
def PathFits (adapterName : Option CString) : Prop := (nameOf adapterName).bytes.length ≤ 166

section

variable {c : UInt8} {s t : List UInt8} {adapterName : Option CString} {a b : CString}

/-- A byte that is not a letter is the lower case of itself only. -/
theorem toLower_other {d : UInt8} (hd : d.toNat < 65 ∨ 90 < d.toNat ∧ d.toNat < 97)
    (h : toLower c = d) : c = d := by
  unfold toLower at h
  split at h
  · next hcap =>
    have hbig := UInt8.le_iff_toNat_le.mp hcap.1
    have hsmall := UInt8.le_iff_toNat_le.mp hcap.2
    have hsum := congrArg UInt8.toNat h
    simp only [UInt8.toNat_add, UInt8.reduceToNat] at hbig hsmall hsum
    omega
  · exact h

theorem toLower_underscored (c : UInt8) : toLower (underscored c) = underscored (toLower c) := by
  unfold underscored
  by_cases hc : c = 58
  · subst hc
    rfl
  · have hl : toLower c ≠ 58 := fun h => hc (toLower_other (by decide) h)
    rw [if_neg hc, if_neg hl]

theorem underscored_inj (hs : 95 ∉ s) (ht : 95 ∉ t) :
    s.map underscored = t.map underscored ↔ s = t := by
  have hback : ∀ u : List UInt8, 95 ∉ u →
      (u.map underscored).map (fun c => if c = 95 then 58 else c) = u := by
    intro u hu
    rw [List.map_map]
    refine (List.map_congr_left (fun c hc => ?_)).trans (List.map_id u)
    have hne : c ≠ 95 := fun h => hu (h ▸ hc)
    by_cases hcolon : c = 58
    · subst hcolon
      rfl
    · simp [underscored, hcolon, hne]
  refine ⟨fun h => ?_, fun h => by rw [h]⟩
  rw [← hback s hs, ← hback t ht, h]

theorem mac_plain (h : IsMac a) : 95 ∉ a.bytes := by
  intro hm
  obtain ⟨i, hi⟩ := List.mem_iff_getElem?.mp hm
  have hc := h.2 i 95 hi
  split at hc
  · cases hc
  · cases hc

theorem fold_plain (h : IsMac a) : 95 ∉ fold a := by
  intro hm
  obtain ⟨c, hc, he⟩ := List.mem_map.mp hm
  exact mac_plain h (toLower_other (by decide) he ▸ hc)

theorem fold_underscored (mac : CString) :
    (mac.bytes.map underscored).map toLower = (fold mac).map underscored := by
  rw [fold, List.map_map, List.map_map]
  exact List.map_congr_left (fun c _ => toLower_underscored c)

/-- What all device paths of an adapter begin with. -/
def pathPrefix (adapterName : Option CString) : List UInt8 :=
  (orgBluez ++ (nameOf adapterName).bytes ++ slashDev).map toLower

theorem fold_objectPath (mac : CString) :
    fold (objectPath adapterName mac) = pathPrefix adapterName ++ (fold mac).map underscored := by
  rw [fold, objectPath, List.map_append, fold_underscored, pathPrefix]

theorem fold_devicePath (h : IsMac a) :
    fold (getDevicePathFromMac adapterName a) =
      (pathPrefix adapterName ++ (fold a).map underscored).take 199 := by
  have hall : a.bytes.take 20 = a.bytes := List.take_of_length_le (by rw [h.1]; omega)
  have hbytes : (getDevicePathFromMac adapterName a).bytes =
      (orgBluez ++ (nameOf adapterName).bytes ++ slashDev ++ a.bytes.map underscored).take 199 :=
    congrArg (fun m : List UInt8 => (orgBluez ++ (nameOf adapterName).bytes ++ slashDev ++
      m.map underscored).take 199) hall
  rw [fold, hbytes, List.map_take, List.map_append, fold_underscored, pathPrefix]

theorem path_length (adapterName : Option CString) (h : IsMac a) :
    (pathPrefix adapterName ++ (fold a).map underscored).length =
      33 + (nameOf adapterName).bytes.length := by
  have hbluez : orgBluez.length = 11 := rfl
  have hdev : slashDev.length = 5 := rfl
  simp only [pathPrefix, fold, List.length_append, List.length_map, hbluez, hdev, h.1]
  omega

/-- The path looked up for `a` is the one of `b` in another case, if at all. -/
theorem paths_iff (ha : IsMac a) (hb : IsMac b) :
    fold (getDevicePathFromMac adapterName a) = fold (objectPath adapterName b) ↔
      PathFits adapterName ∧ fold a = fold b := by
  have hlena := path_length adapterName ha
  have hlenb := path_length adapterName hb
  rw [fold_devicePath ha, fold_objectPath, PathFits]
  by_cases hfits : (nameOf adapterName).bytes.length ≤ 166
  · rw [List.take_of_length_le (by omega), List.append_cancel_left_eq,
      underscored_inj (fold_plain ha) (fold_plain hb)]
    exact ⟨fun h => ⟨hfits, h⟩, fun h => h.2⟩
  · refine ⟨fun h => ?_, fun h => absurd h.1 hfits⟩
    have hlen := congrArg List.length h
    rw [List.length_take, hlena, hlenb] at hlen
    omega

end

end Gattlib.DevicePaths
