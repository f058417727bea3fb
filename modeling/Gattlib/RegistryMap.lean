import Gattlib.RegistryFacts
import Gattlib.Library.Maps

namespace Gattlib.RegistryMap

open Library.Memory Library.Maps Gattlib.Strings Gattlib.State Gattlib.Registry
open Gattlib.RegistryFacts

/-- What the registry is for: the state of every known device, by its id up to
ASCII case, in the order the devices came in. -/
abbrev DeviceMap := OrderedMap (List UInt8) DeviceState

def mapState (m : DeviceMap) (id : CString) : DeviceState := (lookup m (fold id)).getD .notFound

def mapSet (m : DeviceMap) (id : CString) (new : DeviceState) : Ret × DeviceMap :=
  if new ≠ .notFound then (gattlibSuccess, put m (fold id) new)
  else
    match lookup m (fold id) with
    | none => (gattlibSuccess, m)
    | some .disconnected => (gattlibSuccess, erase m (fold id))
    | some _ => (gattlibUnexpected, m)

def entry (w : World) (device : Nat) : Option (List UInt8 × DeviceState) :=
  (w.devices.cell device).map (fun d => (fold d.deviceId, d.state))

/-- The device list read as the entries of a map. -/
def entries (w : World) (adapter : Nat) : List (List UInt8 × DeviceState) :=
  (devicesOf w adapter).filterMap (entry w)

/-- The device list of an adapter stands for a map. -/
structure Represents (w : World) (adapter : Nat) (m : DeviceMap) : Prop where
  valid : adapter ∈ w.adapterList
  live : ∃ ad, w.adapters.cell adapter = some ad
  ok : RegistryOk w adapter
  entries : entries w adapter = m.entries

section

variable {w : World} {a p : Nat} {id : CString} {m : DeviceMap}

theorem entry_listed {d : Device} (hd : Listed w a p d) :
    entry w p = some (fold d.deviceId, d.state) := by
  simp [entry, hd.cell]

theorem lookup_entries (h : Represents w a m) (id : CString) :
    lookup m (fold id) = (findDeviceWithDeviceId w a id).map (stateOf w) := by
  unfold lookup findDeviceWithDeviceId
  rw [← h.entries, RegistryMap.entries, List.find?_filterMap]
  have hq : (fun p => (entry w p).any (fun e => decide (e.1 = fold id))) =
      compareDeviceWithDeviceId w id := by
    funext p
    rw [Bool.eq_iff_iff, compare_iff]
    unfold entry key
    cases w.devices.cell p with
    | none => simp
    | some d => simp
  rw [hq]
  cases hf : (devicesOf w a).find? (compareDeviceWithDeviceId w id) with
  | none => rfl
  | some p =>
    obtain ⟨d, hd, _⟩ := find_listed h.ok hf
    simp [entry_listed hd, stateOf_listed hd]

theorem getState_map (h : Represents w a m) (id : CString) :
    gattlibDeviceGetState w a id = mapState m id := by
  unfold mapState
  rw [lookup_entries h id]
  cases hf : findDeviceWithDeviceId w a id with
  | none => exact getState_absent hf
  | some p => exact getState_found hf

theorem mem_keys_iff (h : Represents w a m) :
    fold id ∈ m.entries.map Prod.fst ↔ findDeviceWithDeviceId w a id ≠ none := by
  rw [Ne, find_none_iff, not_not, ← h.entries, RegistryMap.entries, List.mem_map, List.mem_map]
  constructor
  · rintro ⟨e, he, hk⟩
    obtain ⟨p, hp, hpe⟩ := List.mem_filterMap.mp he
    obtain ⟨d, hd⟩ := h.ok.listed p hp
    rw [entry_listed hd, Option.some.injEq] at hpe
    subst hpe
    exact ⟨p, hp, by simp [key, hd.cell, ← hk]⟩
  · rintro ⟨p, hp, hk⟩
    obtain ⟨d, hd⟩ := h.ok.listed p hp
    refine ⟨(fold d.deviceId, d.state), List.mem_filterMap.mpr ⟨p, hp, entry_listed hd⟩, ?_⟩
    simpa [key, hd.cell] using hk

theorem represents_present (h : Represents w a m) (hf : findDeviceWithDeviceId w a id = some p)
    {new : DeviceState} (hn : new ≠ .notFound) :
    Represents (setDeviceState w p new) a (put m (fold id) new) := by
  have hk : ∀ d, w.devices.cell p = some d → Keeps d { d with state := new } :=
    fun d _ => ⟨rfl, rfl, rfl, fun _ => hn, fun hc => hc⟩
  refine ⟨h.valid, h.live, registryOk_modifyDevice h.ok hk, ?_⟩
  have hin : fold id ∈ m.entries.map Prod.fst := (mem_keys_iff h).mpr (by rw [hf]; simp)
  rw [put_present hin, ← h.entries]
  unfold overwrite RegistryMap.entries
  rw [List.map_filterMap]
  apply List.filterMap_congr
  intro q hq
  obtain ⟨d, hd⟩ := h.ok.listed q hq
  obtain ⟨e, he, hid⟩ := find_listed h.ok hf
  rw [entry_listed hd]
  by_cases hqp : q = p
  · subst q
    have hde : d = e := Option.some.inj (hd.cell.symm.trans he.cell)
    subst d
    simp [entry, setDeviceState, cell_modifyDevice, he.cell, hid]
  · have hne : fold d.deviceId ≠ fold id := by
      intro hc
      have hfq : findDeviceWithDeviceId w a id = some q :=
        (find_iff h.ok).mpr ⟨hq, by simp [key, hd.cell, hc]⟩
      exact hqp (Option.some.inj (hfq.symm.trans hf))
    simp [entry, setDeviceState, cell_modifyDevice, hqp, hd.cell, hne]

theorem represents_absent (h : Represents w a m) (hf : findDeviceWithDeviceId w a id = none)
    {new : DeviceState} (hn : new ≠ .notFound) :
    Represents (appendDevice w a (newDevice w a id new)) a (put m (fold id) new) := by
  obtain ⟨ad, hl⟩ := h.live
  refine ⟨h.valid, ?_, registryOk_append h.ok h.live hf hn, ?_⟩
  · exact ⟨{ ad with devices := ad.devices ++ [w.devices.next] },
      by simp [appendDevice, modifyAdapter, hl]⟩
  · have hout : fold id ∉ m.entries.map Prod.fst := by
      rw [mem_keys_iff h, hf]
      simp
    have hold : (devicesOf w a).filterMap (entry (appendDevice w a (newDevice w a id new))) =
        m.entries := by
      rw [← h.entries, RegistryMap.entries]
      apply List.filterMap_congr
      intro q hq
      obtain ⟨d, hd⟩ := h.ok.listed q hq
      rw [entry_listed hd, entry_listed (listed_append hd)]
    have hnew := entry_listed (listed_new (w := w) (a := a) id hn)
    rw [put_absent hout, RegistryMap.entries, devicesOf_append h.live, List.filterMap_append, hold,
      List.filterMap_cons_some hnew]
    rfl

theorem represents_drop (h : Represents w a m) (hf : findDeviceWithDeviceId w a id = some p) :
    Represents (dropDevice w a p) a (erase m (fold id)) := by
  obtain ⟨ad, hl⟩ := h.live
  have hnodup : (devicesOf w a).Nodup := List.Nodup.of_map _ h.ok.distinct
  refine ⟨?_, ?_, registryOk_drop h.ok, ?_⟩
  · have hv : (dropDevice w a p).adapterList = w.adapterList := by
      unfold dropDevice gattlibDeviceUnref
      split
      · rfl
      · split <;> rfl
    rw [hv]
    exact h.valid
  · refine ⟨{ ad with devices := ad.devices.erase p }, ?_⟩
    rw [dropDevice, unref_adapters]
    simp [removeDevice, modifyAdapter, hl]
  · rw [erase_entries, others, ← h.entries, RegistryMap.entries, RegistryMap.entries,
      devicesOf_drop, hnodup.erase_eq_filter, List.filterMap_filter, List.filter_filterMap]
    apply List.filterMap_congr
    intro q hq
    obtain ⟨d, hd⟩ := h.ok.listed q hq
    rw [entry_listed hd]
    by_cases hqp : q = p
    · subst q
      obtain ⟨e, he, hid⟩ := find_listed h.ok hf
      have hde : d = e := Option.some.inj (hd.cell.symm.trans he.cell)
      subst d
      simp [hid, Option.filter]
    · have hne : fold d.deviceId ≠ fold id := by
        intro hc
        have hfq : findDeviceWithDeviceId w a id = some q :=
          (find_iff h.ok).mpr ⟨hq, by simp [key, hd.cell, hc]⟩
        exact hqp (Option.some.inj (hfq.symm.trans hf))
      have hcell : entry (dropDevice w a p) q = some (fold d.deviceId, d.state) := by
        rw [entry, cell_drop_ne hqp, hd.cell]
        rfl
      simp [hqp, hne, hcell, Option.filter]

/-- One call of the setter is one operation of the map, with the same return code. -/
theorem setState_refines (h : Represents w a m) (id : CString) (new : DeviceState) :
    (gattlibDeviceSetState w a id new true).1 = (mapSet m id new).1 ∧
      Represents (gattlibDeviceSetState w a id new true).2 a (mapSet m id new).2 := by
  have hlook := lookup_entries h id
  unfold mapSet
  by_cases hn : new = .notFound
  · subst new
    rw [if_neg (by simp)]
    cases hf : findDeviceWithDeviceId w a id with
    | none =>
      rw [hf, Option.map_none] at hlook
      rw [setState_removeAbsent h.valid hf, hlook]
      exact ⟨rfl, h⟩
    | some p =>
      rw [hf, Option.map_some] at hlook
      by_cases hs : stateOf w p = .disconnected
      · rw [setState_remove h.valid h.ok hf hs, hlook, hs]
        exact ⟨rfl, represents_drop h hf⟩
      · rw [setState_removeBusy h.valid h.ok hf hs, hlook]
        cases hst : stateOf w p with
        | disconnected => exact absurd hst hs
        | notFound | connecting | connected | disconnecting => exact ⟨rfl, h⟩
  · rw [if_pos hn]
    cases hf : findDeviceWithDeviceId w a id with
    | none =>
      rw [setState_absent h.valid hf hn]
      exact ⟨rfl, represents_absent h hf hn⟩
    | some p =>
      rw [setState_present h.valid h.ok hf hn]
      exact ⟨rfl, represents_present h hf hn⟩

end

/-- A sequence of calls of `gattlib_device_set_state` on one adapter, with the
codes they return. -/
def setStates (w : World) (a : Nat) : List (CString × DeviceState) → List Ret × World
  | [] => ([], w)
  | (id, new) :: calls =>
      let r := gattlibDeviceSetState w a id new true
      let rest := setStates r.2 a calls
      (r.1 :: rest.1, rest.2)

def mapSets (m : DeviceMap) : List (CString × DeviceState) → List Ret × DeviceMap
  | [] => ([], m)
  | (id, new) :: calls =>
      let r := mapSet m id new
      let rest := mapSets r.2 calls
      (r.1 :: rest.1, rest.2)

theorem setStates_refines {w : World} {a : Nat} {m : DeviceMap} (h : Represents w a m)
    (calls : List (CString × DeviceState)) :
    (setStates w a calls).1 = (mapSets m calls).1 ∧
      Represents (setStates w a calls).2 a (mapSets m calls).2 := by
  induction calls generalizing w m with
  | nil => exact ⟨rfl, h⟩
  | cons c calls ih =>
    obtain ⟨id, new⟩ := c
    obtain ⟨hr, hw⟩ := setState_refines h id new
    obtain ⟨hrs, hws⟩ := ih hw
    exact ⟨by simp only [setStates, mapSets, hr, hrs], hws⟩

theorem represents_empty {w : World} {a : Nat} (hv : a ∈ w.adapterList) {ad : Adapter}
    (hl : w.adapters.cell a = some ad) (he : ad.devices = []) :
    Represents w a Library.Maps.empty := by
  have hd : devicesOf w a = [] := by simp [devicesOf, hl, he]
  refine ⟨hv, ⟨ad, hl⟩, ⟨?_, ?_⟩, ?_⟩
  · simp [hd]
  · simp [hd]
  · simp [RegistryMap.entries, hd, Library.Maps.empty]

/-- What the device list guarantees to the code that searches it. -/
structure IsMap (w : World) (a : Nat) (m : DeviceMap) : Prop where
  distinct : (devicesOf w a).Pairwise (fun p q => ∀ d e, w.devices.cell p = some d →
    w.devices.cell q = some e → gAsciiStrcasecmp d.deviceId e.deviceId ≠ 0)
  stored : ∀ p ∈ devicesOf w a, ∃ d, w.devices.cell p = some d ∧ d.state ≠ .notFound ∧
    d.adapter = a ∧ d.connection.device = p
  states : ∀ id, gattlibDeviceGetState w a id = mapState m id
  order : entries w a = m.entries

theorem represents_isMap {w : World} {a : Nat} {m : DeviceMap} (h : Represents w a m) :
    IsMap w a m := by
  refine ⟨?_, ?_, getState_map h, h.entries⟩
  · have hd := h.ok.distinct
    rw [List.Nodup, List.pairwise_map] at hd
    apply hd.imp
    intro p q hne d e hp hq hc
    apply hne
    rw [key, key, hp, hq]
    exact congrArg some ((gAsciiStrcasecmp_zero _ _).mp hc)
  · intro p hp
    obtain ⟨d, hd⟩ := h.ok.listed p hp
    exact ⟨d, hd.cell, hd.known, hd.adapter, hd.back⟩

theorem mapSet_others (m : DeviceMap) (id : CString) (new : DeviceState) :
    others (fold id) (mapSet m id new).2.entries = others (fold id) m.entries := by
  unfold mapSet
  split
  · exact others_put m (fold id) new
  · split
    · rfl
    · exact others_erase m (fold id)
    · rfl

/-- The device registry is a map: after any sequence of calls of the setter the
list is a case-insensitive map from ids to states, the map the same operations
give from the empty one, and a further call leaves all other entries in place. -/
theorem registry_is_map (w : World) (a : Nat) (ad : Adapter) (hv : a ∈ w.adapterList)
    (hl : w.adapters.cell a = some ad) (he : ad.devices = [])
    (calls : List (CString × DeviceState)) :
    (setStates w a calls).1 = (mapSets Library.Maps.empty calls).1 ∧
      IsMap (setStates w a calls).2 a (mapSets Library.Maps.empty calls).2 ∧
      ∀ id new, others (fold id)
          (entries (gattlibDeviceSetState (setStates w a calls).2 a id new true).2 a) =
        others (fold id) (entries (setStates w a calls).2 a) := by
  obtain ⟨hr, hw⟩ := setStates_refines (represents_empty hv hl he) calls
  refine ⟨hr, represents_isMap hw, fun id new => ?_⟩
  have hs := (setState_refines hw id new).2
  rw [hs.entries, hw.entries, mapSet_others]

theorem registry_is_map_opened :
    IsMap (setStates opened 0 [(hci0, .connecting), (hci0, .notFound)]).2 0
      (mapSets Library.Maps.empty [(hci0, .connecting), (hci0, .notFound)]).2 :=
  (registry_is_map opened 0 (newAdapter hci0 hci0 1) (by decide) rfl rfl _).2.1

end Gattlib.RegistryMap
