import Gattlib.Registry

namespace Gattlib.RegistryFacts

open Library.Memory Gattlib.Strings Gattlib.State Gattlib.Registry

/-- What the search compares: the id of a device up to ASCII case. -/
def key (w : World) (device : Nat) : Option (List UInt8) :=
  (w.devices.cell device).map (fun d => fold d.deviceId)

/-- A device as the list of its adapter holds it. -/
structure Listed (w : World) (adapter device : Nat) (d : Device) : Prop where
  cell : w.devices.cell device = some d
  adapter : d.adapter = adapter
  back : d.connection.device = device
  known : d.state ≠ .notFound
  counted : 0 < d.referenceCounter

/-- The invariant of the device list of one adapter. -/
structure RegistryOk (w : World) (adapter : Nat) : Prop where
  listed : ∀ p ∈ devicesOf w adapter, ∃ d, Listed w adapter p d
  distinct : ((devicesOf w adapter).map (key w)).Nodup

/-- The invariant of the whole registry. -/
structure WellFormed (w : World) : Prop where
  nodup : w.adapterList.Nodup
  live : ∀ a ∈ w.adapterList, ∃ ad, w.adapters.cell a = some ad
  ok : ∀ a ∈ w.adapterList, RegistryOk w a

theorem valid_iff (w : World) (a : Nat) : gattlibAdapterIsValid w a = true ↔ a ∈ w.adapterList := by
  simp [gattlibAdapterIsValid]

theorem compare_iff (w : World) (id : CString) (p : Nat) :
    compareDeviceWithDeviceId w id p = true ↔ key w p = some (fold id) := by
  unfold compareDeviceWithDeviceId key
  cases w.devices.cell p with
  | none => simp
  | some d => simp [gAsciiStrcasecmp_zero]

theorem find_of_distinct {α β : Type} (f : α → β) (q : α → Bool) (k : β) (l : List α)
    (hq : ∀ x, q x = true ↔ f x = k) (hn : (l.map f).Nodup) (x : α) :
    l.find? q = some x ↔ x ∈ l ∧ f x = k := by
  constructor
  · intro h
    exact ⟨List.mem_of_find?_eq_some h, (hq x).mp (List.find?_some h)⟩
  · rintro ⟨hx, hk⟩
    cases hf : l.find? q with
    | none => exact absurd ((hq x).mpr hk) (by simpa using List.find?_eq_none.mp hf x hx)
    | some y =>
      have hy : f y = k := (hq y).mp (List.find?_some hf)
      rw [List.inj_on_of_nodup_map hn hx (List.mem_of_find?_eq_some hf) (hk.trans hy.symm)]

section

variable {w : World} {a p : Nat} {id : CString}

theorem find_iff (h : RegistryOk w a) :
    findDeviceWithDeviceId w a id = some p ↔ p ∈ devicesOf w a ∧ key w p = some (fold id) :=
  find_of_distinct (key w) _ (some (fold id)) _ (compare_iff w id) h.distinct p

theorem find_none_iff :
    findDeviceWithDeviceId w a id = none ↔ some (fold id) ∉ (devicesOf w a).map (key w) := by
  unfold findDeviceWithDeviceId
  rw [List.find?_eq_none]
  constructor
  · intro h hm
    obtain ⟨q, hq, hk⟩ := List.mem_map.mp hm
    exact h q hq ((compare_iff w id q).mpr hk)
  · intro h q hq hc
    exact h (List.mem_map.mpr ⟨q, hq, (compare_iff w id q).mp hc⟩)

theorem find_listed (h : RegistryOk w a) (hf : findDeviceWithDeviceId w a id = some p) :
    ∃ d, Listed w a p d ∧ fold d.deviceId = fold id := by
  obtain ⟨hp, hk⟩ := (find_iff h).mp hf
  obtain ⟨d, hd⟩ := h.listed p hp
  refine ⟨d, hd, ?_⟩
  simpa [key, hd.cell] using hk

/-- Looking a listed device up by its own id finds that device. -/
theorem find_self (h : RegistryOk w a) (hp : p ∈ devicesOf w a) {d : Device}
    (hd : w.devices.cell p = some d) : findDeviceWithDeviceId w a d.deviceId = some p :=
  (find_iff h).mpr ⟨hp, by simp [key, hd]⟩

theorem stateOf_listed {d : Device} (hd : Listed w a p d) : stateOf w p = d.state := by
  simp [stateOf, hd.cell]

theorem getState_found (hf : findDeviceWithDeviceId w a id = some p) :
    gattlibDeviceGetState w a id = stateOf w p := by
  simp [gattlibDeviceGetState, gattlibDeviceGetDevice, hf]

theorem getState_absent (hf : findDeviceWithDeviceId w a id = none) :
    gattlibDeviceGetState w a id = .notFound := by
  simp [gattlibDeviceGetState, gattlibDeviceGetDevice, hf]

theorem getState_known (h : RegistryOk w a) (hf : findDeviceWithDeviceId w a id = some p) :
    gattlibDeviceGetState w a id ≠ .notFound := by
  obtain ⟨d, hd, _⟩ := find_listed h hf
  rw [getState_found hf, stateOf_listed hd]
  exact hd.known

end

section

variable {w : World} {a p : Nat} {id : CString} {new : DeviceState} {calloc : Bool}

/-! What `gattlib_device_set_state` does, one lemma for each of its branches. -/

theorem setState_invalid (ha : a ∉ w.adapterList) :
    gattlibDeviceSetState w a id new calloc = (gattlibAdapterClose, w) := by
  have hv : gattlibAdapterIsValid w a = false := by simpa [gattlibAdapterIsValid] using ha
  simp [gattlibDeviceSetState, hv]

theorem setState_present (ha : a ∈ w.adapterList) (h : RegistryOk w a)
    (hf : findDeviceWithDeviceId w a id = some p) (hn : new ≠ .notFound) :
    gattlibDeviceSetState w a id new calloc = (gattlibSuccess, setDeviceState w p new) := by
  have hv := (valid_iff w a).mpr ha
  simp [gattlibDeviceSetState, hv, getState_known h hf, hn, gattlibDeviceGetDevice, hf]

theorem setState_absent (ha : a ∈ w.adapterList) (hf : findDeviceWithDeviceId w a id = none)
    (hn : new ≠ .notFound) :
    gattlibDeviceSetState w a id new true =
      (gattlibSuccess, appendDevice w a (newDevice w a id new)) := by
  have hv := (valid_iff w a).mpr ha
  simp [gattlibDeviceSetState, hv, getState_absent hf, hn]

theorem setState_noMemory (ha : a ∈ w.adapterList) (hf : findDeviceWithDeviceId w a id = none)
    (hn : new ≠ .notFound) :
    gattlibDeviceSetState w a id new false = (gattlibOutOfMemory, w) := by
  have hv := (valid_iff w a).mpr ha
  simp [gattlibDeviceSetState, hv, getState_absent hf, hn]

theorem setState_removeAbsent (ha : a ∈ w.adapterList)
    (hf : findDeviceWithDeviceId w a id = none) :
    gattlibDeviceSetState w a id .notFound calloc = (gattlibSuccess, w) := by
  have hv := (valid_iff w a).mpr ha
  simp [gattlibDeviceSetState, hv, getState_absent hf]

theorem setState_remove (ha : a ∈ w.adapterList) (h : RegistryOk w a)
    (hf : findDeviceWithDeviceId w a id = some p) (hs : stateOf w p = .disconnected) :
    gattlibDeviceSetState w a id .notFound calloc =
      (gattlibSuccess, gattlibDeviceUnref (removeDevice w a p) p) := by
  have hv := (valid_iff w a).mpr ha
  simp [gattlibDeviceSetState, hv, getState_known h hf, hf, hs]

theorem setState_removeBusy (ha : a ∈ w.adapterList) (h : RegistryOk w a)
    (hf : findDeviceWithDeviceId w a id = some p) (hs : stateOf w p ≠ .disconnected) :
    gattlibDeviceSetState w a id .notFound calloc = (gattlibUnexpected, w) := by
  have hv := (valid_iff w a).mpr ha
  cases hst : stateOf w p <;>
    simp_all [gattlibDeviceSetState, getState_known h hf]

end

/-- A rewrite of a device record that the registry does not notice. -/
structure Keeps (d d' : Device) : Prop where
  deviceId : d'.deviceId = d.deviceId
  adapter : d'.adapter = d.adapter
  back : d'.connection.device = d.connection.device
  known : d.state ≠ .notFound → d'.state ≠ .notFound
  counted : 0 < d.referenceCounter → 0 < d'.referenceCounter

section

variable {w : World} {a b p : Nat} {f : Device → Device}

theorem cell_modifyDevice (q : Nat) :
    (modifyDevice w p f).devices.cell q =
      if q = p then (w.devices.cell p).map f else w.devices.cell q :=
  modify_cell ..

theorem key_modifyDevice (hf : ∀ d, w.devices.cell p = some d → (f d).deviceId = d.deviceId)
    (q : Nat) : key (modifyDevice w p f) q = key w q := by
  unfold key
  rw [cell_modifyDevice]
  by_cases hq : q = p
  · subst q
    cases hd : w.devices.cell p with
    | none => simp
    | some d => simp [hf d hd]
  · simp [hq]

theorem listed_modifyDevice (hf : ∀ d, w.devices.cell p = some d → Keeps d (f d)) {q : Nat}
    (h : ∃ d, Listed w a q d) : ∃ d, Listed (modifyDevice w p f) a q d := by
  obtain ⟨d, hd⟩ := h
  by_cases hq : q = p
  · subst q
    have hk := hf d hd.cell
    refine ⟨f d, ?_, ?_, ?_, hk.known hd.known, hk.counted hd.counted⟩
    · simp [cell_modifyDevice, hd.cell]
    · rw [hk.adapter, hd.adapter]
    · rw [hk.back, hd.back]
  · refine ⟨d, ?_, hd.adapter, hd.back, hd.known, hd.counted⟩
    simp [cell_modifyDevice, hq, hd.cell]

theorem registryOk_modifyDevice (h : RegistryOk w a)
    (hf : ∀ d, w.devices.cell p = some d → Keeps d (f d)) :
    RegistryOk (modifyDevice w p f) a where
  listed q hq := listed_modifyDevice hf (h.listed q hq)
  distinct := by
    have hk : key (modifyDevice w p f) = key w :=
      funext (key_modifyDevice (fun d hd => (hf d hd).deviceId))
    rw [hk]
    exact h.distinct

theorem wellFormed_modifyDevice (h : WellFormed w)
    (hf : ∀ d, w.devices.cell p = some d → Keeps d (f d)) : WellFormed (modifyDevice w p f) :=
  ⟨h.nodup, h.live, fun a ha => registryOk_modifyDevice (h.ok a ha) hf⟩

theorem registryOk_frame {w' : World} (h : RegistryOk w a) (hd : devicesOf w' a = devicesOf w a)
    (hm : ∀ p ∈ devicesOf w a, w'.devices.cell p = w.devices.cell p) : RegistryOk w' a := by
  refine ⟨fun p hp => ?_, ?_⟩
  · rw [hd] at hp
    obtain ⟨d, hl⟩ := h.listed p hp
    exact ⟨d, (hm p hp).trans hl.cell, hl.adapter, hl.back, hl.known, hl.counted⟩
  · rw [hd, List.map_congr_left (g := key w)]
    · exact h.distinct
    · intro p hp
      rw [key, key, hm p hp]

/-- The registry is the list of adapters, their device lists and the records in them. -/
theorem wellFormed_frame {w' : World} (h : WellFormed w) (hl : w'.adapterList = w.adapterList)
    (hc : ∀ a ∈ w.adapterList, ∃ ad, w'.adapters.cell a = some ad)
    (hd : ∀ a ∈ w.adapterList, devicesOf w' a = devicesOf w a)
    (hm : ∀ a ∈ w.adapterList, ∀ p ∈ devicesOf w a, w'.devices.cell p = w.devices.cell p) :
    WellFormed w' := by
  refine ⟨hl ▸ h.nodup, fun a ha => hc a (hl ▸ ha), fun a ha => ?_⟩
  rw [hl] at ha
  exact registryOk_frame (h.ok a ha) (hd a ha) (hm a ha)

theorem wellFormed_congr {w' : World} (h : WellFormed w) (hl : w'.adapterList = w.adapterList)
    (hc : ∀ a ∈ w.adapterList, ∃ ad, w'.adapters.cell a = some ad)
    (hd : ∀ a, devicesOf w' a = devicesOf w a) (hm : w'.devices = w.devices) : WellFormed w' :=
  wellFormed_frame h hl hc (fun a _ => hd a) (fun _ _ p _ => by rw [hm])

theorem devicesOf_append (hl : ∃ ad, w.adapters.cell a = some ad) (d : Device) :
    devicesOf (appendDevice w a d) a = devicesOf w a ++ [w.devices.next] := by
  obtain ⟨ad, hl⟩ := hl
  simp [devicesOf, appendDevice, modifyAdapter, hl]

theorem devicesOf_append_ne (hb : b ≠ a) (d : Device) :
    devicesOf (appendDevice w a d) b = devicesOf w b := by
  simp [devicesOf, appendDevice, modifyAdapter, hb]

theorem listed_append {q : Nat} {d e : Device} (h : Listed w a q d) :
    Listed (appendDevice w b e) a q d :=
  ⟨alloc_keeps h.cell, h.adapter, h.back, h.known, h.counted⟩

theorem key_append {q : Nat} {d e : Device} (h : Listed w a q d) :
    key (appendDevice w b e) q = key w q := by
  unfold key
  rw [(listed_append (b := b) (e := e) h).cell, h.cell]

theorem listed_new (id : CString) {new : DeviceState} (hn : new ≠ .notFound) :
    Listed (appendDevice w a (newDevice w a id new)) a w.devices.next (newDevice w a id new) :=
  ⟨alloc_self .., rfl, rfl, hn, Nat.one_pos⟩

theorem registryOk_append_ne (h : RegistryOk w b) (hb : b ≠ a) (e : Device) :
    RegistryOk (appendDevice w a e) b := by
  have hl := devicesOf_append_ne (w := w) hb e
  constructor
  · intro q hq
    rw [hl] at hq
    obtain ⟨d, hd⟩ := h.listed q hq
    exact ⟨d, listed_append hd⟩
  · rw [hl, List.map_congr_left (g := key w)]
    · exact h.distinct
    · intro q hq
      obtain ⟨d, hd⟩ := h.listed q hq
      exact key_append hd

theorem registryOk_append (h : RegistryOk w a) (hl : ∃ ad, w.adapters.cell a = some ad)
    {id : CString} (hf : findDeviceWithDeviceId w a id = none) {new : DeviceState}
    (hn : new ≠ .notFound) : RegistryOk (appendDevice w a (newDevice w a id new)) a := by
  have hd := devicesOf_append hl (newDevice w a id new)
  have hnew := listed_new (w := w) (a := a) id hn
  constructor
  · intro q hq
    rw [hd, List.mem_append, List.mem_singleton] at hq
    rcases hq with hq | rfl
    · obtain ⟨d, hq⟩ := h.listed q hq
      exact ⟨d, listed_append hq⟩
    · exact ⟨_, hnew⟩
  · have hold : (devicesOf w a).map (key (appendDevice w a (newDevice w a id new))) =
        (devicesOf w a).map (key w) := by
      apply List.map_congr_left
      intro q hq
      obtain ⟨d, hq⟩ := h.listed q hq
      exact key_append hq
    have hkey : key (appendDevice w a (newDevice w a id new)) w.devices.next = some (fold id) := by
      rw [key, hnew.cell]
      rfl
    rw [hd, List.map_append, hold, List.map_singleton, hkey, List.nodup_append]
    refine ⟨h.distinct, List.nodup_singleton _, ?_⟩
    intro k hk j hj he
    rw [List.mem_singleton] at hj
    subst j k
    exact find_none_iff.mp hf hk

/-- The world after a device has left the list and the list's reference on it is dropped. -/
abbrev dropDevice (w : World) (a p : Nat) : World := gattlibDeviceUnref (removeDevice w a p) p

theorem unref_adapters (w : World) (p : Nat) : (gattlibDeviceUnref w p).adapters = w.adapters := by
  unfold gattlibDeviceUnref
  cases w.devices.cell p with
  | none => rfl
  | some d =>
    dsimp only
    split <;> rfl

theorem unref_cell_ne (w : World) {p q : Nat} (hq : q ≠ p) :
    (gattlibDeviceUnref w p).devices.cell q = w.devices.cell q := by
  unfold gattlibDeviceUnref
  cases w.devices.cell p with
  | none => rfl
  | some d =>
    dsimp only
    split
    · rw [cell_modifyDevice, if_neg hq]
    · exact free_ne _ hq

theorem devicesOf_drop : devicesOf (dropDevice w a p) a = (devicesOf w a).erase p := by
  unfold devicesOf dropDevice
  rw [unref_adapters]
  cases h : w.adapters.cell a with
  | none => simp [removeDevice, modifyAdapter, h]
  | some ad => simp [removeDevice, modifyAdapter, h]

theorem devicesOf_drop_ne (hb : b ≠ a) : devicesOf (dropDevice w a p) b = devicesOf w b := by
  unfold devicesOf dropDevice
  rw [unref_adapters]
  simp [removeDevice, modifyAdapter, hb]

theorem cell_drop_ne {q : Nat} (hq : q ≠ p) :
    (dropDevice w a p).devices.cell q = w.devices.cell q :=
  unref_cell_ne _ hq

theorem registryOk_drop_of {l : List Nat} (h : RegistryOk w b)
    (hl : devicesOf (dropDevice w a p) b = l) (hs : l.Sublist (devicesOf w b)) (hp : p ∉ l) :
    RegistryOk (dropDevice w a p) b := by
  have hcell : ∀ q ∈ l, (dropDevice w a p).devices.cell q = w.devices.cell q :=
    fun q hq => cell_drop_ne (fun he => hp (he ▸ hq))
  constructor
  · intro q hq
    rw [hl] at hq
    obtain ⟨d, hd⟩ := h.listed q (hs.subset hq)
    exact ⟨d, (hcell q hq).trans hd.cell, hd.adapter, hd.back, hd.known, hd.counted⟩
  · rw [hl, List.map_congr_left (g := key w)]
    · exact h.distinct.sublist (hs.map _)
    · intro q hq
      rw [key, hcell q hq, key]

theorem registryOk_drop (h : RegistryOk w a) : RegistryOk (dropDevice w a p) a :=
  registryOk_drop_of h devicesOf_drop List.erase_sublist
    (fun hp => ((List.Nodup.of_map _ h.distinct).not_mem_erase) hp)

theorem registryOk_drop_ne (h : RegistryOk w b) (hb : b ≠ a) {d : Device} (hd : Listed w a p d) :
    RegistryOk (dropDevice w a p) b := by
  refine registryOk_drop_of h (devicesOf_drop_ne hb) (List.Sublist.refl _) (fun hp => ?_)
  obtain ⟨e, he⟩ := h.listed p hp
  have hde : d = e := Option.some.inj (hd.cell.symm.trans he.cell)
  exact hb (he.adapter.symm.trans (hde ▸ hd.adapter))

end

end Gattlib.RegistryFacts
