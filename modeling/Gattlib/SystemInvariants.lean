import Gattlib.Frames

namespace Gattlib.SystemInvariants

open Library.Memory Library.Resources Library.Transition Gattlib.Strings Gattlib.State
open Gattlib.Registry Gattlib.RegistryFacts Gattlib.Connection Gattlib.Events Gattlib.Effects
open Gattlib.Changes Gattlib.Invariants Gattlib.Scan Gattlib.Adapters Gattlib.StepOutcomes
open Gattlib.Frames

/-- The invariant of the connection side, and no adapter in memory but the listed ones. -/
structure SystemSound (w : World) : Prop where
  sound : Sound w
  listed : ∀ a ad, w.adapters.cell a = some ad → a ∈ w.adapterList

section

variable {w w' : World} {a b c p : Nat} {ad : Adapter}

theorem systemSound_congr (h : SystemSound w) (hl : w'.adapterList = w.adapterList)
    (hc : ∀ a, (∃ ad, w'.adapters.cell a = some ad) ↔ ∃ ad, w.adapters.cell a = some ad)
    (hd : ∀ a, devicesOf w' a = devicesOf w a) (hm : w'.devices = w.devices)
    (hr : w'.connectedRunning = w.connectedRunning) : SystemSound w' := by
  refine ⟨sound_congr h.sound hl (fun a ha => ?_) hd hm hr, fun a ad had => ?_⟩
  · rw [hc]
    exact h.sound.wellFormed.live a ha
  · obtain ⟨ad', had'⟩ := (hc a).mp ⟨ad, had⟩
    rw [hl]
    exact h.listed a ad' had'

/-- The counters of an adapter may change. -/
theorem systemSound_adapter (h : SystemSound w) (a : Nat) {f : Adapter → Adapter}
    (hf : ∀ ad, (f ad).devices = ad.devices) : SystemSound (modifyAdapter w a f) := by
  have hmap : ∀ b, ((modifyAdapter w a f).adapters.cell b).map Adapter.devices =
      (w.adapters.cell b).map Adapter.devices := fun b => modify_map w.adapters a b hf
  exact systemSound_congr h rfl (fun b => live_of_map (hmap b))
    (fun b => congrArg (Option.getD · []) (hmap b)) rfl rfl

theorem systemSound_scan (h : SystemSound w) (hs : ScanFrame w w') : SystemSound w' := by
  refine ⟨scanFrame_sound hs h.sound, fun a ad had => ?_⟩
  obtain ⟨ad', had'⟩ := (live_of_map (hs.adapters a)).mp ⟨ad, had⟩
  have hlist := congrArg World.adapterList hs.outside
  have hl : w'.adapterList = w.adapterList := hlist
  rw [hl]
  exact h.listed a ad' had'

theorem systemSound_device {e : DeviceEvent} (h : SystemSound w)
    (hs : deviceStep w e = some w') : SystemSound w' := by
  have hframe := deviceStep_frame h.sound.wellFormed hs
  refine ⟨deviceStep_sound h.sound hs, fun a ad had => ?_⟩
  obtain ⟨ad', had'⟩ := (live_of_map (hframe.adapters a)).mp ⟨ad, had⟩
  have hlist := congrArg World.adapterList hframe.outside
  have hl : w'.adapterList = w.adapterList := hlist
  rw [hl]
  exact h.listed a ad' had'

/-! An adapter is appended to the list. -/

theorem next_not_listed (h : WellFormed w) : w.adapters.next ∉ w.adapterList := by
  intro hm
  obtain ⟨ad, had⟩ := h.live _ hm
  rw [cell_next] at had
  cases had

theorem devicesOf_open (hd : ad.devices = []) (b : Nat) :
    devicesOf { w with
      adapters := alloc w.adapters ad
      adapterList := w.adapterList ++ [w.adapters.next] } b = devicesOf w b := by
  by_cases hb : b = w.adapters.next
  · subst b
    simp [devicesOf, hd]
  · simp [devicesOf, alloc_ne w.adapters ad hb]

theorem valid_open (hd : ad.devices = []) (p : Nat) :
    gattlibConnectionIsValid { w with
      adapters := alloc w.adapters ad
      adapterList := w.adapterList ++ [w.adapters.next] } p = gattlibConnectionIsValid w p := by
  have hnil : devicesOf w w.adapters.next = [] := by simp [devicesOf]
  rw [Bool.eq_iff_iff, valid_mem_iff, valid_mem_iff]
  constructor
  · rintro ⟨b, hb, hp⟩
    rw [devicesOf_open hd] at hp
    rcases List.mem_append.mp hb with hb | hb
    · exact ⟨b, hb, hp⟩
    · rw [List.mem_singleton.mp hb, hnil] at hp
      cases hp
  · rintro ⟨b, hb, hp⟩
    refine ⟨b, List.mem_append_left _ hb, ?_⟩
    rw [devicesOf_open hd]
    exact hp

theorem systemSound_open (h : SystemSound w) (hd : ad.devices = []) :
    SystemSound { w with
      adapters := alloc w.adapters ad
      adapterList := w.adapterList ++ [w.adapters.next] } := by
  have hw := h.sound.wellFormed
  refine ⟨⟨⟨?_, fun b hb => ?_, fun b hb => ?_⟩, fun p d hp => ?_, h.sound.alive⟩,
    fun b bd hbd => ?_⟩
  · rw [List.nodup_append]
    refine ⟨hw.nodup, List.nodup_singleton _, ?_⟩
    rintro x hx y hy rfl
    rw [List.mem_singleton.mp hy] at hx
    exact next_not_listed hw hx
  · rcases List.mem_append.mp hb with hb | hb
    · obtain ⟨bd, hbd⟩ := hw.live b hb
      exact ⟨bd, alloc_keeps hbd⟩
    · rw [List.mem_singleton.mp hb]
      exact ⟨ad, alloc_self _ _⟩
  · rcases List.mem_append.mp hb with hb | hb
    · exact registryOk_frame (hw.ok b hb) (devicesOf_open hd b) (fun _ _ => rfl)
    · have hnil : devicesOf w b = [] := by
        rw [List.mem_singleton.mp hb]
        simp [devicesOf]
      constructor
      · rw [devicesOf_open hd, hnil]
        simp
      · rw [devicesOf_open hd, hnil]
        exact List.nodup_nil
  · rw [valid_open hd]
    exact h.sound.counted p d hp
  · by_cases hb : b = w.adapters.next
    · exact List.mem_append_right _ (List.mem_singleton.mpr hb)
    · exact List.mem_append_left _ (h.listed b bd ((alloc_ne _ _ hb).symm.trans hbd))

/-! An adapter is freed with the devices of its list. -/

theorem deviceFree_frame (w : World) (p : Nat) :
    ∃ devices, gattlibDeviceFree w p = { w with devices := devices } := by
  unfold gattlibDeviceFree
  split
  · exact unref_frame w p
  · exact ⟨w.devices, rfl⟩

theorem devicesFree_frame (l : List Nat) (w : World) :
    ∃ devices, l.foldl gattlibDeviceFree w = { w with devices := devices } := by
  induction l generalizing w with
  | nil => exact ⟨w.devices, rfl⟩
  | cons p l ih =>
    obtain ⟨devices, hp⟩ := deviceFree_frame w p
    obtain ⟨devices', hl⟩ := ih { w with devices := devices }
    refine ⟨devices', ?_⟩
    rw [List.foldl_cons, hp, hl]

theorem deviceFree_cell_ne (w : World) (hp : p ≠ c) :
    (gattlibDeviceFree w c).devices.cell p = w.devices.cell p := by
  unfold gattlibDeviceFree
  split
  · exact unref_cell_ne w hp
  · rfl

theorem devicesFree_cell_ne {l : List Nat} (hp : p ∉ l) (w : World) :
    (l.foldl gattlibDeviceFree w).devices.cell p = w.devices.cell p := by
  induction l generalizing w with
  | nil => rfl
  | cons c l ih =>
    rw [List.foldl_cons, ih (fun hm => hp (List.mem_cons_of_mem _ hm))]
    exact deviceFree_cell_ne w (fun he => hp (he ▸ List.mem_cons_self))

/-- What the call leaves of a device, given its record. -/
theorem deviceFree_cell {d : Device} (hd : w.devices.cell c = some d) :
    (gattlibDeviceFree w c).devices.cell c =
      if d.state = .disconnected then
        if d.referenceCounter - 1 > 0 then
          some { d with referenceCounter := d.referenceCounter - 1 }
        else none
      else some d := by
  have hs : stateOf w c = d.state := by simp [stateOf, hd]
  by_cases hdis : d.state = .disconnected
  · have hfree : gattlibDeviceFree w c = gattlibDeviceUnref w c := by
      rw [gattlibDeviceFree, hs, hdis]
    rw [if_pos hdis, hfree]
    exact unref_cell hd
  · rw [if_neg hdis, gattlibDeviceFree, hs]
    cases hst : d.state with
    | disconnected => exact absurd hst hdis
    | notFound | connecting | connected | disconnecting => exact hd

theorem devicesFree_cell {l : List Nat} (hn : l.Nodup) (hp : p ∈ l) (w : World) {d : Device}
    (hd : w.devices.cell p = some d) :
    (l.foldl gattlibDeviceFree w).devices.cell p = (gattlibDeviceFree w p).devices.cell p := by
  induction l generalizing w with
  | nil => cases hp
  | cons c l ih =>
    obtain ⟨hc, hn⟩ := List.nodup_cons.mp hn
    rw [List.foldl_cons]
    by_cases he : p = c
    · subst p
      exact devicesFree_cell_ne hc _
    · have hm : p ∈ l := (List.mem_cons.mp hp).resolve_left he
      have hd' := (deviceFree_cell_ne w he).trans hd
      rw [ih hn hm _ hd', deviceFree_cell hd', deviceFree_cell hd]

theorem adapterFree_frame (w : World) (a : Nat) :
    ∃ devices, adapterFree w a = { w with
      devices := devices
      adapterList := w.adapterList.erase a
      adapters := free w.adapters a
      freedAdapters := a :: w.freedAdapters } := by
  obtain ⟨devices, he⟩ := devicesFree_frame (devicesOf w a) w
  refine ⟨devices, ?_⟩
  unfold adapterFree gattlibDevicesFree
  rw [he]

theorem adapterFree_cell (w : World) (a b : Nat) :
    (adapterFree w a).adapters.cell b = if b = a then none else w.adapters.cell b := by
  obtain ⟨devices, he⟩ := adapterFree_frame w a
  rw [he]
  by_cases hb : b = a
  · rw [if_pos hb, hb]
    exact free_self _ _
  · rw [if_neg hb]
    exact free_ne _ hb

theorem adapterFree_list (w : World) (a : Nat) :
    (adapterFree w a).adapterList = w.adapterList.erase a := by
  obtain ⟨devices, he⟩ := adapterFree_frame w a
  rw [he]

theorem adapterFree_running (w : World) (a : Nat) :
    (adapterFree w a).connectedRunning = w.connectedRunning := by
  obtain ⟨devices, he⟩ := adapterFree_frame w a
  rw [he]

theorem devicesOf_freed (hb : b ≠ a) : devicesOf (adapterFree w a) b = devicesOf w b := by
  unfold devicesOf
  rw [adapterFree_cell, if_neg hb]

/-- The lists of two adapters have no device in common. -/
theorem devicesOf_disjoint (h : WellFormed w) (ha : a ∈ w.adapterList) (hb : b ∈ w.adapterList)
    (hne : b ≠ a) (hp : p ∈ devicesOf w b) : p ∉ devicesOf w a := by
  intro hpa
  obtain ⟨d, hd⟩ := (h.ok b hb).listed p hp
  obtain ⟨e, he⟩ := (h.ok a ha).listed p hpa
  have hde : d = e := Option.some.inj (hd.cell.symm.trans he.cell)
  exact hne (by rw [← hd.adapter, hde, he.adapter])

theorem wellFormed_freed (h : WellFormed w) (ha : a ∈ w.adapterList) :
    WellFormed (adapterFree w a) := by
  have hmem : ∀ b, b ∈ (adapterFree w a).adapterList → b ≠ a ∧ b ∈ w.adapterList := by
    intro b hb
    rw [adapterFree_list] at hb
    exact (List.Nodup.mem_erase_iff h.nodup).mp hb
  refine ⟨?_, fun b hb => ?_, fun b hb => ?_⟩
  · rw [adapterFree_list]
    exact h.nodup.erase a
  · obtain ⟨hne, hb⟩ := hmem b hb
    rw [adapterFree_cell, if_neg hne]
    exact h.live b hb
  · obtain ⟨hne, hb⟩ := hmem b hb
    apply registryOk_frame (h.ok b hb) (devicesOf_freed hne)
    intro p hp
    exact devicesFree_cell_ne (devicesOf_disjoint h ha hb hne hp) w

theorem valid_freed (h : WellFormed w) (ha : a ∈ w.adapterList) (p : Nat) :
    gattlibConnectionIsValid (adapterFree w a) p = true ↔
      gattlibConnectionIsValid w p = true ∧ p ∉ devicesOf w a := by
  rw [valid_mem_iff, valid_mem_iff, adapterFree_list]
  constructor
  · rintro ⟨b, hb, hp⟩
    obtain ⟨hne, hb⟩ := (List.Nodup.mem_erase_iff h.nodup).mp hb
    rw [devicesOf_freed hne] at hp
    exact ⟨⟨b, hb, hp⟩, devicesOf_disjoint h ha hb hne hp⟩
  · rintro ⟨⟨b, hb, hp⟩, hpa⟩
    have hne : b ≠ a := fun he => hpa (he ▸ hp)
    refine ⟨b, (List.Nodup.mem_erase_iff h.nodup).mpr ⟨hne, hb⟩, ?_⟩
    rw [devicesOf_freed hne]
    exact hp

/-- The reference of the list on a device goes with the adapter. -/
theorem counted_freed (h : Sound w) (ha : a ∈ w.adapterList) (hp : p ∈ devicesOf w a)
    {d : Device} (hd : (adapterFree w a).devices.cell p = some d) :
    w.connectedRunning p ≤ d.referenceCounter := by
  have hvalid := valid_mem_iff.mpr ⟨a, ha, hp⟩
  obtain ⟨e, he⟩ := (h.wellFormed.ok a ha).listed p hp
  have hcount := h.counted p e he.cell
  have hnodup := List.Nodup.of_map _ (h.wellFormed.ok a ha).distinct
  have hfree : (adapterFree w a).devices.cell p = (gattlibDeviceFree w p).devices.cell p :=
    devicesFree_cell hnodup hp w he.cell
  rw [hfree, deviceFree_cell he.cell] at hd
  rw [hvalid, if_pos rfl] at hcount
  split at hd
  · split at hd
    · cases hd
      show w.connectedRunning p ≤ e.referenceCounter - 1
      omega
    · cases hd
  · cases hd
    omega

theorem systemSound_freed (h : SystemSound w) (ha : a ∈ w.adapterList) :
    SystemSound (adapterFree w a) := by
  have hw := h.sound.wellFormed
  refine ⟨⟨wellFormed_freed hw ha, fun p d hd => ?_, fun p hn => ?_⟩, fun b bd hbd => ?_⟩
  · rw [adapterFree_running]
    by_cases hp : p ∈ devicesOf w a
    · have hv : gattlibConnectionIsValid (adapterFree w a) p = false := by
        rw [Bool.eq_false_iff, Ne, valid_freed hw ha]
        exact fun hv => hv.2 hp
      rw [hv, if_neg (by decide)]
      exact counted_freed h.sound ha hp hd
    · have hv : gattlibConnectionIsValid (adapterFree w a) p = gattlibConnectionIsValid w p := by
        rw [Bool.eq_iff_iff, valid_freed hw ha]
        exact ⟨fun hv => hv.1, fun hv => ⟨hv, hp⟩⟩
      rw [hv]
      exact h.sound.counted p d ((devicesFree_cell_ne hp w).symm.trans hd)
  · rw [adapterFree_running]
    by_cases hp : p ∈ devicesOf w a
    · obtain ⟨e, he⟩ := (hw.ok a ha).listed p hp
      have hcount := h.sound.counted p e he.cell
      have hnodup := List.Nodup.of_map _ (hw.ok a ha).distinct
      have hfree : (adapterFree w a).devices.cell p = (gattlibDeviceFree w p).devices.cell p :=
        devicesFree_cell hnodup hp w he.cell
      rw [hfree, deviceFree_cell he.cell] at hn
      rw [valid_mem_iff.mpr ⟨a, ha, hp⟩, if_pos rfl] at hcount
      split at hn
      · split at hn
        · cases hn
        · omega
      · cases hn
    · exact h.sound.alive p ((devicesFree_cell_ne hp w).symm.trans hn)
  · rw [adapterFree_cell] at hbd
    by_cases hb : b = a
    · rw [if_pos hb] at hbd
      cases hbd
    · rw [if_neg hb] at hbd
      rw [adapterFree_list]
      exact (List.Nodup.mem_erase_iff hw.nodup).mpr ⟨hb, h.listed b bd hbd⟩

/-! The steps of opening and closing. -/

theorem systemSound_counts (h : SystemSound w) (op cl wa le ho dc : Nat → Nat)
    (po : List CString) (nu st : Nat) :
    SystemSound { w with
      opens := op
      closes := cl
      closeWaiting := wa
      closeLeaving := le
      discoveredHolding := ho
      discoveredCreated := dc
      pendingOpens := po
      nullThreadUses := nu
      staleUnrefs := st } :=
  systemSound_congr h rfl (fun _ => Iff.rfl) (fun _ => rfl) rfl rfl

theorem systemSound_unref (h : SystemSound w) (a : Nat) :
    SystemSound (gattlibAdapterUnref w a) := by
  unfold gattlibAdapterUnref
  cases ha : w.adapters.cell a with
  | none => exact systemSound_counts h _ _ _ _ _ _ _ _ _
  | some ad =>
    dsimp only
    split
    · exact systemSound_adapter h a (fun _ => rfl)
    · exact systemSound_freed h (h.listed a ad ha)

theorem systemSound_append (h : SystemSound w) (name : CString) (proxy : Nat) :
    SystemSound (gattlibAdapterOpenAppend w name proxy) := by
  have hnew : (newAdapter (adapterObjectPath name) name proxy).devices = [] := rfl
  exact systemSound_counts (systemSound_open h hnew) _ _ _ _ _ _ _ _ _

theorem systemSound_effect (h : SystemSound w) (he : AdapterEffect w w') : SystemSound w' := by
  cases he with
  | counted op cl wa le ho dc po nu st => exact systemSound_counts h op cl wa le ho dc po nu st
  | referenced a => exact systemSound_adapter h a (fun _ => rfl)
  | unreferenced a => exact systemSound_unref h a
  | disabled a discovering stop hv =>
    exact systemSound_scan h (scanFrame_disable (scanFrame_refl w) a discovering stop)

theorem systemSound_adapterStep {e : AdapterEvent} (h : SystemSound w)
    (hs : adapterStep w e = some w') : SystemSound w' := by
  cases adapterStep_outcome hs with
  | appended name proxy => exact systemSound_append h name proxy
  | effects hs => exact effects_keep h hs systemSound_effect

theorem systemStep_sound {e : SystemEvent} (h : SystemSound w) (hs : systemStep w e = some w') :
    SystemSound w' := by
  cases e with
  | device e => exact systemSound_device h hs
  | scan e => exact systemSound_scan h (scanStep_frame hs)
  | adapter e => exact systemSound_adapterStep h hs

theorem opened_empty : Opened {} :=
  ⟨List.nodup_nil, by simp, fun _ => rfl, rfl, rfl, rfl, fun _ => rfl, rfl, rfl, rfl⟩

theorem started_sound (h : Started w) : SystemSound w := by
  cases h
  exact ⟨opened_sound opened_empty, fun a ad had => by cases had⟩

end

theorem system_sound : Preserves systemStep AnyStep SystemSound :=
  fun _ _ _ h _ hs => systemStep_sound h hs

/-- The default adapter, opened by the library itself. -/
theorem opened_run : Run systemStep Started
    [({ pendingOpens := [hci0] }, .adapter (.openAppend hci0 1),
        gattlibAdapterOpenAppend { pendingOpens := [hci0] } hci0 1),
      ({}, .adapter (.openLookup hci0), { pendingOpens := [hci0] })]
    (gattlibAdapterOpenAppend { pendingOpens := [hci0] } hci0 1) :=
  .next (.next (.start rfl) rfl) rfl

def scanRequest : ScanRequest where
  discoveredDeviceCb := some 1
  timeout := 0
  userData := 0

def scanAnswer : EnableOutcome where
  manager := some 1
  thread := true

end Gattlib.SystemInvariants
