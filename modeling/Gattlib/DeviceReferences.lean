import Gattlib.Invariants
import Gattlib.Library.References

namespace Gattlib.DeviceReferences

open Library.Memory Library.Resources Library.Transition Library.References Gattlib.Strings
open Gattlib.State Gattlib.Registry Gattlib.RegistryFacts Gattlib.Connection Gattlib.Events
open Gattlib.Effects Gattlib.Changes Gattlib.Invariants

/-- The setter can be called at any time, for any device and any state. -/
inductive ReferenceEvent
  | setState (adapter : Nat) (deviceId : CString) (newState : DeviceState) (calloc : Bool)
  | device (e : DeviceEvent)

def referenceStep (w : World) : ReferenceEvent → Option World
  | .setState adapter deviceId newState calloc =>
      some (gattlibDeviceSetState w adapter deviceId newState calloc).2
  | .device e => deviceStep w e

/-- The entry in the list of the adapter, and the threads between `gattlib_device_ref`
and `gattlib_device_unref`. -/
def references (w : World) (adapter device : Nat) : Nat :=
  (if device ∈ devicesOf w adapter then 1 else 0) + w.connectedRunning device

def freedBy (w w' : World) (device : Nat) : Bool :=
  (w.devices.cell device).isSome && (w'.devices.cell device).isNone

/-- The ledger of the references on devices, at the end of a run. -/
structure ReferencesKept (tr : List (World × ReferenceEvent × World)) (w : World) : Prop where
  counted : ∀ p d, w.devices.cell p = some d → d.referenceCounter = references w d.adapter p
  listed : ∀ a ∈ w.adapterList, ∀ p ∈ devicesOf w a, ∃ d, w.devices.cell p = some d
  running : ∀ p, 0 < w.connectedRunning p → ∃ d, w.devices.cell p = some d
  freed : ∀ x ∈ tr, ∀ p d, x.1.devices.cell p = some d →
    (x.2.2.devices.cell p = none ↔ references x.2.2 d.adapter p = 0)
  once : ∀ p, tr.countP (fun x => freedBy x.1 x.2.2 p) ≤ 1
  gone : ∀ x ∈ tr, ∀ p d, x.1.devices.cell p = some d → w.devices.cell p = none →
    tr.countP (fun x => freedBy x.1 x.2.2 p) = 1

/-- A reference for a list that has the device, and one for each thread. -/
def holders (w : World) (p : Nat) : Nat :=
  (if gattlibConnectionIsValid w p then 1 else 0) + w.connectedRunning p

def view (w : World) : Counts where
  next := w.devices.next
  count p := (w.devices.cell p).map Device.referenceCounter
  holders := holders w

/-- What a step does to the references, and to the adapter of each device. -/
structure Moves (w w' : World) : Prop where
  counts : Step (view w) (view w')
  opened : w'.adapterList = w.adapterList
  adapter : ∀ p d', w'.devices.cell p = some d' →
    (∃ d, w.devices.cell p = some d ∧ d'.adapter = d.adapter) ∨
      (w.devices.cell p = none ∧ d'.adapter ∈ w.adapterList)

section

variable {w w' : World} {a c p : Nat} {d d' : Device} {id : CString}
  {l : Ledger ConnectionResource}

theorem view_count (hd : w.devices.cell c = some d) :
    (view w).count c = some d.referenceCounter :=
  congrArg (Option.map Device.referenceCounter) hd

theorem moves_same (hv : view w' = view w) (hl : w'.adapterList = w.adapterList)
    (hd : ∀ p, (w'.devices.cell p).map Device.adapter = (w.devices.cell p).map Device.adapter) :
    Moves w w' := by
  refine ⟨hv ▸ Step.same, hl, fun p d' hp => Or.inl ?_⟩
  have hp' := hd p
  rw [hp] at hp'
  obtain ⟨d, hd, he⟩ := Option.map_eq_some_iff.mp hp'.symm
  exact ⟨d, hd, he.symm⟩

/-- Nothing but the registry, the counters and the running threads matters. -/
theorem view_congr (hl : w'.adapterList = w.adapterList)
    (hd : ∀ a, devicesOf w' a = devicesOf w a) (hn : w'.devices.next = w.devices.next)
    (hc : ∀ p, (w'.devices.cell p).map Device.referenceCounter =
      (w.devices.cell p).map Device.referenceCounter)
    (hr : w'.connectedRunning = w.connectedRunning) : view w' = view w := by
  apply Counts.ext
  · exact hn
  · funext p
    exact hc p
  · funext p
    show holders w' p = holders w p
    unfold holders
    rw [valid_congr hl hd, hr]

theorem moves_congr (hl : w'.adapterList = w.adapterList)
    (hd : ∀ a, devicesOf w' a = devicesOf w a) (hm : w'.devices = w.devices)
    (hr : w'.connectedRunning = w.connectedRunning) : Moves w w' :=
  moves_same (view_congr hl hd (by rw [hm]) (fun _ => by rw [hm]) hr) hl (fun _ => by rw [hm])

theorem moves_store (hk : w.devices.cell c = some d) (ha : d'.adapter = d.adapter)
    (hr : d'.referenceCounter = d.referenceCounter) : Moves w (store w c d' l) := by
  have hmap : ∀ {β : Type} (f : Device → β), f d' = f d → ∀ p,
      ((store w c d' l).devices.cell p).map f = (w.devices.cell p).map f := by
    intro β f hf p
    rw [store_cell hk]
    by_cases hpc : p = c
    · rw [if_pos hpc, hpc, hk]
      exact congrArg some hf
    · rw [if_neg hpc]
  exact moves_same (view_congr rfl (fun _ => rfl) rfl (hmap _ hr) rfl) rfl (hmap _ ha)

theorem dead_unlisted (h : Sound w) (hp : w.devices.cell p = none) :
    gattlibConnectionIsValid w p = false := by
  rw [Bool.eq_false_iff, Ne, valid_mem_iff]
  rintro ⟨a, ha, hm⟩
  obtain ⟨d, hd⟩ := (h.wellFormed.ok a ha).listed p hm
  cases hp.symm.trans hd.cell

theorem moves_append (h : Sound w) (ha : a ∈ w.adapterList) (id : CString) (new : DeviceState) :
    Moves w (appendDevice w a (newDevice w a id new)) := by
  have hlive := h.wellFormed.live a ha
  have hcell : ∀ p, p ≠ w.devices.next →
      (appendDevice w a (newDevice w a id new)).devices.cell p = w.devices.cell p :=
    fun p hp => alloc_ne _ _ hp
  have hself : (appendDevice w a (newDevice w a id new)).devices.cell w.devices.next =
      some (newDevice w a id new) := alloc_self _ _
  have hview : view (appendDevice w a (newDevice w a id new)) =
      ⟨(view w).next + 1, Function.update (view w).count (view w).next (some 1),
        Function.update (view w).holders (view w).next ((view w).holders (view w).next + 1)⟩ := by
    apply Counts.ext
    · rfl
    · funext p
      show ((appendDevice w a (newDevice w a id new)).devices.cell p).map _ =
        Function.update (view w).count w.devices.next (some 1) p
      by_cases hp : p = w.devices.next
      · rw [hp, hself, Function.update_self]
        rfl
      · rw [hcell p hp, Function.update_of_ne hp]
        rfl
    · funext p
      show holders (appendDevice w a (newDevice w a id new)) p =
        Function.update (holders w) w.devices.next (holders w w.devices.next + 1) p
      by_cases hp : p = w.devices.next
      · subst p
        have hnew : gattlibConnectionIsValid (appendDevice w a (newDevice w a id new))
            w.devices.next = true := by
          refine valid_mem_iff.mpr ⟨a, ha, ?_⟩
          rw [devicesOf_append hlive]
          exact List.mem_append_right _ List.mem_cons_self
        have hold := dead_unlisted h (cell_next w.devices)
        rw [Function.update_self]
        unfold holders
        rw [hnew, hold, if_pos rfl, if_neg Bool.false_ne_true, Nat.zero_add, Nat.add_comm]
        rfl
      · rw [Function.update_of_ne hp]
        unfold holders
        rw [valid_append hlive _ hp]
        rfl
  refine ⟨hview ▸ Step.created, rfl, fun p d' hd' => ?_⟩
  by_cases hp : p = w.devices.next
  · rw [hp, hself] at hd'
    cases hd'
    exact Or.inr ⟨hp ▸ cell_next w.devices, ha⟩
  · rw [hcell p hp] at hd'
    exact Or.inl ⟨d', hd', rfl⟩

theorem unref_next (w : World) (c : Nat) :
    (gattlibDeviceUnref w c).devices.next = w.devices.next := by
  unfold gattlibDeviceUnref
  cases w.devices.cell c with
  | none => rfl
  | some d =>
    dsimp only
    split
    · rfl
    · rfl

/-- What dropping a reference leaves of the counters. -/
theorem unref_counts (hd : w.devices.cell c = some d) :
    (fun p => ((gattlibDeviceUnref w c).devices.cell p).map Device.referenceCounter) =
      Function.update (view w).count c (decremented d.referenceCounter) := by
  funext p
  by_cases hp : p = c
  · rw [hp, unref_cell hd, Function.update_self]
    unfold decremented
    split
    · rfl
    · rfl
  · rw [unref_cell_ne w hp, Function.update_of_ne hp]
    rfl

theorem unref_adapter (hp : (gattlibDeviceUnref w c).devices.cell p = some d') :
    ∃ d, w.devices.cell p = some d ∧ d'.adapter = d.adapter := by
  by_cases hpc : p = c
  · subst p
    cases hd : w.devices.cell c with
    | none =>
      unfold gattlibDeviceUnref at hp
      rw [hd] at hp
      cases hd.symm.trans hp
    | some d =>
      rw [unref_cell hd] at hp
      split at hp
      · cases hp
        exact ⟨d, rfl, rfl⟩
      · cases hp
  · rw [unref_cell_ne w hpc] at hp
    exact ⟨d', hp, rfl⟩

theorem holders_valid (hk : Known w c d) : 0 < holders w c := by
  unfold holders
  rw [known_valid hk, if_pos rfl]
  omega

theorem moves_drop (h : Sound w) (hk : Known w c d) : Moves w (dropDevice w d.adapter c) := by
  obtain ⟨devices, he⟩ := unref_frame (removeDevice w d.adapter c) c
  have hview : view (dropDevice w d.adapter c) =
      ⟨(view w).next, Function.update (view w).count c (decremented d.referenceCounter),
        Function.update (view w).holders c ((view w).holders c - 1)⟩ := by
    apply Counts.ext
    · exact unref_next _ _
    · exact unref_counts (w := removeDevice w d.adapter c) hk.cell
    · funext p
      show holders (dropDevice w d.adapter c) p =
        Function.update (holders w) c (holders w c - 1) p
      have hrun : (dropDevice w d.adapter c).connectedRunning = w.connectedRunning := by
        rw [dropDevice, he]
        rfl
      by_cases hp : p = c
      · subst p
        rw [Function.update_self]
        unfold holders
        rw [valid_drop_self h.wellFormed hk, known_valid hk, hrun, if_pos rfl,
          if_neg Bool.false_ne_true]
        omega
      · rw [Function.update_of_ne hp]
        unfold holders
        rw [valid_drop_ne hp, hrun]
  refine ⟨hview ▸ Step.dropped (view_count hk.cell) (holders_valid hk), ?_, fun p d' hp => ?_⟩
  · rw [dropDevice, he]
    rfl
  · exact Or.inl (unref_adapter (w := removeDevice w d.adapter c) hp)

/-- Threads hold their device besides the list. -/
theorem holders_running (w : World) (c n p : Nat) :
    (if gattlibConnectionIsValid w p then 1 else 0) + Function.update w.connectedRunning c n p =
      Function.update (holders w) c
        ((if gattlibConnectionIsValid w c then 1 else 0) + n) p := by
  by_cases hp : p = c
  · rw [hp, Function.update_self, Function.update_self]
  · rw [Function.update_of_ne hp, Function.update_of_ne hp]
    rfl

theorem moves_referenced (hk : Known w c d) :
    Moves w { store w c (referenced d) l with
      connectedRunning := Function.update w.connectedRunning c (w.connectedRunning c + 1) } := by
  have hcell : ∀ p, (store w c (referenced d) l).devices.cell p =
      if p = c then some (referenced d) else w.devices.cell p := store_cell hk.cell
  have hview : view { store w c (referenced d) l with
      connectedRunning := Function.update w.connectedRunning c (w.connectedRunning c + 1) } =
      ⟨(view w).next, Function.update (view w).count c (some (d.referenceCounter + 1)),
        Function.update (view w).holders c ((view w).holders c + 1)⟩ := by
    apply Counts.ext
    · rfl
    · funext p
      show ((store w c (referenced d) l).devices.cell p).map Device.referenceCounter =
        Function.update (view w).count c (some (d.referenceCounter + 1)) p
      rw [hcell]
      by_cases hp : p = c
      · rw [if_pos hp, hp, Function.update_self]
        rfl
      · rw [if_neg hp, Function.update_of_ne hp]
        rfl
    · funext p
      exact holders_running w c (w.connectedRunning c + 1) p
  refine ⟨hview ▸ Step.taken (view_count hk.cell), rfl, fun p d' hp => Or.inl ?_⟩
  have hp : (store w c (referenced d) l).devices.cell p = some d' := hp
  rw [hcell] at hp
  by_cases hpc : p = c
  · rw [if_pos hpc] at hp
    cases hp
    exact ⟨d, hpc ▸ hk.cell, rfl⟩
  · rw [if_neg hpc] at hp
    exact ⟨d', hp, rfl⟩

theorem moves_returned (h : Sound w) (hr : 0 < w.connectedRunning c) :
    Moves w (connectedHandlerReturns w c) := by
  obtain ⟨d, hd⟩ := alive_of_running h hr
  have hview : view (connectedHandlerReturns w c) =
      ⟨(view w).next, Function.update (view w).count c (decremented d.referenceCounter),
        Function.update (view w).holders c ((view w).holders c - 1)⟩ := by
    apply Counts.ext
    · exact unref_next w c
    · exact unref_counts hd
    · funext p
      have hone := holders_running w c (w.connectedRunning c - 1) p
      rw [← valid_returns w c p, ← Nat.add_sub_assoc hr] at hone
      exact hone
  have hheld : 0 < (view w).holders c := Nat.lt_of_lt_of_le hr (Nat.le_add_left _ _)
  refine ⟨hview ▸ Step.dropped (view_count hd) hheld, ?_, fun p d' hp => ?_⟩
  · exact returns_list w c
  · exact Or.inl (unref_adapter (w := w) hp)

/-- A rewritten device, with what the references do not depend on changed as well. -/
theorem moves_storeFrom {u : World} (hv : view u = view w) (hl : u.adapterList = w.adapterList)
    (hm : u.devices = w.devices) (hk : w.devices.cell c = some d) (ha : d'.adapter = d.adapter)
    (hr : d'.referenceCounter = d.referenceCounter) : Moves w (store u c d' l) := by
  have h : Moves u (store u c d' l) := moves_store (hm ▸ hk) ha hr
  refine ⟨hv ▸ h.counts, h.opened.trans hl, fun p d' hp => ?_⟩
  have ha := h.adapter p d' hp
  rw [hm, hl] at ha
  exact ha

theorem moves_noted (h : Moves w w') (em : Option Emission) (cc dc : Nat → Nat) :
    Moves w (noted w' em cc dc) := ⟨h.counts, h.opened, h.adapter⟩

theorem moves_attempted (hk : Known w c d) (connectCb userData : Nat) (o : ConnectOutcome) :
    Moves w (attempted w c d connectCb userData o) := by
  cases o with
  | noProxy error => exact moves_storeFrom rfl rfl rfl hk.cell rfl rfl
  | refused proxy error => exact moves_storeFrom rfl rfl rfl hk.cell rfl rfl
  | accepted proxy => exact moves_storeFrom rfl rfl rfl hk.cell rfl rfl

theorem change_moves (h : Sound w) {e : DeviceEvent} (hx : Change w e w') : Moves w w' := by
  cases hx with
  | nothing e => exact moves_congr rfl (fun _ => rfl) rfl rfl
  | @appended e a id he ha hf => exact moves_append h ha id _
  | rediscovered hk hid hp => exact moves_store hk.cell rfl rfl
  | removed hk hid hs => exact moves_drop h hk
  | failed hr => exact moves_congr rfl (fun _ => rfl) rfl rfl
  | attempted hk hid hs => exact moves_attempted hk _ _ _
  | unmanaged hk he hm => exact moves_store hk.cell rfl rfl
  | @resolved c d rest o hk he hm =>
    obtain ⟨adapters, hframe, _, hd⟩ := managed_frame w d.adapter o.manager
    have hdevices : (managed w d.adapter o.manager).devices = w.devices := by rw [hframe]
    have hlist : (managed w d.adapter o.manager).adapterList = w.adapterList := by rw [hframe]
    have hview : view (managed w d.adapter o.manager) = view w :=
      view_congr hlist hd (by rw [hdevices]) (fun _ => by rw [hdevices]) (by rw [hframe])
    exact moves_storeFrom hview hlist hdevices hk.cell rfl rfl
  | dropped hk he => exact moves_store hk.cell rfl rfl
  | expired hk hl => exact moves_store hk.cell rfl rfl
  | expiredStale hv hl => exact moves_congr rfl (fun _ => rfl) rfl rfl
  | disconnecting hk hs => exact moves_store hk.cell rfl rfl
  | referenced hk => exact moves_referenced hk
  | dereferenced hr => exact moves_returned h hr
  | registered hk => exact moves_store hk.cell rfl rfl

/-- All that a call of the setter can do. -/
inductive SetOutcome (w : World) : World → Prop
  | nothing : SetOutcome w w
  | appended {a : Nat} {id : CString} {new : DeviceState} (ha : a ∈ w.adapterList)
      (hf : findDeviceWithDeviceId w a id = none) (hn : new ≠ .notFound) :
      SetOutcome w (appendDevice w a (newDevice w a id new))
  | removed {c : Nat} {d : Device} (hk : Known w c d) : SetOutcome w (dropDevice w d.adapter c)
  | changed {c : Nat} {d : Device} {new : DeviceState} (hk : Known w c d) (hn : new ≠ .notFound) :
      SetOutcome w (store w c { d with state := new } w.connectionLedger)

theorem setState_outcome (h : WellFormed w) (a : Nat) (id : CString) (new : DeviceState)
    (calloc : Bool) : SetOutcome w (gattlibDeviceSetState w a id new calloc).2 := by
  by_cases ha : a ∈ w.adapterList
  · cases hf : findDeviceWithDeviceId w a id with
    | none =>
      by_cases hn : new = .notFound
      · rw [hn, setState_removeAbsent ha hf]
        exact .nothing
      · cases calloc with
        | true =>
          rw [setState_absent ha hf hn]
          exact .appended ha hf hn
        | false =>
          rw [setState_noMemory ha hf hn]
          exact .nothing
    | some c =>
      obtain ⟨d, hk, rfl⟩ := find_known h ha hf
      by_cases hn : new = .notFound
      · by_cases hs : stateOf w c = .disconnected
        · rw [hn, setState_remove ha (h.ok _ ha) hf hs]
          exact .removed hk
        · rw [hn, setState_removeBusy ha (h.ok _ ha) hf hs]
          exact .nothing
      · have hset : gattlibDeviceSetState w d.adapter id new calloc =
            (gattlibSuccess, store w c { d with state := new } w.connectionLedger) := by
          rw [setState_present ha (h.ok _ ha) hf hn]
          exact congrArg (Prod.mk _) (modifyDevice_known hk.cell _)
        rw [hset]
        exact .changed hk hn
  · rw [setState_invalid ha]
    exact .nothing

theorem setOutcome_sound (h : Sound w) (hx : SetOutcome w w') : Sound w' := by
  cases hx with
  | nothing => exact h
  | appended ha hf hn => exact sound_append h ha hf hn
  | removed hk => exact sound_drop h hk
  | changed hk hn => exact sound_store h hk (keeps_state (keeps_refl _) hn) (Nat.le_refl _)

theorem setOutcome_moves (h : Sound w) (hx : SetOutcome w w') : Moves w w' := by
  cases hx with
  | nothing => exact moves_congr rfl (fun _ => rfl) rfl rfl
  | appended ha hf hn => exact moves_append h ha _ _
  | removed hk => exact moves_drop h hk
  | changed hk hn => exact moves_store hk.cell rfl rfl

theorem step_sound (h : Sound w) {e : ReferenceEvent} (hs : referenceStep w e = some w') :
    Sound w' := by
  cases e with
  | setState a id new calloc =>
    cases hs
    exact setOutcome_sound h (setState_outcome h.wellFormed a id new calloc)
  | device e => exact deviceStep_sound h hs

theorem step_moves (h : Sound w) {e : ReferenceEvent} (hs : referenceStep w e = some w') :
    Moves w w' := by
  cases e with
  | setState a id new calloc =>
    cases hs
    exact setOutcome_moves h (setState_outcome h.wellFormed a id new calloc)
  | device e =>
    obtain ⟨x, em, cc, dc, hx, rfl⟩ := deviceStep_outcome h.wellFormed hs
    exact moves_noted (change_moves h hx) em cc dc

/-- The invariant: the counters are right, and every device is one of an open adapter. -/
structure Accounted (w : World) : Prop where
  sound : Sound w
  balanced : Balanced (view w)
  placed : ∀ p d, w.devices.cell p = some d → d.adapter ∈ w.adapterList

theorem accounted_opened (h : Opened w) : Accounted w := by
  have hs := opened_sound h
  refine ⟨hs, ⟨fun p n hp => ?_, fun p hp => ?_, fun p hp => ?_⟩, fun p d hp => ?_⟩
  · have hp : (w.devices.cell p).map Device.referenceCounter = some n := hp
    rw [h.devices p] at hp
    cases hp
  · show holders w p = 0
    unfold holders
    rw [dead_unlisted hs (h.devices p), h.running p, if_neg Bool.false_ne_true]
  · show (w.devices.cell p).map Device.referenceCounter = none
    rw [h.devices p]
    rfl
  · rw [h.devices p] at hp
    cases hp

theorem accounted_step {e : ReferenceEvent} (h : Accounted w) (hs : referenceStep w e = some w') :
    Accounted w' := by
  have hm := step_moves h.sound hs
  refine ⟨step_sound h.sound hs, balanced_step h.balanced hm.counts, fun p d' hp => ?_⟩
  rw [hm.opened]
  obtain ⟨d, hd, ha⟩ | ⟨_, ha⟩ := hm.adapter p d' hp
  · rw [ha]
    exact h.placed p d hd
  · exact ha

theorem view_none : (view w).count p = none ↔ w.devices.cell p = none := Option.map_eq_none_iff

/-- A device can only be in the list of its own adapter. -/
theorem references_holders (h : Sound w) (ha : a ∈ w.adapterList)
    (hp : ∀ d, w.devices.cell p = some d → d.adapter = a) : references w a p = holders w p := by
  have hiff : p ∈ devicesOf w a ↔ gattlibConnectionIsValid w p = true := by
    rw [valid_mem_iff]
    constructor
    · exact fun hm => ⟨a, ha, hm⟩
    · rintro ⟨b, hb, hm⟩
      obtain ⟨d, hd⟩ := (h.wellFormed.ok b hb).listed p hm
      rw [← hp d hd.cell, hd.adapter]
      exact hm
  unfold references holders
  simp only [hiff]

theorem accounted_counted (h : Accounted w) (hd : w.devices.cell p = some d) :
    d.referenceCounter = references w d.adapter p ∧ 0 < d.referenceCounter := by
  have hsame : ∀ e, w.devices.cell p = some e → e.adapter = d.adapter := by
    intro e he
    rw [Option.some.inj (he.symm.trans hd)]
  rw [references_holders h.sound (h.placed p d hd) hsame]
  exact h.balanced.counted p _ (view_count hd)

/-- A step frees a device exactly when it leaves no reference on it. -/
theorem accounted_freed (h : Accounted w) {e : ReferenceEvent} (hs : referenceStep w e = some w')
    (hd : w.devices.cell p = some d) :
    w'.devices.cell p = none ↔ references w' d.adapter p = 0 := by
  have hm := step_moves h.sound hs
  have h' := accounted_step h hs
  have hopen : d.adapter ∈ w'.adapterList := hm.opened ▸ h.placed p d hd
  have hsame : ∀ d', w'.devices.cell p = some d' → d'.adapter = d.adapter := by
    intro d' hd'
    obtain ⟨f, hf, ha⟩ | ⟨hnone, _⟩ := hm.adapter p d' hd'
    · rw [ha, Option.some.inj (hf.symm.trans hd)]
    · cases hnone.symm.trans hd
  rw [references_holders h'.sound hopen hsame, ← view_none]
  exact freed_iff h'.balanced

theorem freedBy_frees (w w' : World) (p : Nat) : freedBy w w' p = frees (view w) (view w') p := by
  unfold freedBy frees view
  rw [Option.isSome_map, Option.isNone_map]

theorem countP_freed (tr : List (World × ReferenceEvent × World)) (p : Nat) :
    tr.countP (fun x => freedBy x.1 x.2.2 p) =
      tr.countP (fun x => frees (view x.1) (view x.2.2) p) := by
  simp only [freedBy_frees]

end

/-- On adapters that stay open, the counter of a device is the number of references
on it, and the device is freed once, when the last of them goes. -/
theorem references_kept {tr : List (World × ReferenceEvent × World)} {w : World}
    (h : Run referenceStep Opened tr w) : ReferencesKept tr w := by
  have hpres : Preserves referenceStep AnyStep Accounted :=
    fun w e w' hw _ hs => accounted_step hw hs
  obtain ⟨hend, hsteps⟩ := run_steps (fun _ h => accounted_opened h) hpres h (fun _ _ => trivial)
  have hsim : ∀ x ∈ tr, Step (view x.1) (view x.2.2) := by
    intro x hx
    obtain ⟨hx, hs⟩ := hsteps x hx
    exact (step_moves hx.sound hs).counts
  have honce := (run_balanced (fun w h => (accounted_opened h).balanced) hsim h).2
  have hlive : ∀ p, gattlibConnectionIsValid w p = true → ∃ d, w.devices.cell p = some d := by
    intro p hv
    obtain ⟨d, hk⟩ := valid_known hend.sound.wellFormed hv
    exact ⟨d, hk.cell⟩
  refine ⟨?_, ?_, ?_, ?_, ?_, ?_⟩
  · exact fun p d hd => (accounted_counted hend hd).1
  · exact fun a ha p hp => hlive p (valid_mem_iff.mpr ⟨a, ha, hp⟩)
  · exact fun p hp => alive_of_running hend.sound hp
  · intro x hx p d hd
    obtain ⟨hx, hs⟩ := hsteps x hx
    exact accounted_freed hx hs hd
  · intro p
    rw [countP_freed]
    rcases honce p with ⟨hz, _⟩ | ⟨hone, _⟩
    · rw [hz]
      exact Nat.zero_le 1
    · exact Nat.le_of_eq hone
  · intro x hx p d hd hgone
    rw [countP_freed]
    rcases honce p with ⟨_, hnever⟩ | ⟨hone, _⟩
    · cases (hnever (view_none.mpr hgone) x hx).symm.trans (view_count hd)
    · exact hone

/-- A device is removed and found again while the handler of its connection runs. -/
def replacedEvents : List ReferenceEvent :=
  [.device (.objectAdded 0 devicePath answered),
    .device (.connect 0 devicePath 1 0 (.accepted 2)),
    .device (.emit 2 (.servicesResolved true) []),
    .device (.propertyChange ⟨some 1, true, true⟩),
    .device (.connectedThread 0),
    .setState 0 devicePath .disconnected true,
    .setState 0 devicePath .notFound true,
    .setState 0 devicePath .disconnected true,
    .device (.connectedReturns 0)]

theorem references_kept_replaced : ∃ tr w, ReferencesKept tr w ∧ w.devices.next = 2 ∧
    w.devices.cell 0 = none ∧ references w 0 1 = 1 := by
  have hstart : Run referenceStep Opened [] opened := .start opened_opened
  have hexec : exec referenceStep opened replacedEvents = some _ := rfl
  obtain ⟨tr, hrun, _⟩ := exec_run_from hstart hexec
  exact ⟨_, _, references_kept hrun, rfl, rfl, by decide⟩

end Gattlib.DeviceReferences
