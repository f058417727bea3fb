import Gattlib.Invariants

namespace Gattlib.ConnectionSlots

open Library.Memory Library.Resources Gattlib.Strings Gattlib.State Gattlib.Registry
open Gattlib.RegistryFacts Gattlib.Connection Gattlib.Events Gattlib.Effects Gattlib.Changes
open Gattlib.Invariants

/-- The fields of all connections, as slots of the ledger. -/
def slotsOf (w : World) : Slots ConnectionResource := fun c => held (backendOf w c)

/-- The slots with the fields of one connection replaced. -/
def slotsWith (s : Slots ConnectionResource) (c : Nat) (d : Device) : Slots ConnectionResource :=
  Function.update s c (held d.connection.backend)

section

variable {w : World} {a c p : Nat} {d d' : Device} {l : Ledger ConnectionResource}
  {s : Slots ConnectionResource}

theorem held_setHeld (b : ConnectionBackend) (k : ConnectionResource) (v : Option Nat) :
    held (setHeld v b k) = Function.update (held b) k v := by
  funext j
  cases k <;> cases j <;> rfl

theorem slotsWith_setField (s : Slots ConnectionResource) (c : Nat) (d : Device)
    (k : ConnectionResource) (v : Option Nat) :
    slotsWith s c (setField d k v) = setSlot (slotsWith s c d) c k v := by
  unfold slotsWith setSlot
  rw [Function.update_self, Function.update_idem]
  exact congrArg _ (held_setHeld d.connection.backend k v)

@[simp] theorem slotsWith_self (s : Slots ConnectionResource) (c : Nat) (d : Device) :
    slotsWith s c d c = held d.connection.backend :=
  Function.update_self ..

theorem slotsWith_congr (s : Slots ConnectionResource) (c : Nat)
    (h : ∀ k, held d'.connection.backend k = held d.connection.backend k) :
    slotsWith s c d' = slotsWith s c d :=
  congrArg (Function.update s c) (funext h)

theorem slotsOf_known (hk : w.devices.cell c = some d) :
    slotsOf w c = held d.connection.backend := by
  rw [slotsOf, backendOf, hk]
  rfl

theorem slotsOf_store (hk : w.devices.cell c = some d) :
    slotsOf (store w c d' l) = slotsWith (slotsOf w) c d' := by
  funext q
  by_cases hq : q = c
  · subst q
    rw [slotsWith_self, slotsOf, backendOf_store hk]
  · rw [slotsWith, Function.update_of_ne hq, slotsOf, slotsOf, backendOf, backendOf,
      store_cell hk, if_neg hq]

theorem slotsWith_known (hk : w.devices.cell c = some d) :
    slotsWith (slotsOf w) c d = slotsOf w := by
  rw [slotsWith, ← slotsOf_known hk, Function.update_eq_self]

/-! One operation on a connection, as an operation on the ledger and its slots. -/

theorem balanced_releaseField (h : Balanced l (slotsWith s c d)) (k : ConnectionResource) :
    Balanced (releaseSlot l (held d.connection.backend k))
      (slotsWith s c (setField d k none)) := by
  have hr := balanced_release h c k
  rw [slotsWith_self] at hr
  rw [slotsWith_setField]
  exact hr

theorem balanced_acquireField (h : Balanced l (slotsWith s c d)) {k : ConnectionResource}
    (he : held d.connection.backend k = none) :
    Balanced (acquire l k c) (slotsWith s c (setField d k (some l.next))) := by
  rw [slotsWith_setField]
  exact balanced_acquire h (by rw [slotsWith_self, he])

theorem owned_releaseField (h : Owned l (slotsWith s c d)) (k : ConnectionResource)
    {v : Option Nat} (hv : ∀ id, v = some id → id < l.next) :
    Owned (releaseSlot l v) (slotsWith s c (setField d k none)) := by
  rw [slotsWith_setField]
  exact owned_clear (owned_release h hv) c k

/-- What a field holds has a known number, also after other fields have been released. -/
theorem owned_held_lt (h : Owned l (slotsWith s c d)) (k : ConnectionResource) (id : Nat)
    (hid : held d.connection.backend k = some id) : id < l.next :=
  owned_lt h (o := c) (k := k) (by rw [slotsWith_self, hid])

theorem owned_acquireField (h : Owned l (slotsWith s c d)) (k : ConnectionResource) :
    Owned (acquire l k c) (slotsWith s c (setField d k (some l.next))) := by
  rw [slotsWith_setField]
  exact owned_acquire h c k

/-! The steps that touch no field. -/

theorem slotsOf_append (d : Device) (hd : d.connection.backend = {}) :
    slotsOf (appendDevice w a d) = slotsOf w := by
  funext q
  have hb : backendOf (appendDevice w a d) q = backendOf w q := by
    by_cases hq : q = w.devices.next
    · subst q
      have hnew : (appendDevice w a d).devices.cell w.devices.next = some d := alloc_self _ _
      rw [backendOf, backendOf, hnew, cell_next]
      exact hd
    · have hold : (appendDevice w a d).devices.cell q = w.devices.cell q := alloc_ne _ _ hq
      rw [backendOf, backendOf, hold]
  rw [slotsOf, slotsOf, hb]

/-- Dropping a reference frees at most the device it was on. -/
theorem slotsOf_unref (hk : w.devices.cell c = some d)
    (hd : d.referenceCounter - 1 = 0 → ∀ k, held d.connection.backend k = none) :
    slotsOf (gattlibDeviceUnref w c) = slotsOf w := by
  funext q k
  by_cases hq : q = c
  · subst q
    rw [slotsOf_known hk, slotsOf, backendOf, unref_cell hk]
    split
    · rfl
    · next hz =>
      rw [hd (by omega) k]
      cases k <;> rfl
  · rw [slotsOf, slotsOf, backendOf, backendOf, unref_cell_ne w hq]

theorem owned_unref (h : Owned l (slotsOf w)) (c : Nat) :
    Owned l (slotsOf (gattlibDeviceUnref w c)) := by
  cases hk : w.devices.cell c with
  | none =>
    have hu : gattlibDeviceUnref w c = w := by rw [gattlibDeviceUnref, hk]
    rw [hu]
    exact h
  | some d =>
    refine ⟨fun q k id hid => h.held q k id ?_, h.known⟩
    by_cases hq : q = c
    · subst q
      rw [slotsOf, backendOf, unref_cell hk] at hid
      rw [slotsOf_known hk]
      split at hid
      · exact hid
      · cases k <;> cases hid
    · rw [slotsOf, backendOf, unref_cell_ne w hq] at hid
      exact hid

end

section

variable {w x : World} {e : DeviceEvent} {c : Nat} {d : Device}

theorem owned_store {d' : Device} {l : Ledger ConnectionResource} (hk : Known w c d)
    (h : Owned l (slotsWith (slotsOf w) c d')) :
    Owned (store w c d' l).connectionLedger (slotsOf (store w c d' l)) := by
  rw [slotsOf_store hk.cell]
  exact h

theorem owned_proxied {l : Ledger ConnectionResource} {s : Slots ConnectionResource}
    (h : Owned l (slotsWith s c d)) (proxy : Nat) :
    Owned (proxiedLedger c l) (slotsWith s c (proxied d proxy l)) := by
  apply owned_acquireField
  apply owned_acquireField
  have hb : slotsWith s c { d with connection := { d.connection with
      backend := { d.connection.backend with device := some proxy } } } = slotsWith s c d :=
    slotsWith_congr s c (fun k => by cases k <;> rfl)
  rw [hb]
  exact h

theorem owned_attempted (h : Owned w.connectionLedger (slotsOf w)) (hk : Known w c d)
    (connectCb userData : Nat) (o : ConnectOutcome) :
    Owned (attempted w c d connectCb userData o).connectionLedger
      (slotsOf (attempted w c d connectCb userData o)) := by
  have hk' : ∀ at' ar di, Known { w with
      connectCalls := w.connectCalls + 1, attempts := at', armed := ar, dispatched := di } c d :=
    fun _ _ _ => ⟨hk.cell, hk.owner, hk.mem⟩
  have hc : Owned w.connectionLedger
      (slotsWith (slotsOf w) c (connecting d w.connectCalls connectCb userData)) := by
    rw [← slotsWith_known hk.cell] at h
    exact h
  cases o with
  | noProxy error => exact owned_store (hk' _ _ _) hc
  | refused proxy error =>
    have hp := owned_proxied hc proxy
    refine owned_store (hk' _ _ _) (owned_releaseField hp .objectPath ?_)
    rintro id ⟨⟩
    exact Nat.lt_succ_of_lt (Nat.lt_succ_self _)
  | accepted proxy =>
    exact owned_store (hk' _ _ _) (owned_acquireField (owned_proxied hc proxy) _)

theorem owned_resolved (h : Owned w.connectionLedger (slotsOf w)) (hk : Known w c d)
    (objects : Bool) :
    Owned (resolvedLedger c objects (untimed d w.connectionLedger))
      (slotsWith (slotsOf w) c (resolved d objects (untimed d w.connectionLedger))) := by
  rw [← slotsWith_known hk.cell] at h
  have hu := owned_releaseField h .connectionTimer (owned_held_lt h .connectionTimer)
  cases objects with
  | true => exact owned_acquireField hu .objectList
  | false => exact owned_releaseField (v := none) hu .objectList (by simp)

theorem owned_freed (h : Owned w.connectionLedger (slotsOf w)) (hk : Known w c d) :
    Owned (freedLedger d w.connectionLedger) (slotsWith (slotsOf w) c (freed d)) := by
  rw [← slotsWith_known hk.cell] at h
  have h1 := owned_releaseField h .propertiesChanged (owned_held_lt h .propertiesChanged)
  have h2 := owned_releaseField h1 .connectionTimer (owned_held_lt h1 .connectionTimer)
  have h3 := owned_releaseField h2 .objectPath (owned_held_lt h2 .objectPath)
  exact owned_release h3 (owned_held_lt h3 .objectList)

/-- What a field holds has been acquired for it, in every run. -/
theorem owned_change (h : Owned w.connectionLedger (slotsOf w)) (hx : Change w e x) :
    Owned x.connectionLedger (slotsOf x) := by
  cases hx with
  | nothing e => exact h
  | @appended e a id he ha hf =>
    rw [slotsOf_append (newDevice w a id .disconnected) rfl]
    exact h
  | rediscovered hk hid hp =>
    rw [← slotsWith_known hk.cell] at h
    exact owned_store hk h
  | @removed c d id hk hid hs =>
    obtain ⟨devices, he⟩ := unref_frame (removeDevice w d.adapter c) c
    have hu := owned_unref (w := removeDevice w d.adapter c) h c
    have hl : (dropDevice w d.adapter c).connectionLedger = w.connectionLedger := by
      rw [dropDevice, he]
      rfl
    rw [hl]
    exact hu
  | failed hr => exact h
  | attempted hk hid hs => exact owned_attempted h hk _ _ _
  | unmanaged hk he hm =>
    rw [← slotsWith_known hk.cell] at h
    exact owned_store hk (owned_releaseField h _ (owned_held_lt h .connectionTimer))
  | @resolved c d rest o hk he hm =>
    have hk' := known_managed hk d.adapter o.manager
    obtain ⟨adapters, hw, _, _⟩ := managed_frame w d.adapter o.manager
    have hs : slotsOf (managed w d.adapter o.manager) = slotsOf w := by rw [hw]; rfl
    have hr := owned_resolved h hk o.objects
    rw [← hs] at hr
    exact owned_store (w := { managed w d.adapter o.manager with
      dispatched := dispatchedBy w d o.thread }) ⟨hk'.cell, hk'.owner, hk'.mem⟩ hr
  | dropped hk he => exact owned_store hk (owned_freed h hk)
  | @expired c d t hk hl =>
    rw [← slotsWith_known hk.cell] at h
    refine owned_store hk (owned_releaseField (v := some t) h .connectionTimer ?_)
    rintro id ⟨⟩
    exact w.connectionLedger.bounded _ hl.1
  | @expiredStale c t hv hl =>
    refine owned_release (v := some t) h ?_
    rintro id ⟨⟩
    exact w.connectionLedger.bounded _ hl.1
  | disconnecting hk hs =>
    rw [← slotsWith_known hk.cell] at h
    exact owned_store hk h
  | @referenced c d hk =>
    have hr : Owned w.connectionLedger (slotsWith (slotsOf w) c (referenced d)) := by
      rw [← slotsWith_known hk.cell] at h
      exact h
    exact owned_store hk hr
  | @dereferenced c hr =>
    have hu := owned_unref h c
    rw [returns_ledger]
    exact hu
  | registered hk =>
    rw [← slotsWith_known hk.cell] at h
    exact owned_store hk h

theorem opened_slots (h : Opened w) (c : Nat) (k : ConnectionResource) : slotsOf w c k = none := by
  rw [slotsOf, backendOf, h.devices c]
  cases k <;> rfl

theorem opened_owned (h : Opened w) : Owned w.connectionLedger (slotsOf w) := by
  refine ⟨fun c k id hid => ?_, fun id hid => ?_⟩
  · rw [opened_slots h] at hid
    cases hid
  · rw [h.released] at hid
    cases hid

end

end Gattlib.ConnectionSlots
