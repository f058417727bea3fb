import Gattlib.Changes
import Gattlib.Library.Transition

namespace Gattlib.Invariants

open Library.Memory Library.Resources Library.Transition Gattlib.Strings Gattlib.State
open Gattlib.Registry Gattlib.RegistryFacts Gattlib.Connection Gattlib.Events Gattlib.Effects
open Gattlib.Changes

/-- The registry invariant, and a reference on a device for its list and for each
thread that runs its connection handler. -/
structure Sound (w : World) : Prop where
  wellFormed : WellFormed w
  counted : ∀ p d, w.devices.cell p = some d →
    w.connectedRunning p + (if gattlibConnectionIsValid w p then 1 else 0) ≤ d.referenceCounter
  alive : ∀ p, w.devices.cell p = none → w.connectedRunning p = 0

section

variable {w w' x : World} {e : DeviceEvent} {a c p : Nat} {d d' : Device} {id : CString}
  {l : Ledger ConnectionResource}

theorem valid_congr (hl : w'.adapterList = w.adapterList)
    (hd : ∀ a, devicesOf w' a = devicesOf w a) (p : Nat) :
    gattlibConnectionIsValid w' p = gattlibConnectionIsValid w p := by
  unfold gattlibConnectionIsValid
  simp only [hl, hd]

theorem valid_mem_iff :
    gattlibConnectionIsValid w p = true ↔ ∃ a ∈ w.adapterList, p ∈ devicesOf w a := by
  unfold gattlibConnectionIsValid
  simp [List.any_eq_true]

theorem sound_congr (h : Sound w) (hl : w'.adapterList = w.adapterList)
    (hc : ∀ a ∈ w.adapterList, ∃ ad, w'.adapters.cell a = some ad)
    (hd : ∀ a, devicesOf w' a = devicesOf w a) (hm : w'.devices = w.devices)
    (hr : w'.connectedRunning = w.connectedRunning) : Sound w' := by
  refine ⟨wellFormed_congr h.wellFormed hl hc hd hm, fun p d hp => ?_, fun p hp => ?_⟩
  · rw [hr, valid_congr hl hd]
    exact h.counted p d (hm ▸ hp)
  · rw [hr]
    exact h.alive p (hm ▸ hp)

theorem sound_managed (h : Sound w) (a : Nat) (created : Option Nat) :
    Sound (managed w a created) := by
  obtain ⟨adapters, he, hl, hd⟩ := managed_frame w a created
  apply sound_congr h
  · rw [he]
  · intro b hb
    obtain ⟨ad, had⟩ := h.wellFormed.live b hb
    rw [he]
    exact hl b ad had
  · exact hd
  · rw [he]
  · rw [he]

theorem sound_store (h : Sound w) (hk : Known w c d) (hd : Keeps d d')
    (hr : d.referenceCounter ≤ d'.referenceCounter) : Sound (store w c d' l) := by
  refine ⟨wellFormed_store h.wellFormed hk hd, fun p e hp => ?_, fun p hp => ?_⟩
  · rw [store_cell hk.cell] at hp
    by_cases hpc : p = c
    · rw [if_pos hpc, Option.some.injEq] at hp
      subst p e
      exact Nat.le_trans (h.counted c d hk.cell) hr
    · rw [if_neg hpc] at hp
      exact h.counted p e hp
  · rw [store_cell hk.cell] at hp
    by_cases hpc : p = c
    · rw [if_pos hpc] at hp
      cases hp
    · rw [if_neg hpc] at hp
      exact h.alive p hp

theorem valid_append (hl : ∃ ad, w.adapters.cell a = some ad) (d : Device)
    (hp : p ≠ w.devices.next) :
    gattlibConnectionIsValid (appendDevice w a d) p = gattlibConnectionIsValid w p := by
  rw [Bool.eq_iff_iff, valid_mem_iff, valid_mem_iff]
  have hm : ∀ b, p ∈ devicesOf (appendDevice w a d) b ↔ p ∈ devicesOf w b := by
    intro b
    by_cases hb : b = a
    · subst b
      simp [devicesOf_append hl, hp]
    · rw [devicesOf_append_ne hb]
  simp only [hm]
  rfl

theorem wellFormed_append (h : WellFormed w) (ha : a ∈ w.adapterList)
    (hf : findDeviceWithDeviceId w a id = none) {new : DeviceState} (hn : new ≠ .notFound) :
    WellFormed (appendDevice w a (newDevice w a id new)) := by
  refine ⟨h.nodup, fun b hb => ?_, fun b hb => ?_⟩
  · obtain ⟨ad, had⟩ := h.live b hb
    by_cases hba : b = a
    · subst b
      exact ⟨_, by simp [appendDevice, modifyAdapter, had]; rfl⟩
    · exact ⟨ad, by simp [appendDevice, modifyAdapter, hba, had]⟩
  · by_cases hba : b = a
    · subst b
      exact registryOk_append (h.ok a ha) (h.live a ha) hf hn
    · exact registryOk_append_ne (h.ok b hb) hba _

theorem sound_append (h : Sound w) (ha : a ∈ w.adapterList)
    (hf : findDeviceWithDeviceId w a id = none) {new : DeviceState} (hn : new ≠ .notFound) :
    Sound (appendDevice w a (newDevice w a id new)) := by
  have hcell : ∀ p, p ≠ w.devices.next →
      (appendDevice w a (newDevice w a id new)).devices.cell p = w.devices.cell p :=
    fun p hp => alloc_ne _ _ hp
  refine ⟨wellFormed_append h.wellFormed ha hf hn, fun p e hp => ?_, fun p hp => ?_⟩
  · by_cases hpn : p = w.devices.next
    · subst p
      have he : e = newDevice w a id new := Option.some.inj (hp.symm.trans (alloc_self _ _))
      have hrun : w.connectedRunning w.devices.next = 0 := h.alive _ (cell_next _)
      subst e
      show w.connectedRunning w.devices.next + _ ≤ 1
      rw [hrun]
      split
      · exact Nat.le_refl 1
      · exact Nat.zero_le 1
    · rw [hcell p hpn] at hp
      rw [valid_append (h.wellFormed.live a ha) _ hpn]
      exact h.counted p e hp
  · by_cases hpn : p = w.devices.next
    · subst p
      rw [show (appendDevice w a (newDevice w a id new)).devices.cell w.devices.next =
        some (newDevice w a id new) from alloc_self _ _] at hp
      cases hp
    · rw [hcell p hpn] at hp
      exact h.alive p hp

theorem unref_frame (w : World) (c : Nat) :
    ∃ devices, gattlibDeviceUnref w c = { w with devices := devices } := by
  unfold gattlibDeviceUnref
  cases w.devices.cell c with
  | none => exact ⟨w.devices, rfl⟩
  | some d =>
    dsimp only
    split
    · exact ⟨_, rfl⟩
    · exact ⟨_, rfl⟩

theorem unref_cell (hk : w.devices.cell c = some d) :
    (gattlibDeviceUnref w c).devices.cell c =
      if d.referenceCounter - 1 > 0 then
        some { d with referenceCounter := d.referenceCounter - 1 }
      else none := by
  unfold gattlibDeviceUnref
  rw [hk]
  dsimp only
  split
  · rw [cell_modifyDevice, if_pos rfl, hk]
    rfl
  · exact free_self _ _

theorem valid_drop_self (h : WellFormed w) (hk : Known w c d) :
    gattlibConnectionIsValid (dropDevice w d.adapter c) c = false := by
  obtain ⟨devices, he⟩ := unref_frame (removeDevice w d.adapter c) c
  rw [Bool.eq_false_iff, Ne, valid_mem_iff]
  rintro ⟨b, hb, hm⟩
  have hb' : b ∈ w.adapterList := by
    rw [dropDevice, he] at hb
    exact hb
  by_cases hba : b = d.adapter
  · subst b
    rw [devicesOf_drop] at hm
    exact ((List.Nodup.of_map _ (h.ok _ hb').distinct).not_mem_erase) hm
  · rw [devicesOf_drop_ne hba] at hm
    obtain ⟨f, hf⟩ := (h.ok b hb').listed c hm
    have hfd : f = d := Option.some.inj (hf.cell.symm.trans hk.cell)
    exact hba (by rw [← hf.adapter, hfd])

theorem valid_drop_ne (hp : p ≠ c) :
    gattlibConnectionIsValid (dropDevice w a c) p = gattlibConnectionIsValid w p := by
  obtain ⟨devices, he⟩ := unref_frame (removeDevice w a c) c
  rw [Bool.eq_iff_iff, valid_mem_iff, valid_mem_iff]
  have hm : ∀ b, p ∈ devicesOf (dropDevice w a c) b ↔ p ∈ devicesOf w b := by
    intro b
    by_cases hb : b = a
    · subst b
      rw [devicesOf_drop]
      exact List.mem_erase_of_ne hp
    · rw [devicesOf_drop_ne hb]
  simp only [hm]
  rw [dropDevice, he]
  rfl

theorem wellFormed_drop (h : WellFormed w) (hk : Known w c d) :
    WellFormed (dropDevice w d.adapter c) := by
  obtain ⟨devices, he⟩ := unref_frame (removeDevice w d.adapter c) c
  have hl : (dropDevice w d.adapter c).adapterList = w.adapterList := by
    rw [dropDevice, he]
    rfl
  refine ⟨hl ▸ h.nodup, fun b hb => ?_, fun b hb => ?_⟩
  · obtain ⟨bd, hbd⟩ := h.live b (hl ▸ hb)
    rw [dropDevice, unref_adapters]
    by_cases hba : b = d.adapter
    · exact ⟨_, by rw [removeDevice, modifyAdapter, modify_cell, if_pos hba, ← hba, hbd]; rfl⟩
    · exact ⟨bd, by rw [removeDevice, modifyAdapter, modify_cell, if_neg hba, hbd]⟩
  · by_cases hba : b = d.adapter
    · subst b
      exact registryOk_drop (h.ok _ (hl ▸ hb))
    · exact registryOk_drop_ne (h.ok b (hl ▸ hb)) hba (known_listed h hk)

theorem sound_drop (h : Sound w) (hk : Known w c d) : Sound (dropDevice w d.adapter c) := by
  obtain ⟨devices, he⟩ := unref_frame (removeDevice w d.adapter c) c
  have hrun : (dropDevice w d.adapter c).connectedRunning = w.connectedRunning := by
    rw [dropDevice, he]
    rfl
  have hself : (dropDevice w d.adapter c).devices.cell c =
      if d.referenceCounter - 1 > 0 then
        some { d with referenceCounter := d.referenceCounter - 1 }
      else none := unref_cell hk.cell
  have hc := h.counted c d hk.cell
  rw [known_valid hk, if_pos rfl] at hc
  refine ⟨wellFormed_drop h.wellFormed hk, fun p e hp => ?_, fun p hp => ?_⟩
  · rw [hrun]
    by_cases hpc : p = c
    · subst p
      rw [hself] at hp
      split at hp
      · cases hp
        rw [valid_drop_self h.wellFormed hk, if_neg (by decide)]
        show w.connectedRunning c + 0 ≤ d.referenceCounter - 1
        omega
      · cases hp
    · rw [cell_drop_ne hpc] at hp
      rw [valid_drop_ne hpc]
      exact h.counted p e hp
  · rw [hrun]
    by_cases hpc : p = c
    · subst p
      rw [hself] at hp
      split at hp
      · cases hp
      · omega
    · rw [cell_drop_ne hpc] at hp
      exact h.alive p hp

theorem alive_of_running (h : Sound w) (hr : 0 < w.connectedRunning c) :
    ∃ d, w.devices.cell c = some d := by
  cases hd : w.devices.cell c with
  | none =>
    have hz := h.alive c hd
    omega
  | some d => exact ⟨d, rfl⟩

theorem wellFormed_returns (h : Sound w) (hr : 0 < w.connectedRunning c) :
    WellFormed (connectedHandlerReturns w c) := by
  obtain ⟨d, hd⟩ := alive_of_running h hr
  have hcount := h.counted c d hd
  by_cases hpos : d.referenceCounter - 1 > 0
  · have hu : gattlibDeviceUnref w c = modifyDevice w c (fun d =>
        { d with referenceCounter := d.referenceCounter - 1 }) := by
      unfold gattlibDeviceUnref
      rw [hd]
      exact if_pos hpos
    have hw : WellFormed (gattlibDeviceUnref w c) := by
      rw [hu]
      apply wellFormed_modifyDevice h.wellFormed
      intro e he
      rw [hd, Option.some.injEq] at he
      subst e
      exact ⟨rfl, rfl, rfl, fun hk => hk, fun _ => hpos⟩
    exact wellFormed_congr hw rfl hw.live (fun _ => rfl) rfl
  · have hu : gattlibDeviceUnref w c = { w with devices := free w.devices c } := by
      unfold gattlibDeviceUnref
      rw [hd]
      exact if_neg hpos
    have hv : gattlibConnectionIsValid w c = false := by
      cases hv : gattlibConnectionIsValid w c with
      | false => rfl
      | true =>
        rw [hv, if_pos rfl] at hcount
        omega
    unfold connectedHandlerReturns
    rw [hu]
    refine wellFormed_frame h.wellFormed rfl h.wellFormed.live (fun _ _ => rfl) ?_
    intro a ha p hp
    apply free_ne
    rintro rfl
    rw [valid_mem_iff.mpr ⟨a, ha, hp⟩] at hv
    cases hv

theorem sound_referenced (h : Sound w) (hk : Known w c d) :
    Sound { store w c (referenced d) l with
      connectedRunning := Function.update w.connectedRunning c (w.connectedRunning c + 1) } := by
  have hw : WellFormed (store w c (referenced d) l) :=
    wellFormed_store h.wellFormed hk
      ⟨rfl, rfl, rfl, fun hs => hs, fun _ => Nat.succ_pos _⟩
  refine ⟨wellFormed_congr hw rfl hw.live (fun _ => rfl) rfl, fun p e hp => ?_, fun p hp => ?_⟩
  · have hcell : (store w c (referenced d) l).devices.cell p = _ := store_cell hk.cell p
    by_cases hpc : p = c
    · subst p
      rw [if_pos rfl] at hcell
      have he := Option.some.inj (hp.symm.trans hcell)
      subst e
      have hc := h.counted c d hk.cell
      show Function.update w.connectedRunning c (w.connectedRunning c + 1) c +
        (if gattlibConnectionIsValid w c then 1 else 0) ≤ d.referenceCounter + 1
      rw [Function.update_self]
      omega
    · rw [if_neg hpc] at hcell
      show Function.update w.connectedRunning c (w.connectedRunning c + 1) p +
        (if gattlibConnectionIsValid w p then 1 else 0) ≤ e.referenceCounter
      rw [Function.update_of_ne hpc]
      exact h.counted p e (hcell.symm.trans hp)
  · have hcell : (store w c (referenced d) l).devices.cell p = _ := store_cell hk.cell p
    by_cases hpc : p = c
    · subst p
      rw [if_pos rfl] at hcell
      cases hcell.symm.trans hp
    · rw [if_neg hpc] at hcell
      show Function.update w.connectedRunning c (w.connectedRunning c + 1) p = 0
      rw [Function.update_of_ne hpc]
      exact h.alive p (hcell.symm.trans hp)

theorem returns_list (w : World) (c : Nat) :
    (connectedHandlerReturns w c).adapterList = w.adapterList := by
  obtain ⟨devices, he⟩ := unref_frame w c
  rw [connectedHandlerReturns, he]

theorem returns_devicesOf (w : World) (c a : Nat) :
    devicesOf (connectedHandlerReturns w c) a = devicesOf w a := by
  obtain ⟨devices, he⟩ := unref_frame w c
  rw [connectedHandlerReturns, he]
  rfl

theorem returns_ledger (w : World) (c : Nat) :
    (connectedHandlerReturns w c).connectionLedger = w.connectionLedger := by
  obtain ⟨devices, he⟩ := unref_frame w c
  rw [connectedHandlerReturns, he]

theorem valid_returns (w : World) (c p : Nat) :
    gattlibConnectionIsValid (connectedHandlerReturns w c) p = gattlibConnectionIsValid w p :=
  valid_congr (returns_list w c) (returns_devicesOf w c) p

/-- A thread that lets go of a device leaves it to the list and to the other threads. -/
theorem sound_returns (h : Sound w) (hr : 0 < w.connectedRunning c) :
    Sound (connectedHandlerReturns w c) := by
  obtain ⟨d, hd⟩ := alive_of_running h hr
  have hself := unref_cell hd
  have hne : ∀ p, p ≠ c → (connectedHandlerReturns w c).devices.cell p = w.devices.cell p :=
    fun p hp => unref_cell_ne w hp
  have hcount := h.counted c d hd
  refine ⟨wellFormed_returns h hr, fun p e hp => ?_, fun p hp => ?_⟩
  · rw [valid_returns]
    by_cases hpc : p = c
    · subst p
      rw [show (connectedHandlerReturns w c).devices.cell c = _ from hself] at hp
      split at hp
      · cases hp
        show Function.update w.connectedRunning c (w.connectedRunning c - 1) c + _ ≤
          d.referenceCounter - 1
        rw [Function.update_self]
        omega
      · cases hp
    · rw [hne p hpc] at hp
      show Function.update w.connectedRunning c (w.connectedRunning c - 1) p + _ ≤ _
      rw [Function.update_of_ne hpc]
      exact h.counted p e hp
  · show Function.update w.connectedRunning c (w.connectedRunning c - 1) p = 0
    by_cases hpc : p = c
    · subst p
      rw [Function.update_self]
      rw [show (connectedHandlerReturns w c).devices.cell c = _ from hself] at hp
      split at hp
      · cases hp
      · omega
    · rw [Function.update_of_ne hpc]
      rw [hne p hpc] at hp
      exact h.alive p hp

theorem sound_noted (h : Sound w) (em : Option Emission) (cc dc : Nat → Nat) :
    Sound (noted w em cc dc) :=
  sound_congr h rfl h.wellFormed.live (fun _ => rfl) rfl rfl

theorem sound_attempted (h : Sound w) (hk : Known w c d) (connectCb userData : Nat)
    (o : ConnectOutcome) : Sound (attempted w c d connectCb userData o) := by
  have hframe : ∀ at' ar di, Sound { w with
      connectCalls := w.connectCalls + 1, attempts := at', armed := ar, dispatched := di } :=
    fun _ _ _ => sound_congr h rfl h.wellFormed.live (fun _ => rfl) rfl rfl
  have hknown : ∀ at' ar di, Known { w with
      connectCalls := w.connectCalls + 1, attempts := at', armed := ar, dispatched := di } c d :=
    fun _ _ _ => ⟨hk.cell, hk.owner, hk.mem⟩
  cases o with
  | noProxy error =>
    exact sound_store (hframe _ _ _) (hknown _ _ _)
      ⟨rfl, rfl, rfl, fun _ => show DeviceState.connecting ≠ .notFound by decide, fun hc => hc⟩
      (Nat.le_refl _)
  | refused proxy error =>
    exact sound_store (hframe _ _ _) (hknown _ _ _)
      ⟨rfl, rfl, rfl, fun _ => show DeviceState.disconnected ≠ .notFound by decide, fun hc => hc⟩
      (Nat.le_refl _)
  | accepted proxy =>
    exact sound_store (hframe _ _ _) (hknown _ _ _)
      ⟨rfl, rfl, rfl, fun _ => show DeviceState.connecting ≠ .notFound by decide, fun hc => hc⟩
      (Nat.le_refl _)

theorem change_sound (h : Sound w) (hx : Change w e x) : Sound x := by
  cases hx with
  | nothing e => exact h
  | appended he ha hf => exact sound_append h ha hf (by decide)
  | rediscovered hk hid hp =>
    exact sound_store h hk (keeps_state (keeps_refl _) (by decide)) (Nat.le_refl _)
  | removed hk hid hs => exact sound_drop h hk
  | failed hr => exact sound_congr h rfl h.wellFormed.live (fun _ => rfl) rfl rfl
  | attempted hk hid hs => exact sound_attempted h hk _ _ _
  | unmanaged hk he hm =>
    exact sound_store h hk (keeps_setField (keeps_refl _) _ _) (Nat.le_refl _)
  | @resolved c d rest o hk he hm =>
    have hw := sound_managed h d.adapter o.manager
    have hw' : Sound { managed w d.adapter o.manager with
        dispatched := dispatchedBy w d o.thread } :=
      sound_congr hw rfl hw.wellFormed.live (fun _ => rfl) rfl rfl
    have hk' := known_managed hk d.adapter o.manager
    exact sound_store hw' ⟨hk'.cell, hk'.owner, hk'.mem⟩
      (keeps_state (keeps_setField (keeps_setField (keeps_refl _) _ _) _ _) (by decide))
      (Nat.le_refl _)
  | dropped hk he =>
    exact sound_store h hk (keeps_state (keeps_setField (keeps_setField
      (keeps_setField (keeps_refl _) _ _) _ _) _ _) (by decide)) (Nat.le_refl _)
  | expired hk hl => exact sound_store h hk (keeps_setField (keeps_refl _) _ _) (Nat.le_refl _)
  | expiredStale hv hl => exact sound_congr h rfl h.wellFormed.live (fun _ => rfl) rfl rfl
  | disconnecting hk hs =>
    exact sound_store h hk (keeps_state (keeps_refl _) (by decide)) (Nat.le_refl _)
  | @referenced c d hk => exact sound_referenced h hk
  | dereferenced hr => exact sound_returns h hr
  | registered hk =>
    exact sound_store h hk ⟨rfl, rfl, rfl, fun hk => hk, fun hc => hc⟩ (Nat.le_refl _)

theorem deviceStep_sound (h : Sound w) (hs : deviceStep w e = some w') : Sound w' := by
  obtain ⟨x, em, cc, dc, hx, rfl⟩ := deviceStep_outcome h.wellFormed hs
  exact sound_noted (change_sound h hx) em cc dc

theorem opened_sound (h : Opened w) : Sound w := by
  refine ⟨⟨h.nodup, fun a ha => ?_, fun a ha => ?_⟩, fun p d hp => ?_, fun p _ => h.running p⟩
  · obtain ⟨ad, had, _⟩ := h.live a ha
    exact ⟨ad, had⟩
  · obtain ⟨ad, had, hdev⟩ := h.live a ha
    have hl : devicesOf w a = [] := by simp [devicesOf, had, hdev]
    exact ⟨by simp [hl], by simp [hl]⟩
  · rw [h.devices p] at hp
    cases hp

end

end Gattlib.Invariants
