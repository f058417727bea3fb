import Gattlib.ConnectionSlots
import Gattlib.StateMachine

namespace Gattlib.ConnectionResources

open Library.Memory Library.Resources Library.Transition Gattlib.Strings Gattlib.State
open Gattlib.Registry Gattlib.RegistryFacts Gattlib.Connection Gattlib.Events Gattlib.Effects
open Gattlib.Changes Gattlib.Invariants Gattlib.StateMachine Gattlib.ConnectionSlots

/-- The books of the connections: the fields hold what is not released yet, and
the fields of a device that is DISCONNECTED or out of its list are empty. -/
structure Accounted (w : World) : Prop where
  balanced : Balanced w.connectionLedger (slotsOf w)
  quiet : ∀ c d, w.devices.cell c = some d →
    d.state = .disconnected ∨ gattlibConnectionIsValid w c = false →
    ∀ k, held d.connection.backend k = none

def HoldsNothing (b : ConnectionBackend) : Prop :=
  ∀ k ∈ [ConnectionResource.propertiesChanged, .connectionTimer, .objectPath, .objectList],
    held b k = none

/-- No Connect call is refused, `gattlib_connection_free` and a resolution find
`dbus_objects` NULL, and a reported device has all its fields empty. -/
def Tidy (w : World) : DeviceEvent → Prop
  | .connect a path _ _ (.refused _ _) => gattlibAdapterIsValid w a = true →
      gattlibDeviceGetState w a path ≠ .disconnected
  | .propertyChange o => ∀ em ∈ w.emission, gattlibConnectionIsValid w em.connection = true →
      (em.property = .connected false ∨ (em.property = .servicesResolved true ∧
        hasManager w (adapterOf w em.connection) o.manager = true)) →
      (backendOf w em.connection).dbusObjects = none
  | .objectAdded a path o => (o.proxy && o.address) = true →
      ∀ c ∈ findDeviceWithDeviceId w a path, HoldsNothing (backendOf w c)
  | _ => True

instance (b : ConnectionBackend) : Decidable (HoldsNothing b) :=
  inferInstanceAs (Decidable (∀ k ∈ _, _))

instance (w : World) : (e : DeviceEvent) → Decidable (Tidy w e)
  | .connect _ _ _ _ (.refused _ _) => inferInstanceAs (Decidable (_ → _ ≠ _))
  | .propertyChange _ => inferInstanceAs (Decidable (∀ em ∈ w.emission, _ → _ ∨ _ ∧ _ → _))
  | .objectAdded a path _ =>
      inferInstanceAs (Decidable (_ → ∀ c ∈ findDeviceWithDeviceId w a path, _))
  | .objectRemoved _ _ | .propertiesChanged _ _ _ _ _ | .connect _ _ _ _ (.noProxy _)
  | .connect _ _ _ _ (.accepted _) | .emit _ _ _ | .stopConnect _ | .disconnect _
  | .connectedThread _ | .connectedReturns _ | .registerOnDisconnect _ _ => instDecidableTrue

theorem holdsNothing_held {b : ConnectionBackend} (h : HoldsNothing b) (k : ConnectionResource) :
    held b k = none :=
  h k (by cases k <;> decide)

section

variable {w w' x : World} {e : DeviceEvent} {c : Nat} {d d' : Device}
  {l : Ledger ConnectionResource}

theorem accounted_congr (h : Accounted w) (hl : w'.connectionLedger = w.connectionLedger)
    (hd : w'.devices = w.devices)
    (hv : ∀ c, gattlibConnectionIsValid w' c = gattlibConnectionIsValid w c) : Accounted w' := by
  have hs : slotsOf w' = slotsOf w := by
    funext c
    rw [slotsOf, slotsOf, backendOf, backendOf, hd]
  refine ⟨?_, fun c d hc hq => ?_⟩
  · rw [hl, hs]
    exact h.balanced
  · rw [hd] at hc
    rw [hv] at hq
    exact h.quiet c d hc hq

theorem accounted_store (h : Accounted w) (hk : Known w c d)
    (hb : Balanced l (slotsWith (slotsOf w) c d'))
    (hq : d'.state = .disconnected → ∀ k, held d'.connection.backend k = none) :
    Accounted (store w c d' l) := by
  refine ⟨?_, fun p e hp hcase => ?_⟩
  · rw [slotsOf_store hk.cell]
    exact hb
  · rw [store_cell hk.cell] at hp
    have hvalid : gattlibConnectionIsValid (store w c d' l) p = gattlibConnectionIsValid w p := rfl
    by_cases hpc : p = c
    · subst p
      rw [if_pos rfl, Option.some.injEq] at hp
      subst e
      rcases hcase with hs | hv
      · exact hq hs
      · rw [hvalid, known_valid hk] at hv
        cases hv
    · rw [if_neg hpc] at hp
      rw [hvalid] at hcase
      exact h.quiet p e hp hcase

theorem balanced_known (h : Accounted w) (hk : w.devices.cell c = some d) :
    Balanced w.connectionLedger (slotsWith (slotsOf w) c d) := by
  rw [slotsWith_known hk]
  exact h.balanced

theorem held_known (hk : w.devices.cell c = some d) (k : ConnectionResource) :
    held (backendOf w c) k = held d.connection.backend k := by
  rw [backendOf, hk]
  rfl

theorem balanced_proxied {s : Slots ConnectionResource} (h : Balanced l (slotsWith s c d))
    (he : ∀ k, held d.connection.backend k = none) (proxy : Nat) :
    Balanced (proxiedLedger c l) (slotsWith s c (proxied d proxy l)) := by
  have hb : slotsWith s c { d with connection := { d.connection with
      backend := { d.connection.backend with device := some proxy } } } = slotsWith s c d :=
    slotsWith_congr s c (fun k => by cases k <;> rfl)
  rw [← hb] at h
  have hpath := balanced_acquireField (k := .objectPath) h (he .objectPath)
  exact balanced_acquireField (k := .propertiesChanged) hpath (he .propertiesChanged)

theorem accounted_attempted (h : Accounted w) (hk : Known w c d) (hs : d.state = .disconnected)
    (connectCb userData : Nat) {o : ConnectOutcome}
    (ho : ∀ proxy error, o ≠ .refused proxy error) :
    Accounted (attempted w c d connectCb userData o) := by
  have hw' : ∀ at' ar di, Accounted { w with
      connectCalls := w.connectCalls + 1, attempts := at', armed := ar, dispatched := di } :=
    fun _ _ _ => accounted_congr h rfl rfl (fun _ => rfl)
  have hk' : ∀ at' ar di, Known { w with
      connectCalls := w.connectCalls + 1, attempts := at', armed := ar, dispatched := di } c d :=
    fun _ _ _ => ⟨hk.cell, hk.owner, hk.mem⟩
  have hnone := h.quiet c d hk.cell (Or.inl hs)
  have hc : Balanced w.connectionLedger
      (slotsWith (slotsOf w) c (connecting d w.connectCalls connectCb userData)) := by
    have hb := balanced_known h hk.cell
    exact hb
  cases o with
  | noProxy error => exact accounted_store (hw' _ _ _) (hk' _ _ _) hc (fun hd => by cases hd)
  | refused proxy error => exact absurd rfl (ho proxy error)
  | accepted proxy =>
    have hp := balanced_proxied hc hnone proxy
    have ht := balanced_acquireField (k := .connectionTimer) hp (hnone .connectionTimer)
    exact accounted_store (hw' _ _ _) (hk' _ _ _) ht (fun hd => by cases hd)

theorem balanced_resolved (h : Accounted w) (hk : Known w c d)
    (hn : held d.connection.backend .objectList = none) (objects : Bool) :
    Balanced (resolvedLedger c objects (untimed d w.connectionLedger))
      (slotsWith (slotsOf w) c (resolved d objects (untimed d w.connectionLedger))) := by
  have hu := balanced_releaseField (balanced_known h hk.cell) .connectionTimer
  cases objects with
  | true => exact balanced_acquireField (k := .objectList) hu hn
  | false =>
    have hc := balanced_releaseField hu .objectList
    rw [show held (setField d .connectionTimer none).connection.backend .objectList = none from hn]
      at hc
    exact hc

theorem balanced_freed (h : Accounted w) (hk : Known w c d)
    (hn : held d.connection.backend .objectList = none) :
    Balanced (freedLedger d w.connectionLedger) (slotsWith (slotsOf w) c (freed d)) := by
  have h1 := balanced_releaseField (balanced_known h hk.cell) .propertiesChanged
  have h2 := balanced_releaseField h1 .connectionTimer
  have h3 := balanced_releaseField h2 .objectPath
  have hl : freedLedger d w.connectionLedger = releaseSlot (releaseSlot (releaseSlot
      w.connectionLedger (held d.connection.backend .propertiesChanged))
      (held d.connection.backend .connectionTimer))
      (held d.connection.backend .objectPath) := by
    rw [freedLedger]
    simp only [List.foldl_cons, List.foldl_nil, hn]
    rfl
  rw [hl]
  exact h3

theorem freed_empty (hn : held d.connection.backend .objectList = none) (k : ConnectionResource) :
    held (freed d).connection.backend k = none := by
  cases k with
  | propertiesChanged | connectionTimer | objectPath => rfl
  | objectList => exact hn

theorem accounted_drop (h : Accounted w) (hk : Known w c d)
    (hs : d.state = .disconnected) : Accounted (dropDevice w d.adapter c) := by
  obtain ⟨devices, he⟩ := unref_frame (removeDevice w d.adapter c) c
  have hnone := h.quiet c d hk.cell (Or.inl hs)
  have hl : (dropDevice w d.adapter c).connectionLedger = w.connectionLedger := by
    rw [dropDevice, he]
    rfl
  have hslots : slotsOf (dropDevice w d.adapter c) = slotsOf w :=
    slotsOf_unref (w := removeDevice w d.adapter c) hk.cell (fun _ => hnone)
  refine ⟨?_, fun p f hp hcase => ?_⟩
  · rw [hl, hslots]
    exact h.balanced
  · by_cases hpc : p = c
    · subst p
      have hself := (unref_cell (w := removeDevice w d.adapter c) hk.cell).symm.trans hp
      split at hself
      · cases hself
        exact hnone
      · cases hself
    · rw [cell_drop_ne hpc] at hp
      rw [valid_drop_ne hpc] at hcase
      exact h.quiet p f hp hcase

theorem accounted_append {a : Nat} {id : CString} (h : Accounted w) (hw : WellFormed w)
    (ha : a ∈ w.adapterList) :
    Accounted (appendDevice w a (newDevice w a id .disconnected)) := by
  refine ⟨?_, fun p f hp hcase => ?_⟩
  · rw [slotsOf_append (newDevice w a id .disconnected) rfl]
    exact h.balanced
  · by_cases hpn : p = w.devices.next
    · subst p
      have hf := Option.some.inj (hp.symm.trans (alloc_self _ _))
      subst f
      intro k
      cases k <;> rfl
    · have hold : (appendDevice w a (newDevice w a id .disconnected)).devices.cell p =
          w.devices.cell p := alloc_ne _ _ hpn
      rw [hold] at hp
      rw [valid_append (hw.live a ha) _ hpn] at hcase
      exact h.quiet p f hp hcase

theorem accounted_returns (h : Accounted w) (hsound : Sound w) (hr : 0 < w.connectedRunning c) :
    Accounted (connectedHandlerReturns w c) := by
  obtain ⟨d, hd⟩ := alive_of_running hsound hr
  have hcount := hsound.counted c d hd
  have hl := returns_ledger w c
  have hfreed : d.referenceCounter - 1 = 0 → ∀ k, held d.connection.backend k = none := by
    intro hz
    apply h.quiet c d hd
    right
    cases hv : gattlibConnectionIsValid w c with
    | false => rfl
    | true =>
      rw [hv, if_pos rfl] at hcount
      omega
  have hslots : slotsOf (connectedHandlerReturns w c) = slotsOf w := slotsOf_unref hd hfreed
  refine ⟨?_, fun p f hp hcase => ?_⟩
  · rw [hl, hslots]
    exact h.balanced
  · rw [valid_returns] at hcase
    by_cases hpc : p = c
    · subst p
      have hself := (unref_cell hd).symm.trans hp
      split at hself
      · cases hself
        exact h.quiet c d hd hcase
      · cases hself
    · have hold : (connectedHandlerReturns w c).devices.cell p = w.devices.cell p :=
        unref_cell_ne w hpc
      rw [hold] at hp
      exact h.quiet p f hp hcase

/-- The timer of a device is given up. -/
theorem accounted_untimed (h : Accounted w) (hk : Known w c d) {l : Ledger ConnectionResource}
    (hb : Balanced l (slotsWith (slotsOf w) c (setField d .connectionTimer none))) :
    Accounted (store w c (setField d .connectionTimer none) l) := by
  refine accounted_store h hk hb (fun hs k => ?_)
  have hn := h.quiet c d hk.cell (Or.inl hs)
  cases k with
  | connectionTimer => rfl
  | propertiesChanged => exact hn .propertiesChanged
  | objectPath => exact hn .objectPath
  | objectList => exact hn .objectList

theorem accounted_resolved (h : Accounted w) (hk : Known w c d)
    (hn : held d.connection.backend .objectList = none) (o : ResolveOutcome) :
    Accounted (store { managed w d.adapter o.manager with dispatched := dispatchedBy w d o.thread } c
      (resolved d o.objects (untimed d w.connectionLedger))
      (resolvedLedger c o.objects (untimed d w.connectionLedger))) := by
  have hk' := known_managed hk d.adapter o.manager
  obtain ⟨adapters, hw, _, hdev⟩ := managed_frame w d.adapter o.manager
  have ha : Accounted (managed w d.adapter o.manager) := by
    apply accounted_congr h
    · rw [hw]
    · rw [hw]
    · exact valid_congr (by rw [hw]) hdev
  have hs : slotsOf (managed w d.adapter o.manager) = slotsOf w := by rw [hw]; rfl
  have hb := balanced_resolved h hk hn o.objects
  rw [← hs] at hb
  have ha' : Accounted { managed w d.adapter o.manager with
      dispatched := dispatchedBy w d o.thread } :=
    accounted_congr ha rfl rfl (fun _ => rfl)
  exact accounted_store ha' ⟨hk'.cell, hk'.owner, hk'.mem⟩ hb (fun hd => by cases hd)

/-- A connection that is not valid has no timer. -/
theorem timer_valid (h : Accounted w) {t : Nat}
    (hl : Live w.connectionLedger ⟨t, .connectionTimer, c⟩) :
    gattlibConnectionIsValid w c = true := by
  have hheld := (h.balanced.held c .connectionTimer t).mpr hl
  cases hv : gattlibConnectionIsValid w c with
  | true => rfl
  | false =>
    cases hc : w.devices.cell c with
    | none =>
      rw [slotsOf, backendOf, hc] at hheld
      cases hheld
    | some d =>
      rw [slotsOf_known hc, h.quiet c d hc (Or.inr hv)] at hheld
      cases hheld

/-- A tidy step keeps the books. -/
theorem change_accounted (h : Accounted w) (hsound : Sound w) (hx : Change w e x)
    (ht : Tidy w e) : Accounted x := by
  cases hx with
  | nothing e => exact h
  | appended he ha hf => exact accounted_append h hsound.wellFormed ha
  | @rediscovered c d id o hk hid hp =>
    have hfind := known_found hsound.wellFormed hk hid
    have hb := balanced_known h hk.cell
    exact accounted_store h hk hb (fun _ k => by
      rw [← holdsNothing_held (ht hp c hfind) k, held_known hk.cell])
  | removed hk hid hs => exact accounted_drop h hk hs
  | failed hr => exact accounted_congr h rfl rfl (fun _ => rfl)
  | @attempted c d id cb data o hk hid hs =>
    refine accounted_attempted h hk hs cb data (fun proxy error ho => ?_)
    subst ho
    apply ht (known_adapterValid hk)
    have hfind := known_found hsound.wellFormed hk hid
    rw [getState_own hk hfind, hs]
  | @unmanaged c d rest o hk he hm =>
    exact accounted_untimed h hk
      (balanced_releaseField (balanced_known h hk.cell) .connectionTimer)
  | @resolved c d rest o hk he hm =>
    have hn : held d.connection.backend .objectList = none := by
      have hd := ht _ he (known_valid hk)
        (Or.inr ⟨rfl, by rw [adapterOf_known hk]; exact hm⟩)
      rw [← held_known hk.cell]
      exact hd
    exact accounted_resolved h hk hn o
  | @dropped c d rest o hk he =>
    have hn : held d.connection.backend .objectList = none := by
      have hd := ht _ he (known_valid hk) (Or.inl rfl)
      rw [← held_known hk.cell]
      exact hd
    exact accounted_store h hk (balanced_freed h hk hn) (fun _ => freed_empty hn)
  | @expired c d t hk hl =>
    have hb := balanced_release_live (balanced_known h hk.cell) hl
    rw [← slotsWith_setField] at hb
    exact accounted_untimed h hk hb
  | @expiredStale c t hv hl => cases hv.symm.trans (timer_valid h hl)
  | disconnecting hk hs =>
    have hb := balanced_known h hk.cell
    exact accounted_store h hk hb (fun hd => by cases hd)
  | @referenced c d hk =>
    have hb := balanced_known h hk.cell
    have ha : Accounted (store w c (referenced d) w.connectionLedger) :=
      accounted_store h hk hb (fun hs => h.quiet c d hk.cell (Or.inl hs))
    exact accounted_congr ha rfl rfl (fun _ => rfl)
  | dereferenced hr => exact accounted_returns h hsound hr
  | @registered c d handler hk =>
    have hb := balanced_known h hk.cell
    exact accounted_store h hk hb (fun hs => h.quiet c d hk.cell (Or.inl hs))

theorem opened_accounted (h : Opened w) : Accounted w := by
  refine ⟨⟨fun c k id => ?_, fun id hid => ?_, ?_⟩, fun c d hc => ?_⟩
  · rw [opened_slots h, Live, h.acquired]
    simp
  · rw [h.released] at hid
    cases hid
  · rw [h.released]
    exact List.nodup_nil
  · rw [h.devices c] at hc
    cases hc

end

theorem tidy_accounted :
    Preserves deviceStep Tidy (fun w => Sound w ∧ Accounted w) := by
  rintro w e w' ⟨hsound, h⟩ ht hs
  refine ⟨deviceStep_sound hsound hs, ?_⟩
  obtain ⟨x, em, cc, dc, hx, rfl⟩ := deviceStep_outcome hsound.wellFormed hs
  exact accounted_congr (change_accounted h hsound hx ht) rfl rfl (fun _ => rfl)

/-- What a connection may ask of its resources: none is released twice, the object
list of no connection has been freed, and a DISCONNECTED device has nothing left. -/
structure ReleasedOnce (w : World) : Prop where
  once : w.connectionLedger.released.Nodup
  fresh : ∀ c l, (backendOf w c).dbusObjects = some l → l ∉ w.connectionLedger.released
  nothing_left : ∀ c, gattlibConnectionIsValid w c = true → stateOf w c = .disconnected →
    w.emission = none → ∀ r ∈ w.connectionLedger.acquired, r.owner = c →
    r.id ∈ w.connectionLedger.released

theorem accounted_releasedOnce {w : World} (hsound : Sound w) (h : Accounted w) :
    ReleasedOnce w := by
  refine ⟨h.balanced.once, fun c l hl => ?_, fun c hv hs _ r hr ho => ?_⟩
  · exact ((h.balanced.held c .objectList l).mp hl).2
  · by_contra hn
    obtain ⟨d, hk⟩ := valid_known hsound.wellFormed hv
    have hheld := (h.balanced.held r.owner r.kind r.id).mpr ⟨hr, hn⟩
    rw [stateOf_known hk] at hs
    rw [ho, slotsOf_known hk.cell, h.quiet c d hk.cell (Or.inl hs)] at hheld
    cases hheld

/-- Connection resources are released exactly once in every run of tidy steps. -/
theorem resources_released_once {w : World} (h : Reach deviceStep Tidy Opened w) :
    ReleasedOnce w := by
  have hi : Sound w ∧ Accounted w :=
    reach_invariant (fun w => Sound w ∧ Accounted w)
      (fun _ ho => ⟨opened_sound ho, opened_accounted ho⟩) tidy_accounted h
  exact accounted_releasedOnce hi.1 hi.2

/-- A connection whose services are resolved to a list of objects, and its link lost. -/
theorem object_list_dangles :
    ¬∀ w, Reach deviceStep AnyStep Opened w → ReleasedOnce w := by
  intro h
  have hreach : Reach deviceStep AnyStep Opened _ := exec_reach opened_opened
    [.objectAdded 0 devicePath answered, .connect 0 devicePath 1 0 (.accepted 2),
      .emit 2 (.servicesResolved true) [], .propertyChange ⟨some 1, true, true⟩,
      .emit 2 (.connected false) [], .propertyChange ⟨some 1, true, true⟩] rfl
  exact (h _ hreach).fresh 0 4 (by decide) (by decide)

/-- A round in which the object manager lists no object. -/
theorem resources_released_once_round :
    ∃ w, ReleasedOnce w ∧ w.connectionLedger.next = 4 ∧ stateOf w 0 = .disconnected := by
  have hreach : Reach (guarded deviceStep Tidy) AnyStep Opened _ := exec_reach opened_opened
    [.objectAdded 0 devicePath answered, .connect 0 devicePath 1 0 (.accepted 2),
      .emit 2 (.servicesResolved true) [], .propertyChange ⟨some 1, false, true⟩,
      .emit 2 (.connected false) [], .propertyChange ⟨some 1, false, true⟩] rfl
  exact ⟨_, resources_released_once (guarded_reach hreach), by decide, by decide⟩

end Gattlib.ConnectionResources
