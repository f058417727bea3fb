import Gattlib.Invariants
import Mathlib.Data.List.Find
import Gattlib.RegistryMap

namespace Gattlib.StateMachine

open Library.Memory Library.Maps Library.Transition Gattlib.Strings Gattlib.State Gattlib.Registry
open Gattlib.RegistryFacts Gattlib.RegistryMap Gattlib.Connection Gattlib.Events Gattlib.Effects
open Gattlib.Changes Gattlib.Invariants

/-- The moves of a device that the steps are meant to make, from the state a
device is found in under an id to the next one. -/
inductive Edge (w : World) (a : Nat) (id : CString) :
    DeviceEvent → DeviceState → DeviceState → Prop
  | stay (e : DeviceEvent) (s : DeviceState) : Edge w a id e s s
  | discovered {e : DeviceEvent} {path : CString} (he : Discovers a path e)
      (hid : fold path = fold id) : Edge w a id e .notFound .disconnected
  | connecting {path : CString} {cb data : Nat} {o : ConnectOutcome} (hid : fold path = fold id) :
      Edge w a id (.connect a path cb data o) .disconnected .connecting
  | resolved {c : Nat} {rest : List Property} {o : ResolveOutcome}
      (hf : findDeviceWithDeviceId w a id = some c)
      (he : w.emission = some ⟨c, .servicesResolved true, rest⟩) :
      Edge w a id (.propertyChange o) .connecting .connected
  | dropped {c : Nat} {rest : List Property} {o : ResolveOutcome} {s : DeviceState}
      (hf : findDeviceWithDeviceId w a id = some c)
      (he : w.emission = some ⟨c, .connected false, rest⟩)
      (hs : s = .connecting ∨ s = .connected ∨ s = .disconnecting) :
      Edge w a id (.propertyChange o) s .disconnected
  | disconnecting {c : Nat} (hf : findDeviceWithDeviceId w a id = some c) :
      Edge w a id (.disconnect c) .connected .disconnecting
  | removed {path : CString} (hid : fold path = fold id) :
      Edge w a id (.objectRemoved a path) .disconnected .notFound

/-- A step moves every device along an edge or not at all. -/
def Legal (w : World) (e : DeviceEvent) (w' : World) : Prop :=
  ∀ a ∈ w.adapterList, ∀ id,
    Edge w a id e (gattlibDeviceGetState w a id) (gattlibDeviceGetState w' a id)

def adapterOf (w : World) (c : Nat) : Nat := ((w.devices.cell c).map Device.adapter).getD 0

/-- A device is reported as added only when it is absent or DISCONNECTED, and its
services are reported as resolved only in CONNECTING or CONNECTED. -/
def InOrder (w : World) : DeviceEvent → Prop
  | .objectAdded a path o => (o.proxy && o.address) = true → gattlibAdapterIsValid w a = true →
      gattlibDeviceGetState w a path = .notFound ∨ gattlibDeviceGetState w a path = .disconnected
  | .propertyChange o => ∀ em ∈ w.emission, em.property = .servicesResolved true →
      gattlibConnectionIsValid w em.connection = true →
      hasManager w (adapterOf w em.connection) o.manager = true →
      stateOf w em.connection = .connecting ∨ stateOf w em.connection = .connected
  | _ => True

instance (w : World) : (e : DeviceEvent) → Decidable (InOrder w e)
  | .objectAdded _ _ _ => inferInstanceAs (Decidable (_ → _ → _ ∨ _))
  | .propertyChange _ => inferInstanceAs (Decidable (∀ em ∈ w.emission, _ → _ → _ → _ ∨ _))
  | .objectRemoved _ _ | .propertiesChanged _ _ _ _ _ | .connect _ _ _ _ _ | .emit _ _ _
  | .stopConnect _ | .disconnect _ | .connectedThread _ | .connectedReturns _
  | .registerOnDisconnect _ _ => instDecidableTrue

section

variable {w w' x : World} {e : DeviceEvent} {a b c : Nat} {d d' : Device} {id path : CString}
  {l : Library.Resources.Ledger ConnectionResource}

theorem find_congr (hd : devicesOf w' a = devicesOf w a)
    (hk : ∀ p ∈ devicesOf w a, key w' p = key w p) :
    findDeviceWithDeviceId w' a id = findDeviceWithDeviceId w a id := by
  unfold findDeviceWithDeviceId
  rw [hd]
  apply List.find?_congr
  intro p hp
  rw [Bool.eq_iff_iff, compare_iff, compare_iff, hk p hp]

theorem getState_same (hd : devicesOf w' a = devicesOf w a)
    (hk : ∀ p ∈ devicesOf w a, key w' p = key w p)
    (hs : ∀ p ∈ devicesOf w a, stateOf w' p = stateOf w p) :
    gattlibDeviceGetState w' a id = gattlibDeviceGetState w a id := by
  have hf : findDeviceWithDeviceId w' a id = findDeviceWithDeviceId w a id := find_congr hd hk
  cases hw : findDeviceWithDeviceId w a id with
  | none => rw [getState_absent hw, getState_absent (hf.trans hw)]
  | some p =>
    have hp : p ∈ devicesOf w a := List.mem_of_find?_eq_some hw
    rw [getState_found hw, getState_found (hf.trans hw), hs p hp]

theorem getState_congr (hd : devicesOf w' a = devicesOf w a)
    (hc : ∀ p ∈ devicesOf w a, w'.devices.cell p = w.devices.cell p) :
    gattlibDeviceGetState w' a id = gattlibDeviceGetState w a id :=
  getState_same hd (fun p hp => by rw [key, key, hc p hp])
    (fun p hp => by rw [stateOf, stateOf, hc p hp])

/-- Rewriting the record of a device shows at the ids that find this device. -/
theorem getState_store (hk : Known w c d) (hd : Keeps d d') (a : Nat) (id : CString) :
    gattlibDeviceGetState (store w c d' l) a id =
      if findDeviceWithDeviceId w a id = some c then d'.state
      else gattlibDeviceGetState w a id := by
  have hf : findDeviceWithDeviceId (store w c d' l) a id = findDeviceWithDeviceId w a id := by
    apply find_congr
    · rfl
    intro p _
    rw [key, key, store_cell hk.cell]
    by_cases hp : p = c
    · rw [if_pos hp, hp, hk.cell, Option.map_some, Option.map_some, hd.deviceId]
    · rw [if_neg hp]
  cases hw : findDeviceWithDeviceId w a id with
  | none => rw [getState_absent hw, getState_absent (hf.trans hw), if_neg (by simp)]
  | some p =>
    rw [getState_found (hf.trans hw), stateOf, store_cell hk.cell]
    by_cases hp : p = c
    · rw [if_pos hp, if_pos (by rw [hp])]
      rfl
    · rw [if_neg hp, if_neg (fun h => hp (Option.some.inj h)), getState_found hw]
      rfl

theorem getState_own (hk : Known w c d) (hf : findDeviceWithDeviceId w a id = some c) :
    gattlibDeviceGetState w a id = d.state := by
  rw [getState_found hf, stateOf, hk.cell]
  rfl

theorem represents_exists (h : WellFormed w) (ha : a ∈ w.adapterList) :
    ∃ m, Represents w a m := by
  have hfst : (entries w a).map Prod.fst = (devicesOf w a).filterMap (key w) := by
    unfold entries
    rw [List.map_filterMap]
    apply List.filterMap_congr
    intro p _
    unfold entry key
    cases w.devices.cell p with
    | none => rfl
    | some d => rfl
  have hnodup : ((entries w a).map Prod.fst).Nodup := by
    have hid : (devicesOf w a).filterMap (key w) = ((devicesOf w a).map (key w)).filterMap id := by
      rw [List.filterMap_map]
      rfl
    rw [hfst, hid]
    apply List.Nodup.filterMap _ (h.ok a ha).distinct
    intro j k v hj hk
    rw [Option.mem_def, id] at hj hk
    rw [hj, hk]
  exact ⟨⟨entries w a, hnodup⟩, ha, h.live a ha, h.ok a ha, rfl⟩

theorem getState_append (h : WellFormed w) (ha : a ∈ w.adapterList)
    (hf : findDeviceWithDeviceId w a path = none) {new : DeviceState} (hn : new ≠ .notFound) :
    gattlibDeviceGetState (appendDevice w a (newDevice w a path new)) a id =
      if fold id = fold path then new else gattlibDeviceGetState w a id := by
  obtain ⟨m, hm⟩ := represents_exists h ha
  rw [getState_map (represents_absent hm hf hn), getState_map hm]
  simp only [mapState, lookup_put]
  split
  · rfl
  · rfl

theorem getState_append_ne (h : WellFormed w) (hb : b ∈ w.adapterList) (hne : b ≠ a)
    (d : Device) :
    gattlibDeviceGetState (appendDevice w a d) b id = gattlibDeviceGetState w b id := by
  apply getState_congr
  · exact devicesOf_append_ne hne d
  · intro p hp
    obtain ⟨e, he⟩ := (h.ok b hb).listed p hp
    rw [(listed_append he).cell, he.cell]

theorem getState_drop (h : WellFormed w) (hk : Known w c d) :
    gattlibDeviceGetState (dropDevice w d.adapter c) d.adapter id =
      if fold id = fold d.deviceId then .notFound else gattlibDeviceGetState w d.adapter id := by
  obtain ⟨m, hm⟩ := represents_exists h hk.owner
  rw [getState_map (represents_drop hm (known_find h hk)), getState_map hm]
  simp only [mapState, lookup_erase]
  split
  · rfl
  · rfl

theorem getState_drop_ne (h : WellFormed w) (hk : Known w c d) (hb : b ∈ w.adapterList)
    (hne : b ≠ d.adapter) :
    gattlibDeviceGetState (dropDevice w d.adapter c) b id = gattlibDeviceGetState w b id := by
  apply getState_congr
  · exact devicesOf_drop_ne hne
  · intro p hp
    apply cell_drop_ne
    rintro rfl
    obtain ⟨e, he⟩ := (h.ok b hb).listed p hp
    have hed : e = d := Option.some.inj (he.cell.symm.trans hk.cell)
    exact hne (by rw [← he.adapter, hed])

/-- What a step does to a record shows as an edge, if it is one for this device. -/
theorem legal_store (hk : Known w c d) (hd : Keeps d d')
    (hf : ∀ a id, findDeviceWithDeviceId w a id = findDeviceWithDeviceId x a id)
    (hg : ∀ a id, gattlibDeviceGetState w a id = gattlibDeviceGetState x a id)
    (hedge : ∀ a ∈ x.adapterList, ∀ id, findDeviceWithDeviceId x a id = some c →
      Edge x a id e d.state d'.state) :
    Legal x e (store w c d' l) := by
  intro a ha id
  rw [getState_store hk hd, hf, hg]
  by_cases hfind : findDeviceWithDeviceId x a id = some c
  · have hown := getState_own hk ((hf a id).trans hfind)
    rw [hg] at hown
    rw [if_pos hfind, hown]
    exact hedge a ha id hfind
  · rw [if_neg hfind]
    exact .stay e _

theorem find_fold (h : WellFormed w) (hk : Known w c d) (ha : a ∈ w.adapterList)
    (hf : findDeviceWithDeviceId w a id = some c) :
    a = d.adapter ∧ fold d.deviceId = fold id := by
  obtain ⟨e, he, hid⟩ := find_listed (h.ok a ha) hf
  have hed : e = d := Option.some.inj (he.cell.symm.trans hk.cell)
  subst e
  exact ⟨he.adapter.symm, hid⟩

theorem legal_appended (h : WellFormed w) (he : Discovers a path e) (ha : a ∈ w.adapterList)
    (hf : findDeviceWithDeviceId w a path = none) :
    Legal w e (appendDevice w a (newDevice w a path .disconnected)) := by
  intro b hb id
  by_cases hba : b = a
  · subst b
    rw [getState_append h ha hf (by decide)]
    by_cases hid : fold id = fold path
    · rw [if_pos hid]
      have hn : findDeviceWithDeviceId w a id = none := by
        rw [find_none_iff, hid, ← find_none_iff]
        exact hf
      rw [getState_absent hn]
      exact .discovered he hid.symm
    · rw [if_neg hid]
      exact .stay e _
  · rw [getState_append_ne h hb hba]
    exact .stay e _

theorem legal_removed (h : WellFormed w) (hk : Known w c d) (hid : fold d.deviceId = fold path)
    (hs : d.state = .disconnected) :
    Legal w (.objectRemoved d.adapter path) (dropDevice w d.adapter c) := by
  intro b hb id
  by_cases hba : b = d.adapter
  · subst b
    rw [getState_drop h hk]
    by_cases hi : fold id = fold d.deviceId
    · have hf : findDeviceWithDeviceId w d.adapter id = some c := by
        rw [find_iff (h.ok _ hk.owner), hi, ← find_iff (h.ok _ hk.owner)]
        exact known_find h hk
      rw [if_pos hi, getState_own hk hf, hs]
      exact .removed (hid.symm.trans hi.symm)
    · rw [if_neg hi]
      exact .stay _ _
  · rw [getState_drop_ne h hk hb hba]
    exact .stay _ _

theorem keeps_freed (d : Device) : Keeps d (freed d) :=
  ⟨rfl, rfl, rfl, fun _ => show DeviceState.disconnected ≠ .notFound by decide, fun hc => hc⟩

theorem keeps_resolved (d : Device) (objects : Bool) (l : Library.Resources.Ledger
    ConnectionResource) : Keeps d (resolved d objects l) :=
  ⟨rfl, rfl, rfl, fun _ => show DeviceState.connected ≠ .notFound by decide, fun hc => hc⟩

theorem known_adapterValid (hk : Known w c d) : gattlibAdapterIsValid w d.adapter = true :=
  (valid_iff w d.adapter).mpr hk.owner

theorem stateOf_known (hk : Known w c d) : stateOf w c = d.state := by
  rw [stateOf, hk.cell]
  rfl

theorem adapterOf_known (hk : Known w c d) : adapterOf w c = d.adapter := by
  rw [adapterOf, hk.cell]
  rfl

/-- A connection attempt leaves its device CONNECTING, or DISCONNECTED again. -/
theorem legal_attempted (h : WellFormed w) (hk : Known w c d) (hid : fold d.deviceId = fold path)
    (hs : d.state = .disconnected) (connectCb userData : Nat) (o : ConnectOutcome) :
    Legal w (.connect d.adapter path connectCb userData o)
      (attempted w c d connectCb userData o) := by
  have hkeeps : ∀ d' : Device, d'.deviceId = d.deviceId → d'.adapter = d.adapter →
      d'.connection.device = d.connection.device → d'.referenceCounter = d.referenceCounter →
      (d'.state = .connecting ∨ d'.state = .disconnected) → Keeps d d' := by
    intro d' h1 h2 h3 h4 h5
    refine ⟨h1, h2, h3, fun _ hn => ?_, fun hc => h4 ▸ hc⟩
    rcases h5 with h5 | h5
    · rw [h5] at hn
      cases hn
    · rw [h5] at hn
      cases hn
  have hconnecting : ∀ a ∈ w.adapterList, ∀ id, findDeviceWithDeviceId w a id = some c →
      Edge w a id (.connect d.adapter path connectCb userData o) d.state .connecting := by
    intro a ha id hf
    obtain ⟨hda, hfold⟩ := find_fold h hk ha hf
    rw [hs, hda]
    exact .connecting (hid.symm.trans hfold)
  have hk' : ∀ at' ar di, Known { w with
      connectCalls := w.connectCalls + 1, attempts := at', armed := ar, dispatched := di } c d :=
    fun _ _ _ => ⟨hk.cell, hk.owner, hk.mem⟩
  cases o with
  | noProxy error =>
    exact legal_store (hk' _ _ _) (hkeeps _ rfl rfl rfl rfl (Or.inl rfl)) (fun _ _ => rfl)
      (fun _ _ => rfl) hconnecting
  | refused proxy error =>
    refine legal_store (hk' _ _ _) (hkeeps _ rfl rfl rfl rfl (Or.inr rfl)) (fun _ _ => rfl)
      (fun _ _ => rfl) (fun a ha id hf => ?_)
    rw [hs]
    exact .stay _ _
  | accepted proxy =>
    exact legal_store (hk' _ _ _) (hkeeps _ rfl rfl rfl rfl (Or.inl rfl)) (fun _ _ => rfl)
      (fun _ _ => rfl) hconnecting

theorem find_managed (w : World) (b : Nat) (created : Option Nat) (a : Nat) (id : CString) :
    findDeviceWithDeviceId (managed w b created) a id = findDeviceWithDeviceId w a id := by
  obtain ⟨adapters, he, _, hd⟩ := managed_frame w b created
  apply find_congr (hd a)
  intro p _
  rw [key, key, he]

theorem getState_managed (w : World) (b : Nat) (created : Option Nat) (a : Nat) (id : CString) :
    gattlibDeviceGetState (managed w b created) a id = gattlibDeviceGetState w a id := by
  obtain ⟨adapters, he, _, hd⟩ := managed_frame w b created
  apply getState_congr (hd a)
  intro p _
  rw [he]

theorem getState_returns (h : Sound w) (hr : 0 < w.connectedRunning c) (a : Nat)
    (ha : a ∈ w.adapterList) (id : CString) :
    gattlibDeviceGetState (connectedHandlerReturns w c) a id = gattlibDeviceGetState w a id := by
  obtain ⟨d, hd⟩ := alive_of_running h hr
  have hl := returns_devicesOf w c a
  have hne : ∀ p, p ≠ c → (connectedHandlerReturns w c).devices.cell p = w.devices.cell p :=
    fun p hp => unref_cell_ne w hp
  have hself : c ∈ devicesOf w a → (connectedHandlerReturns w c).devices.cell c =
      some { d with referenceCounter := d.referenceCounter - 1 } := by
    intro hc
    have hcount := h.counted c d hd
    rw [valid_mem_iff.mpr ⟨a, ha, hc⟩, if_pos rfl] at hcount
    have hpos : d.referenceCounter - 1 > 0 := by omega
    exact (unref_cell hd).trans (if_pos hpos)
  apply getState_same hl
  · intro p hp
    by_cases hpc : p = c
    · subst p
      rw [key, key, hself hp, hd]
      rfl
    · rw [key, key, hne p hpc]
  · intro p hp
    by_cases hpc : p = c
    · subst p
      rw [stateOf, stateOf, hself hp, hd]
      rfl
    · rw [stateOf, stateOf, hne p hpc]

/-- A change that comes in order moves devices along edges only. -/
theorem change_legal (hsound : Sound w) (hx : Change w e x) (ho : InOrder w e) : Legal w e x := by
  have h := hsound.wellFormed
  have hsame : ∀ a id, findDeviceWithDeviceId w a id = findDeviceWithDeviceId w a id :=
    fun _ _ => rfl
  have hstates : ∀ a id, gattlibDeviceGetState w a id = gattlibDeviceGetState w a id :=
    fun _ _ => rfl
  cases hx with
  | nothing e => exact fun _ _ _ => .stay e _
  | appended he ha hf => exact legal_appended h he ha hf
  | @rediscovered c d id o hk hid hp =>
    refine legal_store hk (keeps_state (keeps_refl _) (by decide)) hsame hstates ?_
    intro a ha id' hf
    have hfind := known_found h hk hid
    have hown := getState_own hk hfind
    rcases ho hp (known_adapterValid hk) with hs | hs
    · rw [hown] at hs
      exact absurd hs (known_listed h hk).known
    · rw [hown] at hs
      rw [hs]
      exact .stay _ _
  | removed hk hid hs => exact legal_removed h hk hid hs
  | failed hr => exact fun _ _ _ => .stay _ _
  | attempted hk hid hs => exact legal_attempted h hk hid hs _ _ _
  | unmanaged hk he hm =>
    exact legal_store hk (keeps_setField (keeps_refl _) _ _) hsame hstates
      (fun _ _ _ _ => .stay _ _)
  | @resolved c d rest o hk he hm =>
    have hk' := known_managed hk d.adapter o.manager
    refine legal_store ⟨hk'.cell, hk'.owner, hk'.mem⟩ (keeps_resolved _ _ _)
      (find_managed w d.adapter o.manager) (getState_managed w d.adapter o.manager) ?_
    intro a ha id hf
    have hs := ho _ he rfl (known_valid hk) (by rw [adapterOf_known hk]; exact hm)
    rw [stateOf_known hk] at hs
    rcases hs with hs | hs
    · rw [hs]
      exact .resolved hf he
    · rw [hs]
      exact .stay _ _
  | @dropped c d rest o hk he =>
    refine legal_store hk (keeps_freed d) hsame hstates (fun a ha id hf => ?_)
    cases hs : d.state with
    | notFound => exact absurd hs (known_listed h hk).known
    | connecting => exact .dropped hf he (Or.inl rfl)
    | connected => exact .dropped hf he (Or.inr (Or.inl rfl))
    | disconnecting => exact .dropped hf he (Or.inr (Or.inr rfl))
    | disconnected => exact .stay _ _
  | expired hk hl =>
    exact legal_store hk (keeps_setField (keeps_refl _) _ _) hsame hstates
      (fun _ _ _ _ => .stay _ _)
  | expiredStale hv hl => exact fun _ _ _ => .stay _ _
  | disconnecting hk hs =>
    refine legal_store hk (keeps_state (keeps_refl _) (by decide)) hsame hstates ?_
    intro a ha id hf
    rw [hs]
    exact .disconnecting hf
  | @referenced c d hk =>
    have hkeeps : Keeps d (referenced d) :=
      ⟨rfl, rfl, rfl, fun hs => hs, fun _ => Nat.succ_pos _⟩
    have hl : Legal w (.connectedThread c) (store w c (referenced d) w.connectionLedger) :=
      legal_store hk hkeeps hsame hstates (fun _ _ _ _ => .stay _ _)
    exact hl
  | dereferenced hr =>
    intro a ha id
    rw [getState_returns hsound hr a ha]
    exact .stay _ _
  | registered hk =>
    exact legal_store hk ⟨rfl, rfl, rfl, fun hs => hs, fun hc => hc⟩ hsame hstates
      (fun _ _ _ _ => .stay _ _)

theorem inOrder_legal (h : Sound w) (hs : deviceStep w e = some w') (ho : InOrder w e) :
    Legal w e w' := by
  obtain ⟨x, em, cc, dc, hx, rfl⟩ := deviceStep_outcome h.wellFormed hs
  have hl := change_legal h hx ho
  exact hl

/-- The reported device ends in DISCONNECTED, whatever it was. -/
theorem added_disconnected (h : WellFormed w) (ha : a ∈ w.adapterList)
    (hf : findDeviceWithDeviceId w a path = some c) {o : DiscoverOutcome}
    (hp : (o.proxy && o.address) = true) :
    gattlibDeviceGetState (deviceManagerOnAddedDevice1Signal w a path o) a path =
      .disconnected := by
  obtain ⟨d, hk, rfl⟩ := find_known h ha hf
  have hs : gattlibDeviceSetState w d.adapter path .disconnected o.calloc =
      (gattlibSuccess, store w c { d with state := .disconnected } w.connectionLedger) := by
    rw [setState_present ha (h.ok _ ha) hf (by decide)]
    exact congrArg (Prod.mk _) (modifyDevice_known hk.cell _)
  obtain ⟨dc, hd⟩ := onDiscovered_noted
    (store w c { d with state := .disconnected } w.connectionLedger) d.adapter o.thread
  have hrun : deviceManagerOnAddedDevice1Signal w d.adapter path o =
      noted (store w c { d with state := .disconnected } w.connectionLedger) w.emission
        w.connectedCreated dc := by
    rw [deviceManagerOnAddedDevice1Signal, if_pos hp, known_adapterValid hk, if_neg (by decide),
      discoverDevice, hs]
    exact hd
  rw [hrun]
  have hstate := getState_store (l := w.connectionLedger) hk
    (keeps_state (keeps_refl d) (show DeviceState.disconnected ≠ .notFound by decide)) d.adapter
    path
  rw [if_pos hf] at hstate
  exact hstate

theorem legal_inOrder (h : Sound w) (hs : deviceStep w e = some w') (hl : Legal w e w') :
    InOrder w e := by
  cases e with
  | objectAdded a path o =>
    intro hp hv
    have ha := (valid_iff w a).mp hv
    cases hs
    cases hf : findDeviceWithDeviceId w a path with
    | none => exact Or.inl (getState_absent hf)
    | some c =>
      have hedge := hl a ha path
      rw [added_disconnected h.wellFormed ha hf hp] at hedge
      generalize gattlibDeviceGetState w a path = s at hedge ⊢
      cases hedge with
      | stay => exact Or.inr rfl
      | discovered he hid => exact Or.inl rfl
  | propertyChange o =>
    rintro ⟨c, p, rest⟩ he rfl hv hm
    obtain ⟨d, hk⟩ := valid_known h.wellFormed hv
    rw [adapterOf_known hk] at hm
    have hf := known_find h.wellFormed hk
    have hedge := hl d.adapter hk.owner d.deviceId
    rw [getState_own hk hf] at hedge
    rw [stateOf_known hk]
    obtain ⟨em, hem, rfl⟩ := Option.map_eq_some_iff.mp hs
    rw [Option.mem_def.mp he, Option.some.injEq] at hem
    subst em
    have hafter : gattlibDeviceGetState (onDeviceConnect w c o) d.adapter d.deviceId =
        .connected := by
      have hk' := known_managed hk d.adapter o.manager
      obtain ⟨cc, hd⟩ := dispatch_noted (managed w d.adapter o.manager) c d o.thread
      rw [onDeviceConnect_managed h.wellFormed hk hm, hd]
      have hstate := getState_store
        (l := resolvedLedger c o.objects (untimed d w.connectionLedger)) hk'
        (keeps_resolved d o.objects (untimed d w.connectionLedger)) d.adapter d.deviceId
      rw [find_managed, if_pos hf] at hstate
      exact hstate
    have hedge' : Edge w d.adapter d.deviceId (.propertyChange o) d.state .connected := by
      rw [← hafter]
      exact hedge
    generalize d.state = s at hedge' ⊢
    cases hedge' with
    | stay => exact Or.inr rfl
    | resolved hf he => exact Or.inl rfl
  | objectRemoved | propertiesChanged | connect | emit | stopConnect | disconnect
  | connectedThread | connectedReturns | registerOnDisconnect => trivial

end

theorem device_sound : Preserves deviceStep AnyStep Sound :=
  fun _ _ _ h _ hs => deviceStep_sound h hs

/-- The connection state machine: the steps of a run keep to its edges exactly if
every one of them comes in order. -/
theorem states_follow_edges {tr : List (World × DeviceEvent × World)} {w : World}
    (h : Run deviceStep Opened tr w) :
    (∀ x ∈ tr, Legal x.1 x.2.1 x.2.2) ↔ ∀ x ∈ tr, InOrder x.1 x.2.1 := by
  obtain ⟨_, hsteps⟩ := run_steps (fun _ => opened_sound) device_sound h (fun _ _ => trivial)
  constructor
  · intro hl x hx
    exact legal_inOrder (hsteps x hx).1 (hsteps x hx).2 (hl x hx)
  · intro ho x hx
    exact inOrder_legal (hsteps x hx).1 (hsteps x hx).2 (ho x hx)

theorem attempting_run : Run deviceStep Opened
    [(discovered, .connect 0 devicePath 1 0 (.accepted 2), attempting),
      (opened, .objectAdded 0 devicePath answered, discovered)] attempting :=
  .next (.next (.start opened_opened) rfl) rfl

/-- A device that is reported again while it is connecting. -/
theorem states_leave_edges : ¬∀ (tr : List (World × DeviceEvent × World)) (w : World),
    Run deviceStep Opened tr w → ∀ x ∈ tr, Legal x.1 x.2.1 x.2.2 := by
  intro h
  have hrun := Run.next (e := .objectAdded 0 devicePath answered) attempting_run rfl
  have hl := h _ _ hrun _ List.mem_cons_self 0 (by decide) devicePath
  have hbefore : gattlibDeviceGetState attempting 0 devicePath = .connecting := by decide
  have hafter : gattlibDeviceGetState
      (deviceManagerOnAddedDevice1Signal attempting 0 devicePath answered) 0 devicePath =
      .disconnected := by decide
  rw [hbefore, hafter] at hl
  cases hl

theorem states_follow_edges_attempting :
    Legal discovered (.connect 0 devicePath 1 0 (.accepted 2)) attempting ∧
      Legal opened (.objectAdded 0 devicePath answered) discovered := by
  have hl := (states_follow_edges attempting_run).mpr (by decide)
  exact ⟨hl _ List.mem_cons_self, hl _ (List.mem_cons_of_mem _ List.mem_cons_self)⟩

end Gattlib.StateMachine
