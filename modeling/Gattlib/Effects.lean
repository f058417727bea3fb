import Gattlib.Events
import Gattlib.RegistryFacts

namespace Gattlib.Effects

open Library.Memory Library.Resources Gattlib.Strings Gattlib.State Gattlib.Registry
open Gattlib.RegistryFacts Gattlib.Connection Gattlib.Events

/-- A device in the list of its adapter, with its record. -/
structure Known (w : World) (c : Nat) (d : Device) : Prop where
  cell : w.devices.cell c = some d
  owner : d.adapter ∈ w.adapterList
  mem : c ∈ devicesOf w d.adapter

/-- The world with the record of one device and the ledger replaced. -/
def store (w : World) (c : Nat) (d : Device) (l : Ledger ConnectionResource) : World :=
  { w with devices := modify w.devices c (fun _ => d), connectionLedger := l }

def setField (d : Device) (k : ConnectionResource) (v : Option Nat) : Device :=
  { d with connection := { d.connection with backend := setHeld v d.connection.backend k } }

section

variable {w : World} {a c : Nat} {d d' : Device} {l l' : Ledger ConnectionResource}

theorem known_valid (hk : Known w c d) : gattlibConnectionIsValid w c = true := by
  unfold gattlibConnectionIsValid
  rw [List.any_eq_true]
  exact ⟨d.adapter, hk.owner, by simpa using hk.mem⟩

theorem valid_known (h : WellFormed w) (hv : gattlibConnectionIsValid w c = true) :
    ∃ d, Known w c d := by
  unfold gattlibConnectionIsValid at hv
  rw [List.any_eq_true] at hv
  obtain ⟨a, ha, hc⟩ := hv
  have hm : c ∈ devicesOf w a := by simpa using hc
  obtain ⟨d, hd⟩ := (h.ok a ha).listed c hm
  exact ⟨d, hd.cell, hd.adapter.symm ▸ ha, hd.adapter.symm ▸ hm⟩

theorem known_listed (h : WellFormed w) (hk : Known w c d) : Listed w d.adapter c d := by
  obtain ⟨e, he⟩ := (h.ok d.adapter hk.owner).listed c hk.mem
  have hde : e = d := Option.some.inj (he.cell.symm.trans hk.cell)
  exact hde ▸ he

theorem known_find (h : WellFormed w) (hk : Known w c d) :
    findDeviceWithDeviceId w d.adapter d.deviceId = some c :=
  find_self (h.ok d.adapter hk.owner) hk.mem hk.cell

/-- A device is found under every id that is the same but for case. -/
theorem known_found (h : WellFormed w) (hk : Known w c d) {id : CString}
    (hid : fold d.deviceId = fold id) : findDeviceWithDeviceId w d.adapter id = some c := by
  rw [find_iff (h.ok _ hk.owner), ← hid, ← find_iff (h.ok _ hk.owner)]
  exact known_find h hk

/-- What an id finds on a valid adapter is listed there, under that id but for case. -/
theorem find_device (h : WellFormed w) (ha : a ∈ w.adapterList) {id : CString}
    (hf : findDeviceWithDeviceId w a id = some c) :
    ∃ d, Known w c d ∧ Listed w a c d ∧ fold d.deviceId = fold id := by
  obtain ⟨d, hl, hid⟩ := find_listed (h.ok a ha) hf
  have hm := ((find_iff (h.ok a ha)).mp hf).1
  exact ⟨d, ⟨hl.cell, hl.adapter.symm ▸ ha, hl.adapter.symm ▸ hm⟩, hl, hid⟩

theorem find_known (h : WellFormed w) (ha : a ∈ w.adapterList) {id : CString}
    (hf : findDeviceWithDeviceId w a id = some c) : ∃ d, Known w c d ∧ d.adapter = a := by
  obtain ⟨d, hk, hl, _⟩ := find_device h ha hf
  exact ⟨d, hk, hl.adapter⟩

@[simp] theorem store_devices :
    (store w c d l).devices = modify w.devices c (fun _ => d) := rfl

@[simp] theorem store_ledger : (store w c d l).connectionLedger = l := rfl

theorem store_cell (hk : w.devices.cell c = some d) (q : Nat) :
    (store w c d' l).devices.cell q = if q = c then some d' else w.devices.cell q := by
  rw [store_devices, modify_cell, hk]
  rfl

theorem store_self (hk : w.devices.cell c = some d) : store w c d w.connectionLedger = w := by
  unfold store
  rw [modify_same hk]

theorem modifyDevice_known (hk : w.devices.cell c = some d) (f : Device → Device) :
    modifyDevice w c f = store w c (f d) w.connectionLedger := by
  unfold modifyDevice store
  rw [modify_known hk]

theorem store_store : store (store w c d l) c d' l' = store w c d' l' := by
  unfold store
  rw [modify_modify]
  rfl

theorem known_store (hk : Known w c d) (ha : d'.adapter = d.adapter) :
    Known (store w c d' l) c d' := by
  refine ⟨?_, ?_, ?_⟩
  · rw [store_cell hk.cell, if_pos rfl]
  · rw [ha]
    exact hk.owner
  · rw [ha]
    exact hk.mem

theorem wellFormed_store (h : WellFormed w) (hk : Known w c d) (hd : Keeps d d') :
    WellFormed (store w c d' l) := by
  have hm : WellFormed (modifyDevice w c (fun _ => d')) := by
    apply wellFormed_modifyDevice h
    intro e he
    rw [hk.cell, Option.some.injEq] at he
    exact he ▸ hd
  exact wellFormed_congr hm rfl hm.live (fun _ => rfl) rfl

/-- On a known device the setter stores the new state and does no more. -/
theorem setState_known (h : WellFormed w) (hk : Known w c d) {new : DeviceState}
    (hn : new ≠ .notFound) (calloc : Bool) :
    gattlibDeviceSetState w d.adapter d.deviceId new calloc =
      (gattlibSuccess, store w c { d with state := new } w.connectionLedger) := by
  rw [setState_present hk.owner (h.ok d.adapter hk.owner) (known_find h hk) hn]
  unfold setDeviceState
  rw [modifyDevice_known hk.cell]

/-! The operations on one connection, on a world whose record of it is in sight. -/

theorem backendOf_store (hk : w.devices.cell c = some d) :
    backendOf (store w c d' l) c = d'.connection.backend := by
  unfold backendOf
  rw [store_cell hk, if_pos rfl]
  rfl

theorem acquireField_store (k : ConnectionResource) :
    acquireField (store w c d l) c k =
      store w c (setField d k (some l.next)) (acquire l k c) := by
  unfold acquireField modifyBackend modifyConnection modifyDevice store
  rw [modify_modify]
  rfl

theorem releaseHeld_store (hk : w.devices.cell c = some d') (k : ConnectionResource) :
    releaseHeld (store w c d l) c k =
      store w c d (releaseSlot l (held d.connection.backend k)) := by
  unfold releaseHeld
  rw [backendOf_store hk]
  cases held d.connection.backend k with
  | none => rfl
  | some id => rfl

theorem clearField_store (k : ConnectionResource) :
    clearField (store w c d l) c k = store w c (setField d k none) l := by
  unfold clearField modifyBackend modifyConnection modifyDevice store
  rw [modify_modify]
  rfl

theorem releaseField_store (hk : w.devices.cell c = some d') (k : ConnectionResource) :
    releaseField (store w c d l) c k =
      store w c (setField d k none) (releaseSlot l (held d.connection.backend k)) := by
  unfold releaseField
  rw [releaseHeld_store hk, clearField_store]

theorem releaseField_known (hk : Known w c d) (k : ConnectionResource) :
    releaseField w c k = store w c (setField d k none)
      (releaseSlot w.connectionLedger (held d.connection.backend k)) := by
  have hs := releaseField_store (d := d) (l := w.connectionLedger) hk.cell k
  rwa [store_self hk.cell] at hs

theorem keeps_refl (d : Device) : Keeps d d := ⟨rfl, rfl, rfl, fun h => h, fun h => h⟩

theorem keeps_setField {e : Device} (h : Keeps d e) (k : ConnectionResource) (v : Option Nat) :
    Keeps d (setField e k v) :=
  ⟨h.deviceId, h.adapter, h.back, h.known, h.counted⟩

theorem keeps_state {e : Device} (h : Keeps d e) {new : DeviceState} (hn : new ≠ .notFound) :
    Keeps d { e with state := new } :=
  ⟨h.deviceId, h.adapter, h.back, fun _ => hn, h.counted⟩

/-- The setter on a device whose record has just been rewritten. -/
theorem setState_store (h : WellFormed w) (hk : Known w c d) (hd : Keeps d d')
    {new : DeviceState} (hn : new ≠ .notFound) (calloc : Bool) :
    (gattlibDeviceSetState (store w c d' l) d.adapter d.deviceId new calloc).2 =
      store w c { d' with state := new } l := by
  have hs := setState_known (wellFormed_store (l := l) h hk hd) (known_store hk hd.adapter) hn calloc
  rw [← hd.adapter, ← hd.deviceId, hs, store_ledger, store_store]

end

/-! What is left of a connection after its calls, for the record and for the ledger. -/

/-- The record `gattlib_connection_free` leaves: it forgets all but `dbus_objects`. -/
def freed (d : Device) : Device :=
  { setField (setField (setField d .propertiesChanged none) .connectionTimer none)
      .objectPath none with state := .disconnected }

def freedLedger (d : Device) (l : Ledger ConnectionResource) : Ledger ConnectionResource :=
  [ConnectionResource.propertiesChanged, .connectionTimer, .objectPath, .objectList].foldl
    (fun l k => releaseSlot l (held d.connection.backend k)) l

def resolved (d : Device) (objects : Bool) (l : Ledger ConnectionResource) : Device :=
  { setField (setField d .connectionTimer none) .objectList
      (if objects then some l.next else none) with state := .connected }

def resolvedLedger (c : Nat) (objects : Bool) (l : Ledger ConnectionResource) :
    Ledger ConnectionResource :=
  if objects then acquire l .objectList c else l

def untimed (d : Device) (l : Ledger ConnectionResource) : Ledger ConnectionResource :=
  releaseSlot l (held d.connection.backend .connectionTimer)

/-- The record with the handler of a call of `gattlib_connect`. -/
def answering (d : Device) (call connectCb userData : Nat) : Device :=
  { d with connection := { d.connection with
      onConnection := ⟨some connectCb, userData⟩
      attempt := call } }

def connecting (d : Device) (call connectCb userData : Nat) : Device :=
  { answering d call connectCb userData with state := .connecting }

/-- The record with its proxy, its object path and its property handler. -/
def proxied (d : Device) (proxy : Nat) (l : Ledger ConnectionResource) : Device :=
  setField (setField { d with connection := { d.connection with
      backend := { d.connection.backend with device := some proxy } } }
    .objectPath (some l.next)) .propertiesChanged (some (l.next + 1))

def proxiedLedger (c : Nat) (l : Ledger ConnectionResource) : Ledger ConnectionResource :=
  acquire (acquire l .objectPath c) .propertiesChanged c

section

variable {w : World} {c : Nat} {d d' : Device} {l : Ledger ConnectionResource}

theorem connectionFree_known (h : WellFormed w) (hk : Known w c d) :
    gattlibConnectionFree w c = store w c (freed d) (freedLedger d w.connectionLedger) := by
  unfold gattlibConnectionFree
  rw [hk.cell]
  dsimp only
  rw [releaseField_known hk, releaseField_store hk.cell, releaseField_store hk.cell,
    releaseHeld_store hk.cell]
  apply setState_store h hk _ (by decide)
  exact keeps_setField (keeps_setField (keeps_setField (keeps_refl d) _ _) _ _) _ _

theorem onDisconnected_known (h : WellFormed w) (hk : Known w c d) :
    gattlibOnDisconnectedDevice w c =
      store w c (freed d) (freedLedger d w.connectionLedger) := by
  unfold gattlibOnDisconnectedDevice
  rw [known_valid hk]
  exact connectionFree_known h hk

/-- The dispatch of the connection handler, given the record it is read from. -/
def dispatch (w : World) (c : Nat) (d : Device) (thread : Bool) : World :=
  if gattlibHasValidHandler d.connection.onConnection && thread then
    { w with
      dispatched := (d.connection.attempt, gattlibSuccess) :: w.dispatched
      connectedCreated := Function.update w.connectedCreated c (w.connectedCreated c + 1) }
  else w

theorem dispatch_congr (ho : d'.connection.onConnection = d.connection.onConnection)
    (ha : d'.connection.attempt = d.connection.attempt) (thread : Bool) :
    dispatch w c d' thread = dispatch w c d thread := by
  unfold dispatch
  rw [ho, ha]

theorem onConnected_store (hk : Known w c d) (ha : d'.adapter = d.adapter) (thread : Bool) :
    gattlibOnConnectedDevice (store w c d' l) c thread =
      store (dispatch w c d' thread) c d' l := by
  have hc := (known_store (l := l) hk ha).cell
  unfold gattlibOnConnectedDevice dispatch
  rw [known_valid (known_store hk ha)]
  simp only [onConnectionOf, attemptOf, hc, Option.map_some, Option.getD_some]
  by_cases hb : (gattlibHasValidHandler d'.connection.onConnection && thread) = true
  · rw [if_pos hb, if_pos hb]
    rfl
  · rw [if_neg hb, if_neg hb]
    rfl

/-- The adapter with its device manager, if it has one or one can be created. -/
def managed (w : World) (a : Nat) (created : Option Nat) : World :=
  (getDeviceManagerFromAdapter w a created).2

def hasManager (w : World) (a : Nat) (created : Option Nat) : Bool :=
  (getDeviceManagerFromAdapter w a created).1.isSome

theorem getDeviceManager_store (a : Nat) (created : Option Nat) :
    getDeviceManagerFromAdapter (store w c d l) a created =
      ((getDeviceManagerFromAdapter w a created).1, store (managed w a created) c d l) := by
  have hcell : (store w c d l).adapters.cell a = w.adapters.cell a := rfl
  simp only [managed, getDeviceManagerFromAdapter, hcell]
  cases w.adapters.cell a with
  | none => rfl
  | some ad =>
    dsimp only
    cases ad.backend.deviceManager with
    | some m => rfl
    | none =>
      cases created with
      | none => rfl
      | some m => rfl

/-- Only the manager of the adapter changes, if anything. -/
theorem managed_frame (w : World) (a : Nat) (created : Option Nat) :
    ∃ adapters, managed w a created = { w with adapters := adapters } ∧
      (∀ b ad, w.adapters.cell b = some ad → ∃ ad', adapters.cell b = some ad') ∧
      ∀ b, devicesOf (managed w a created) b = devicesOf w b := by
  unfold managed getDeviceManagerFromAdapter
  cases ha : w.adapters.cell a with
  | none => exact ⟨w.adapters, rfl, fun b ad hb => ⟨ad, hb⟩, fun _ => rfl⟩
  | some ad =>
    dsimp only
    cases ad.backend.deviceManager with
    | some m => exact ⟨w.adapters, rfl, fun b ad hb => ⟨ad, hb⟩, fun _ => rfl⟩
    | none =>
      cases created with
      | none => exact ⟨w.adapters, rfl, fun b ad hb => ⟨ad, hb⟩, fun _ => rfl⟩
      | some m =>
        refine ⟨_, rfl, fun b bd hb => ?_, fun b => ?_⟩
        · rw [modify_cell]
          by_cases hba : b = a
          · rw [if_pos hba, ha]
            exact ⟨_, rfl⟩
          · rw [if_neg hba]
            exact ⟨bd, hb⟩
        · unfold devicesOf modifyAdapter
          rw [modify_cell]
          by_cases hba : b = a
          · rw [if_pos hba, hba, ha]
            rfl
          · rw [if_neg hba]

theorem managed_none {a : Nat} {created : Option Nat} (h : hasManager w a created = false) :
    managed w a created = w := by
  unfold hasManager getDeviceManagerFromAdapter at h
  unfold managed getDeviceManagerFromAdapter
  cases ha : w.adapters.cell a with
  | none => rfl
  | some ad =>
    rw [ha] at h
    dsimp only at h ⊢
    cases hm : ad.backend.deviceManager with
    | some m => rfl
    | none =>
      cases created with
      | none => rfl
      | some m =>
        rw [hm] at h
        cases h

theorem wellFormed_managed (h : WellFormed w) (a : Nat) (created : Option Nat) :
    WellFormed (managed w a created) := by
  obtain ⟨adapters, he, hl, hd⟩ := managed_frame w a created
  apply wellFormed_congr h
  · rw [he]
  · intro b hb
    obtain ⟨ad, had⟩ := h.live b hb
    rw [he]
    exact hl b ad had
  · exact hd
  · rw [he]

theorem known_managed (hk : Known w c d) (a : Nat) (created : Option Nat) :
    Known (managed w a created) c d := by
  obtain ⟨adapters, he, _, hd⟩ := managed_frame w a created
  refine ⟨?_, ?_, ?_⟩
  · rw [he]
    exact hk.cell
  · rw [he]
    exact hk.owner
  · rw [hd]
    exact hk.mem

theorem onDeviceConnect_unmanaged (hk : Known w c d) {o : ResolveOutcome}
    (hm : hasManager w d.adapter o.manager = false) :
    onDeviceConnect w c o =
      store w c (setField d .connectionTimer none) (untimed d w.connectionLedger) := by
  have hn : (getDeviceManagerFromAdapter w d.adapter o.manager).1 = none := by
    simpa [hasManager] using hm
  unfold onDeviceConnect
  rw [known_valid hk, hk.cell]
  simp only [Bool.true_eq_false, if_false]
  rw [releaseField_known hk, getDeviceManager_store, hn, managed_none hm]
  rfl

theorem onDeviceConnect_managed (h : WellFormed w) (hk : Known w c d) {o : ResolveOutcome}
    (hm : hasManager w d.adapter o.manager = true) :
    onDeviceConnect w c o =
      store (dispatch (managed w d.adapter o.manager) c d o.thread) c
        (resolved d o.objects (untimed d w.connectionLedger))
        (resolvedLedger c o.objects (untimed d w.connectionLedger)) := by
  obtain ⟨m, hn⟩ := Option.isSome_iff_exists.mp hm
  unfold onDeviceConnect
  rw [known_valid hk, hk.cell]
  simp only [Bool.true_eq_false, if_false]
  have hu : releaseSlot w.connectionLedger (held d.connection.backend .connectionTimer) =
      untimed d w.connectionLedger := rfl
  rw [releaseField_known hk, hu, getDeviceManager_store, hn]
  dsimp only
  have hk' := known_managed hk d.adapter o.manager
  have hw' := wellFormed_managed h d.adapter o.manager
  have hg : getObjects (store (managed w d.adapter o.manager) c
        (setField d .connectionTimer none) (untimed d w.connectionLedger)) c o.objects =
      store (managed w d.adapter o.manager) c
        (setField (setField d .connectionTimer none) .objectList
          (if o.objects then some (untimed d w.connectionLedger).next else none))
        (resolvedLedger c o.objects (untimed d w.connectionLedger)) := by
    unfold getObjects resolvedLedger
    cases o.objects with
    | true => exact acquireField_store _
    | false => exact clearField_store _
  have hkeeps : Keeps d (setField (setField d .connectionTimer none) .objectList
      (if o.objects then some (untimed d w.connectionLedger).next else none)) :=
    keeps_setField (keeps_setField (keeps_refl d) _ _) _ _
  have hdone := onConnected_store
    (l := resolvedLedger c o.objects (untimed d w.connectionLedger)) hk'
    (show (resolved d o.objects (untimed d w.connectionLedger)).adapter = d.adapter from rfl)
    o.thread
  have hread : dispatch (managed w d.adapter o.manager) c
      (resolved d o.objects (untimed d w.connectionLedger)) o.thread =
      dispatch (managed w d.adapter o.manager) c d o.thread := dispatch_congr rfl rfl _
  rw [hread] at hdone
  rw [hg, setState_store hw' hk' hkeeps (by decide)]
  exact hdone

theorem stopConnect_known (hk : Known w c d) :
    stopConnectFunc w c = store w c (setField d .connectionTimer none) w.connectionLedger := by
  unfold stopConnectFunc
  rw [known_valid hk]
  have hs := clearField_store (w := w) (c := c) (d := d) (l := w.connectionLedger) .connectionTimer
  rwa [store_self hk.cell] at hs

theorem disconnect_known (h : WellFormed w) (hk : Known w c d)
    (hc : gattlibConnectionIsConnected w c = true) :
    (gattlibDisconnect w c).2 =
      store w c { d with state := .disconnecting } w.connectionLedger := by
  unfold gattlibDisconnect
  rw [hc, hk.cell]
  simp only [Bool.true_eq_false, if_false]
  rw [setState_known h hk (by decide)]

/-- The critical section of a call that finds its device DISCONNECTED, up to the
answer of D-Bus. -/
theorem connectBegin_known (h : WellFormed w) (hk : Known w c d) (call connectCb userData : Nat) :
    connectBegin w c d call connectCb userData =
      store { w with attempts := (call, c) :: w.attempts } c
        (connecting d call connectCb userData) w.connectionLedger := by
  let w' : World := { w with attempts := (call, c) :: w.attempts }
  have hw' : WellFormed w' := wellFormed_congr h rfl h.live (fun _ => rfl) rfl
  have hk' : Known w' c d := ⟨hk.cell, hk.owner, hk.mem⟩
  have hs : modifyConnection w' c (fun b =>
      { b with onConnection := ⟨some connectCb, userData⟩, attempt := call }) =
      store w' c (answering d call connectCb userData) w.connectionLedger :=
    modifyDevice_known hk'.cell _
  have hkeeps : Keeps d (answering d call connectCb userData) :=
    ⟨rfl, rfl, rfl, fun h => h, fun h => h⟩
  show (gattlibDeviceSetState (modifyConnection w' c _) d.adapter d.deviceId .connecting true).2 = _
  rw [hs, setState_store hw' hk' hkeeps (by decide)]
  rfl

theorem connectProxy_store (proxy : Nat) :
    connectProxy (store w c d l) c proxy =
      store w c (proxied d proxy l) (proxiedLedger c l) := by
  have hp : modifyBackend (store w c d l) c (fun b => { b with device := some proxy }) =
      store w c { d with connection := { d.connection with
        backend := { d.connection.backend with device := some proxy } } } l := by
    unfold modifyBackend modifyConnection modifyDevice store
    rw [modify_modify]
    rfl
  unfold connectProxy
  dsimp only
  rw [hp, acquireField_store, acquireField_store]
  rfl

theorem armTimer_store (call : Nat) :
    armTimer (store w c d l) c call =
      store { w with armed := (call, l.next) :: w.armed } c
        (setField d .connectionTimer (some l.next)) (acquire l .connectionTimer c) :=
  acquireField_store (w := { w with armed := (call, l.next) :: w.armed }) .connectionTimer

end

end Gattlib.Effects
