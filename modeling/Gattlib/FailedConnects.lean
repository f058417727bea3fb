import Gattlib.ConnectionSlots
import Gattlib.DevicePaths
import Gattlib.SystemInvariants

namespace Gattlib.FailedConnects

open Library.Memory Library.Resources Library.Transition Gattlib.Strings Gattlib.State
open Gattlib.Registry Gattlib.RegistryFacts Gattlib.Connection Gattlib.Events Gattlib.Effects
open Gattlib.Changes Gattlib.Invariants Gattlib.ConnectionSlots Gattlib.Adapters
open Gattlib.StepOutcomes Gattlib.Frames
open Gattlib.SystemInvariants Gattlib.DevicePaths

/-- What D-Bus and the allocator answer while the default adapter is opened. -/
structure OpenOutcome where
  proxy : Option Nat
  calloc : Bool

/-- `init_default_adapter`: both critical sections of the open, one after the other. -/
def initDefaultAdapter (w : World) (o : OpenOutcome) : Option Nat × World :=
  match gattlibAdapterFromId w (adapterObjectPath hci0) with
  | some adapter => (some adapter, gattlibAdapterOpenLookup w hci0)
  | none =>
    match o.proxy with
    | none => (none, w)
    | some adapterProxy =>
      if o.calloc then
        (some w.adapters.next,
          gattlibAdapterOpenAppend (gattlibAdapterOpenLookup w hci0) hci0 adapterProxy)
      else (none, w)

/-- The arguments of `gattlib_connect`. A NULL adapter and a NULL callback are `none`. -/
structure ConnectCall where
  adapter : Option Nat
  dst : CString
  connectCb : Option Nat
  userData : Nat

/-- `adapter_name`, which stays NULL for the default adapter. -/
def adapterNameOf (w : World) (call : ConnectCall) : Option CString :=
  call.adapter.bind (fun adapter => (w.adapters.cell adapter).map Adapter.name)

def connectAdapter (w : World) (call : ConnectCall) (opened : OpenOutcome) : Option Nat × World :=
  match call.adapter with
  | none => initDefaultAdapter w opened
  | some adapter => (some adapter, w)

/-- The whole of `gattlib_connect`. -/
def gattlibConnectWhole (w : World) (call : ConnectCall) (opened : OpenOutcome)
    (o : ConnectOutcome) : Ret × World :=
  match connectAdapter w call opened with
  | (none, w) => (gattlibNotFound, w)
  | (some adapter, w) =>
    match call.connectCb with
    | none => (gattlibInvalidParameter, w)
    | some connectCb =>
      gattlibConnect w adapter (getDevicePathFromMac (adapterNameOf w call) call.dst) connectCb
        call.userData o

/-- A call that finds its device in state DISCONNECTED and gets a failing answer. -/
structure Fails (w : World) (call : ConnectCall) (adapter device : Nat) (o : ConnectOutcome) :
    Prop where
  argument : call.adapter = some adapter ∨
    call.adapter = none ∧ gattlibAdapterFromId w (adapterObjectPath hci0) = some adapter
  listed : gattlibAdapterIsValid w adapter = true
  callback : call.connectCb.isSome = true
  present : gattlibDeviceGetDevice w adapter
    (getDevicePathFromMac (adapterNameOf w call) call.dst) = some device
  disconnected : stateOf w device = .disconnected
  failed : ∀ proxy, o ≠ .accepted proxy

def referencesOf (w : World) (adapter : Nat) : Option Nat :=
  (w.adapters.cell adapter).map Adapter.referenceCounter

def objectPathOf (w : World) (device : Nat) : Option Nat := (backendOf w device).deviceObjectPath

/-- The callback has been called once with the code that is returned, and the rest is as before. -/
structure LeavesNothing (w : World) (adapter device : Nat) (r : Ret × World) : Prop where
  reported : r.2.dispatched = (w.connectCalls, r.1) :: w.dispatched
  state : stateOf r.2 device = stateOf w device
  path : objectPathOf r.2 device = objectPathOf w device
  handlers : liveCount r.2.connectionLedger device .propertiesChanged =
    liveCount w.connectionLedger device .propertiesChanged
  timers : liveCount r.2.connectionLedger device .connectionTimer =
    liveCount w.connectionLedger device .connectionTimer
  references : referencesOf r.2 adapter = referencesOf w adapter

/-! The ledger in a run of the whole library -/

/-- A step outside the connection side: the devices that are left keep their connections. -/
structure Backed (w w' : World) : Prop where
  ledger : w'.connectionLedger = w.connectionLedger
  kept : ∀ p d', w'.devices.cell p = some d' →
    ∃ d, w.devices.cell p = some d ∧ d'.connection = d.connection

section

variable {w w' w'' : World} {a c p : Nat} {d : Device}

theorem backed_same (hl : w'.connectionLedger = w.connectionLedger)
    (hd : w'.devices = w.devices) : Backed w w' :=
  ⟨hl, fun _ d' hp => ⟨d', hd ▸ hp, rfl⟩⟩

theorem backed_trans (h : Backed w w') (h' : Backed w' w'') : Backed w w'' := by
  refine ⟨h'.ledger.trans h.ledger, fun p d'' hp => ?_⟩
  obtain ⟨d', hd', he'⟩ := h'.kept p d'' hp
  obtain ⟨d, hd, he⟩ := h.kept p d' hd'
  exact ⟨d, hd, he'.trans he⟩

theorem backed_unref (w : World) (c : Nat) : Backed w (gattlibDeviceUnref w c) := by
  obtain ⟨devices, he⟩ := unref_frame w c
  refine ⟨by rw [he], fun p d' hp => ?_⟩
  by_cases hpc : p = c
  · subst p
    cases hd : w.devices.cell c with
    | none =>
      rw [gattlibDeviceUnref, hd] at hp
      cases hd.symm.trans hp
    | some d =>
      rw [unref_cell hd] at hp
      split at hp
      · cases hp
        exact ⟨d, rfl, rfl⟩
      · cases hp
  · rw [unref_cell_ne w hpc] at hp
    exact ⟨d', hp, rfl⟩

theorem backed_devicesFree (l : List Nat) (w : World) : Backed w (l.foldl gattlibDeviceFree w) := by
  induction l generalizing w with
  | nil => exact backed_same rfl rfl
  | cons c l ih =>
    have hfree : Backed w (gattlibDeviceFree w c) := by
      unfold gattlibDeviceFree
      split
      · exact backed_unref w c
      · exact backed_same rfl rfl
    exact backed_trans hfree (ih _)

theorem backed_adapterUnref (w : World) (a : Nat) : Backed w (gattlibAdapterUnref w a) := by
  unfold gattlibAdapterUnref
  split
  · exact backed_same rfl rfl
  · split
    · exact backed_same rfl rfl
    · exact backed_trans (backed_devicesFree (devicesOf w a) w) (backed_same rfl rfl)

theorem backed_scan (h : ScanFrame w w') : Backed w w' := by
  have hledger := congrArg World.connectionLedger h.outside
  have hdevices := congrArg World.devices h.outside
  exact backed_same hledger hdevices

theorem backed_effect (he : AdapterEffect w w') : Backed w w' := by
  cases he with
  | counted op cl wa le ho dc po nu st => exact backed_same rfl rfl
  | referenced a => exact backed_same rfl rfl
  | unreferenced a => exact backed_adapterUnref w a
  | disabled a discovering stop hv =>
    exact backed_scan (scanFrame_disable (scanFrame_refl w) a discovering stop)

theorem backed_effects (h : Relation.ReflTransGen AdapterEffect w w') : Backed w w' := by
  induction h with
  | refl => exact backed_same rfl rfl
  | tail _ he ih => exact backed_trans ih (backed_effect he)

theorem backed_adapterStep {e : AdapterEvent} (hs : adapterStep w e = some w') : Backed w w' := by
  cases adapterStep_outcome hs with
  | appended name proxy => exact backed_same rfl rfl
  | effects hs => exact backed_effects hs

theorem owned_backed (h : Owned w.connectionLedger (slotsOf w)) (hb : Backed w w') :
    Owned w'.connectionLedger (slotsOf w') := by
  rw [hb.ledger]
  refine ⟨fun c k id hid => ?_, h.known⟩
  unfold slotsOf backendOf at hid
  cases hd' : w'.devices.cell c with
  | none =>
    rw [hd'] at hid
    cases k with
    | propertiesChanged | connectionTimer | objectPath | objectList => cases hid
  | some d' =>
    obtain ⟨d, hd, he⟩ := hb.kept c d' hd'
    apply h.held
    unfold slotsOf backendOf
    rw [hd']  at hid
    rw [hd, ← hid, Option.map_some, Option.map_some, Option.getD_some, Option.getD_some, he]

theorem owned_system {e : SystemEvent} (h : SystemSound w)
    (ho : Owned w.connectionLedger (slotsOf w)) (hs : systemStep w e = some w') :
    Owned w'.connectionLedger (slotsOf w') := by
  cases e with
  | device e =>
    obtain ⟨x, em, cc, dc, hx, rfl⟩ := deviceStep_outcome h.sound.wellFormed hs
    have hx' : Owned x.connectionLedger (slotsOf x) := owned_change ho hx
    exact hx'
  | scan e => exact owned_backed ho (backed_scan (scanStep_frame hs))
  | adapter e => exact owned_backed ho (backed_adapterStep hs)

end

theorem owned_reached {w : World} (h : Reach systemStep AnyStep Started w) :
    SystemSound w ∧ Owned w.connectionLedger (slotsOf w) := by
  refine reach_invariant (fun w => SystemSound w ∧ Owned w.connectionLedger (slotsOf w)) ?_ ?_ h
  · rintro _ rfl
    exact ⟨started_sound rfl, opened_owned opened_empty⟩
  · exact fun w e w' hw _ hs => ⟨systemStep_sound hw.1 hs, owned_system hw.1 hw.2 hs⟩

/-! What a failed call leaves -/

def failureCode : ConnectOutcome → Ret
  | .noProxy error => proxyErrorCode error
  | .refused _ error => connectErrorCode error
  | .accepted _ => gattlibSuccess

def stateLeft : ConnectOutcome → DeviceState
  | .noProxy _ => .connecting
  | .refused _ _ => .disconnected
  | .accepted _ => .connecting

def handlersLeft : ConnectOutcome → Nat
  | .noProxy _ => 0
  | .refused _ _ | .accepted _ => 1

def referencesLeft (call : ConnectCall) : Nat := if call.adapter = none then 1 else 0

/-- All that a failed call leaves behind. -/
structure Residue (w : World) (call : ConnectCall) (adapter device : Nat) (o : ConnectOutcome)
    (r : Ret × World) : Prop where
  code : r.1 ≠ gattlibSuccess
  reported : r.2.dispatched = (w.connectCalls, r.1) :: w.dispatched
  state : stateOf r.2 device = stateLeft o
  handlers : liveCount r.2.connectionLedger device .propertiesChanged =
    liveCount w.connectionLedger device .propertiesChanged + handlersLeft o
  timers : liveCount r.2.connectionLedger device .connectionTimer =
    liveCount w.connectionLedger device .connectionTimer
  references : referencesOf r.2 adapter =
    (referencesOf w adapter).map (fun n => n + referencesLeft call)

section

variable {w u : World} {call : ConnectCall} {a c : Nat} {d : Device} {o : ConnectOutcome}
  {id : CString} {l : Ledger ConnectionResource}

theorem failureCode_ne_success (ho : ∀ proxy, o ≠ .accepted proxy) :
    failureCode o ≠ gattlibSuccess := by
  cases o with
  | noProxy error => exact proxyError_ne_success error
  | refused proxy error => exact connectError_ne_success error
  | accepted proxy => exact absurd rfl (ho proxy)

theorem connectExit_code (w : World) (call : Nat) (ret : Ret) : (connectExit w call ret).1 = ret := by
  unfold connectExit
  split
  · rfl
  · rfl

theorem connect_failed (h : WellFormed w) (hk : Known w c d)
    (hf : findDeviceWithDeviceId w d.adapter id = some c) (hs : d.state = .disconnected)
    (connectCb userData : Nat) (o : ConnectOutcome) :
    gattlibConnect w d.adapter id connectCb userData o =
      (failureCode o, attempted w c d connectCb userData o) := by
  apply Prod.ext
  · have hv : gattlibAdapterIsValid { w with connectCalls := w.connectCalls + 1 } d.adapter = true :=
      (valid_iff w d.adapter).mpr hk.owner
    have hg : gattlibDeviceGetDevice { w with connectCalls := w.connectCalls + 1 } d.adapter id =
        some c := hf
    unfold gattlibConnect
    simp only [hv, hg, hk.cell, hs, Bool.true_eq_false, if_false, ne_eq, not_true_eq_false]
    cases o with
    | noProxy error => exact connectExit_code _ _ _
    | refused proxy error => exact connectExit_code _ _ _
    | accepted proxy => rfl
  · exact connect_attempted h hk hf hs connectCb userData o

/-- The object path that a refused call frees is its own, and its handler stays connected. -/
theorem liveCount_refused (hl : ∀ id ∈ l.released, id < l.next) (k : ConnectionResource) :
    liveCount (refusedLedger c l) c k =
      liveCount l c k + if ConnectionResource.propertiesChanged = k then 1 else 0 := by
  have hl' : ∀ id ∈ (acquire l .objectPath c).released, id < (acquire l .objectPath c).next :=
    fun id hid => Nat.lt_succ_of_lt (hl id hid)
  have hpath : Live (proxiedLedger c l) ⟨l.next, .objectPath, c⟩ :=
    ⟨List.mem_cons_of_mem _ List.mem_cons_self, fun hm => Nat.lt_irrefl _ (hl _ hm)⟩
  have hrelease := liveCount_release (o := c) (k := k) hpath
  have hcount : liveCount (proxiedLedger c l) c k = liveCount l c k +
      (if c = c ∧ ConnectionResource.objectPath = k then 1 else 0) +
      (if c = c ∧ ConnectionResource.propertiesChanged = k then 1 else 0) := by
    rw [proxiedLedger, liveCount_acquire hl', liveCount_acquire hl]
  rw [hcount] at hrelease
  simp only [true_and] at hrelease
  show liveCount (release (proxiedLedger c l) l.next) c k = _
  omega

theorem attempted_dispatched (ho : ∀ proxy, o ≠ .accepted proxy) (connectCb userData : Nat) :
    (attempted w c d connectCb userData o).dispatched =
      (w.connectCalls, failureCode o) :: w.dispatched := by
  cases o with
  | noProxy error | refused proxy error => rfl
  | accepted proxy => exact absurd rfl (ho proxy)

theorem state_store {e : Device} (hk : u.devices.cell c = some e) :
    stateOf (store u c d l) c = d.state := by
  rw [stateOf, store_cell hk, if_pos rfl]
  rfl

theorem attempted_state (hk : w.devices.cell c = some d) (connectCb userData : Nat) :
    stateOf (attempted w c d connectCb userData o) c = stateLeft o := by
  cases o with
  | noProxy error => exact state_store hk
  | refused proxy error => exact state_store hk
  | accepted proxy => exact state_store hk

theorem attempted_live (hl : ∀ id ∈ w.connectionLedger.released, id < w.connectionLedger.next)
    (ho : ∀ proxy, o ≠ .accepted proxy) (connectCb userData : Nat) (k : ConnectionResource) :
    liveCount (attempted w c d connectCb userData o).connectionLedger c k =
      liveCount w.connectionLedger c k +
        if ConnectionResource.propertiesChanged = k then handlersLeft o else 0 := by
  cases o with
  | noProxy error => simp [attempted, handlersLeft]
  | refused proxy error =>
    have hcount := liveCount_refused (c := c) hl k
    exact hcount
  | accepted proxy => exact absurd rfl (ho proxy)

theorem attempted_adapters (connectCb userData : Nat) :
    (attempted w c d connectCb userData o).adapters = w.adapters := by
  cases o with
  | noProxy error | refused proxy error | accepted proxy => rfl

/-- The world in which the critical section is entered. -/
def entered (w : World) (call : ConnectCall) (adapter : Nat) : World :=
  match call.adapter with
  | none => noteOpen (gattlibAdapterRef w adapter) adapter
  | some _ => w

theorem connectAdapter_found (hf : Fails w call a c o) (opened : OpenOutcome) :
    connectAdapter w call opened = (some a, entered w call a) := by
  unfold connectAdapter entered
  obtain harg | ⟨harg, hfind⟩ := hf.argument
  · rw [harg]
  · rw [harg]
    dsimp only
    unfold initDefaultAdapter gattlibAdapterOpenLookup
    rw [hfind]

theorem entered_frame (w : World) (call : ConnectCall) (a : Nat) :
    ∃ adapters opens, entered w call a = { w with adapters := adapters, opens := opens } := by
  unfold entered
  cases call.adapter with
  | none => exact ⟨_, _, rfl⟩
  | some b => exact ⟨w.adapters, w.opens, rfl⟩

theorem entered_devicesOf (w : World) (call : ConnectCall) (a b : Nat) :
    devicesOf (entered w call a) b = devicesOf w b := by
  unfold entered
  cases call.adapter with
  | none => exact congrArg (Option.getD · []) (modify_map w.adapters a b (fun _ => rfl))
  | some _ => rfl

theorem entered_sound (h : SystemSound w) (call : ConnectCall) (a : Nat) :
    SystemSound (entered w call a) := by
  unfold entered
  cases call.adapter with
  | none =>
    have href : SystemSound (gattlibAdapterRef w a) := systemSound_adapter h a (fun _ => rfl)
    exact systemSound_counts href _ _ _ _ _ _ _ _ _
  | some _ => exact h

theorem entered_name (w : World) (call : ConnectCall) (a : Nat) :
    adapterNameOf (entered w call a) call = adapterNameOf w call := by
  unfold entered adapterNameOf
  cases call.adapter with
  | none => rfl
  | some _ => rfl

theorem entered_references (w : World) (call : ConnectCall) (a : Nat) :
    referencesOf (entered w call a) a =
      (referencesOf w a).map (fun n => n + referencesLeft call) := by
  unfold entered referencesOf referencesLeft
  cases call.adapter with
  | none =>
    show ((modify w.adapters a _).cell a).map Adapter.referenceCounter = _
    rw [modify_self, Option.map_map, Option.map_map]
    rfl
  | some b => simp [Function.comp_def]

/-- The device that the critical section finds. -/
theorem entered_found (h : SystemSound w) (hf : Fails w call a c o) :
    ∃ d, Known (entered w call a) c d ∧ d.adapter = a ∧ d.state = .disconnected ∧
      findDeviceWithDeviceId (entered w call a) a
        (getDevicePathFromMac (adapterNameOf (entered w call a) call) call.dst) = some c := by
  obtain ⟨adapters, opens, hframe⟩ := entered_frame w call a
  have hdevices : (entered w call a).devices = w.devices := by rw [hframe]
  have hlist : (entered w call a).adapterList = w.adapterList := by rw [hframe]
  have ha : a ∈ w.adapterList := (valid_iff w a).mp hf.listed
  obtain ⟨d, hk, had⟩ := find_known h.sound.wellFormed ha hf.present
  have hknown : Known (entered w call a) c d :=
    ⟨hdevices ▸ hk.cell, hlist ▸ hk.owner, (entered_devicesOf w call a _).symm ▸ hk.mem⟩
  have hstate : stateOf w c = d.state := by rw [stateOf, hk.cell]; rfl
  refine ⟨d, hknown, had, hstate.symm.trans hf.disconnected, ?_⟩
  have hcompare : compareDeviceWithDeviceId (entered w call a) = compareDeviceWithDeviceId w := by
    funext deviceId p
    rw [compareDeviceWithDeviceId, compareDeviceWithDeviceId, hdevices]
  rw [entered_name, findDeviceWithDeviceId, entered_devicesOf, hcompare]
  exact hf.present

theorem whole_failed (h : SystemSound w) (hf : Fails w call a c o) (opened : OpenOutcome) :
    ∃ d connectCb, (entered w call a).devices.cell c = some d ∧
      gattlibConnectWhole w call opened o =
        (failureCode o, attempted (entered w call a) c d connectCb call.userData o) := by
  obtain ⟨connectCb, hcb⟩ := Option.isSome_iff_exists.mp hf.callback
  obtain ⟨d, hk, rfl, hs, hfind⟩ := entered_found h hf
  refine ⟨d, connectCb, hk.cell, ?_⟩
  unfold gattlibConnectWhole
  rw [connectAdapter_found hf, hcb]
  exact connect_failed (entered_sound h call _).sound.wellFormed hk hfind hs _ _ _

end

/-- What a failed call leaves behind, whatever its adapter and whatever the error. -/
theorem failed_residue {w : World} {call : ConnectCall} {a c : Nat} {o : ConnectOutcome}
    (h : Reach systemStep AnyStep Started w) (hf : Fails w call a c o) (opened : OpenOutcome) :
    Residue w call a c o (gattlibConnectWhole w call opened o) := by
  obtain ⟨hsound, howned⟩ := owned_reached h
  obtain ⟨d, connectCb, hd, hwhole⟩ := whole_failed hsound hf opened
  obtain ⟨adapters, opens, hframe⟩ := entered_frame w call a
  have hledger : (entered w call a).connectionLedger = w.connectionLedger := by rw [hframe]
  have hlive := attempted_live (c := c) (d := d) (hledger ▸ howned.known) hf.failed connectCb
    call.userData
  rw [hledger] at hlive
  rw [hwhole]
  refine ⟨failureCode_ne_success hf.failed, ?_, attempted_state hd _ _, hlive _, hlive _, ?_⟩
  · rw [attempted_dispatched hf.failed, hframe]
  · rw [← entered_references, referencesOf, attempted_adapters, referencesOf]

/-- No failed call leaves nothing behind: without a proxy the device stays CONNECTING, and
after a refused Connect the property handler stays connected. -/
theorem failed_leaves {w : World} {call : ConnectCall} {a c : Nat} {o : ConnectOutcome}
    (h : Reach systemStep AnyStep Started w) (hf : Fails w call a c o) (opened : OpenOutcome) :
    ¬LeavesNothing w a c (gattlibConnectWhole w call opened o) := by
  intro hnothing
  have hresidue := failed_residue h hf opened
  cases o with
  | noProxy error =>
    have hstate := hresidue.state.symm.trans (hnothing.state.trans hf.disconnected)
    cases hstate
  | refused proxy error =>
    have hhandlers := hresidue.handlers.symm.trans hnothing.handlers
    exact Nat.succ_ne_self _ hhandlers
  | accepted proxy => exact hf.failed proxy rfl

/-- C0:00:00:00:00:01 -/
def address : CString :=
  ⟨[67, 48, 58, 48, 48, 58, 48, 48, 58, 48, 48, 58, 48, 48, 58, 48, 49], by decide⟩

/-- The default adapter with one device. -/
def found : World :=
  deviceManagerOnAddedDevice1Signal
    (gattlibAdapterOpenAppend { pendingOpens := [hci0] } hci0 1) 0
    (getDevicePathFromMac none address) answered

theorem found_reached : Reach systemStep AnyStep Started found :=
  exec_reach rfl [.adapter (.openLookup hci0), .adapter (.openAppend hci0 1),
    .device (.objectAdded 0 (getDevicePathFromMac none address) answered)] rfl

/-- The default adapter is asked for, and D-Bus has no proxy for the device. -/
theorem noProxy_connecting : ¬∀ (w : World) (call : ConnectCall) (a c : Nat) (o : ConnectOutcome)
    (opened : OpenOutcome), Reach systemStep AnyStep Started w → Fails w call a c o →
      LeavesNothing w a c (gattlibConnectWhole w call opened o) := by
  intro h
  have hfails : Fails found ⟨none, address, some 1, 0⟩ 0 0 (.noProxy none) :=
    ⟨Or.inr ⟨rfl, rfl⟩, rfl, rfl, rfl, rfl, fun _ he => ConnectOutcome.noConfusion he⟩
  have hstate := (h found ⟨none, address, some 1, 0⟩ 0 0 (.noProxy none) ⟨none, true⟩ found_reached
    hfails).state
  exact absurd hstate (by decide)

def refusal : GError := ⟨238, 36, []⟩

theorem failed_leaves_refused :
    ¬LeavesNothing found 0 0
      (gattlibConnectWhole found ⟨some 0, address, some 1, 0⟩ ⟨none, true⟩ (.refused 2 refusal)) := by
  have hfails : Fails found ⟨some 0, address, some 1, 0⟩ 0 0 (.refused 2 refusal) :=
    ⟨Or.inl rfl, rfl, rfl, rfl, rfl, fun _ he => ConnectOutcome.noConfusion he⟩
  exact failed_leaves found_reached hfails _

end Gattlib.FailedConnects
