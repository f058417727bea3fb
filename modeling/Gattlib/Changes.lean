import Gattlib.Effects

namespace Gattlib.Changes

open Library.Memory Library.Resources Gattlib.Strings Gattlib.State Gattlib.Registry
open Gattlib.RegistryFacts Gattlib.Connection Gattlib.Events Gattlib.Effects

/-- The events that report a device, and the device they report. -/
inductive Discovers (a : Nat) (id : CString) : DeviceEvent → Prop
  | added (o : DiscoverOutcome) : Discovers a id (.objectAdded a id o)
  | advertised (device1 advertised : Bool) (o : DiscoverOutcome) :
      Discovers a id (.propertiesChanged a id device1 advertised o)

/-- The handlers a resolved device has been reported to, with the ones before. -/
def dispatchedBy (w : World) (d : Device) (thread : Bool) : List (Nat × Ret) :=
  if gattlibHasValidHandler d.connection.onConnection && thread then
    (d.connection.attempt, gattlibSuccess) :: w.dispatched
  else w.dispatched

def refused (d : Device) (proxy : Nat) (l : Ledger ConnectionResource) : Device :=
  setField { proxied d proxy l with state := .disconnected } .objectPath none

def refusedLedger (c : Nat) (l : Ledger ConnectionResource) : Ledger ConnectionResource :=
  releaseSlot (proxiedLedger c l) (some l.next)

def accepted (d : Device) (proxy : Nat) (l : Ledger ConnectionResource) : Device :=
  setField (proxied d proxy l) .connectionTimer (some (l.next + 2))

def acceptedLedger (c : Nat) (l : Ledger ConnectionResource) : Ledger ConnectionResource :=
  acquire (proxiedLedger c l) .connectionTimer c

/-- The world after a call of `gattlib_connect` that found its device DISCONNECTED. -/
def attempted (w : World) (c : Nat) (d : Device) (connectCb userData : Nat)
    (o : ConnectOutcome) : World :=
  let call := w.connectCalls
  let d := connecting d call connectCb userData
  let l := w.connectionLedger
  let w := { w with connectCalls := call + 1, attempts := (call, c) :: w.attempts }
  match o with
  | .noProxy error =>
      store { w with dispatched := (call, proxyErrorCode error) :: w.dispatched } c d l
  | .refused proxy error =>
      store { w with dispatched := (call, connectErrorCode error) :: w.dispatched } c
        (refused d proxy l) (refusedLedger c l)
  | .accepted proxy =>
      store { w with armed := (call, l.next + 2) :: w.armed } c
        (accepted d proxy l) (acceptedLedger c l)

def referenced (d : Device) : Device := { d with referenceCounter := d.referenceCounter + 1 }

/-- All that a step of the connection side can do to the devices, to the ledger
and to what is remembered of the attempts. -/
inductive Change (w : World) : DeviceEvent → World → Prop
  | nothing (e : DeviceEvent) : Change w e w
  | appended {e : DeviceEvent} {a : Nat} {id : CString} (he : Discovers a id e)
      (ha : a ∈ w.adapterList) (hf : findDeviceWithDeviceId w a id = none) :
      Change w e (appendDevice w a (newDevice w a id .disconnected))
  | rediscovered {c : Nat} {d : Device} {id : CString} {o : DiscoverOutcome} (hk : Known w c d)
      (hid : fold d.deviceId = fold id) (hp : (o.proxy && o.address) = true) :
      Change w (.objectAdded d.adapter id o)
        (store w c { d with state := .disconnected } w.connectionLedger)
  | removed {c : Nat} {d : Device} {id : CString} (hk : Known w c d)
      (hid : fold d.deviceId = fold id) (hs : d.state = .disconnected) :
      Change w (.objectRemoved d.adapter id) (dropDevice w d.adapter c)
  | failed {a : Nat} {id : CString} {cb data : Nat} {o : ConnectOutcome} {r : Ret}
      (hr : r ≠ gattlibSuccess) :
      Change w (.connect a id cb data o)
        { w with
          connectCalls := w.connectCalls + 1
          dispatched := (w.connectCalls, r) :: w.dispatched }
  | attempted {c : Nat} {d : Device} {id : CString} {cb data : Nat} {o : ConnectOutcome}
      (hk : Known w c d) (hid : fold d.deviceId = fold id) (hs : d.state = .disconnected) :
      Change w (.connect d.adapter id cb data o) (attempted w c d cb data o)
  | unmanaged {c : Nat} {d : Device} {rest : List Property} {o : ResolveOutcome}
      (hk : Known w c d) (he : w.emission = some ⟨c, .servicesResolved true, rest⟩)
      (hm : hasManager w d.adapter o.manager = false) :
      Change w (.propertyChange o)
        (store w c (setField d .connectionTimer none) (untimed d w.connectionLedger))
  | resolved {c : Nat} {d : Device} {rest : List Property} {o : ResolveOutcome}
      (hk : Known w c d) (he : w.emission = some ⟨c, .servicesResolved true, rest⟩)
      (hm : hasManager w d.adapter o.manager = true) :
      Change w (.propertyChange o)
        (store { managed w d.adapter o.manager with dispatched := dispatchedBy w d o.thread } c
          (resolved d o.objects (untimed d w.connectionLedger))
          (resolvedLedger c o.objects (untimed d w.connectionLedger)))
  | dropped {c : Nat} {d : Device} {rest : List Property} {o : ResolveOutcome}
      (hk : Known w c d) (he : w.emission = some ⟨c, .connected false, rest⟩) :
      Change w (.propertyChange o) (store w c (freed d) (freedLedger d w.connectionLedger))
  | expired {c : Nat} {d : Device} {t : Nat} (hk : Known w c d)
      (hl : Live w.connectionLedger ⟨t, .connectionTimer, c⟩) :
      Change w (.stopConnect t)
        (store w c (setField d .connectionTimer none) (release w.connectionLedger t))
  | expiredStale {c t : Nat} (hv : gattlibConnectionIsValid w c = false)
      (hl : Live w.connectionLedger ⟨t, .connectionTimer, c⟩) :
      Change w (.stopConnect t) { w with connectionLedger := release w.connectionLedger t }
  | disconnecting {c : Nat} {d : Device} (hk : Known w c d) (hs : d.state = .connected) :
      Change w (.disconnect c) (store w c { d with state := .disconnecting } w.connectionLedger)
  | referenced {c : Nat} {d : Device} (hk : Known w c d) :
      Change w (.connectedThread c)
        { store w c (referenced d) w.connectionLedger with
          connectedRunning := Function.update w.connectedRunning c (w.connectedRunning c + 1) }
  | dereferenced {c : Nat} (hr : 0 < w.connectedRunning c) :
      Change w (.connectedReturns c) (connectedHandlerReturns w c)
  | registered {c : Nat} {d : Device} {handler : Handler} (hk : Known w c d) :
      Change w (.registerOnDisconnect c handler)
        (store w c { d with connection := { d.connection with onDisconnection := handler } }
          w.connectionLedger)

/-- The running signal handler and the threads that have been created. -/
def noted (w : World) (em : Option Emission) (cc dc : Nat → Nat) : World :=
  { w with emission := em, connectedCreated := cc, discoveredCreated := dc }

/-- What a step amounts to. -/
def Outcome (w : World) (e : DeviceEvent) (w' : World) : Prop :=
  ∃ x em cc dc, Change w e x ∧ w' = noted x em cc dc

section

variable {w w' x : World} {e : DeviceEvent} {a c : Nat} {d : Device} {id : CString}

theorem outcome_change (h : Change w e x) : Outcome w e x :=
  ⟨x, x.emission, x.connectedCreated, x.discoveredCreated, h, rfl⟩

theorem outcome_noted (h : Outcome w e w') (em : Option Emission) (cc dc : Nat → Nat) :
    Outcome w e (noted w' em cc dc) := by
  obtain ⟨x, _, _, _, hx, rfl⟩ := h
  exact ⟨x, em, cc, dc, hx, rfl⟩

theorem onDiscovered_noted (w : World) (a : Nat) (thread : Bool) :
    ∃ dc, gattlibOnDiscoveredDevice w a thread = noted w w.emission w.connectedCreated dc := by
  unfold gattlibOnDiscoveredDevice
  split
  · exact ⟨w.discoveredCreated, rfl⟩
  · split
    · exact ⟨_, rfl⟩
    · exact ⟨w.discoveredCreated, rfl⟩

theorem outcome_discovered (h : Outcome w e w') (a : Nat) (thread : Bool) :
    Outcome w e (gattlibOnDiscoveredDevice w' a thread) := by
  obtain ⟨dc, hd⟩ := onDiscovered_noted w' a thread
  rw [hd]
  exact outcome_noted h _ _ _

theorem outcome_discoverAbsent (he : Discovers a id e) (ha : a ∈ w.adapterList)
    (hf : findDeviceWithDeviceId w a id = none) (o : DiscoverOutcome) :
    Outcome w e (discoverDevice w a id o) := by
  unfold discoverDevice
  cases o.calloc with
  | true =>
    rw [setState_absent ha hf (by decide)]
    exact outcome_discovered (outcome_change (.appended he ha hf)) a o.thread
  | false =>
    rw [setState_noMemory ha hf (by decide)]
    exact outcome_change (.nothing e)

theorem outcome_added (h : WellFormed w) (o : DiscoverOutcome) :
    Outcome w (.objectAdded a id o) (deviceManagerOnAddedDevice1Signal w a id o) := by
  unfold deviceManagerOnAddedDevice1Signal
  by_cases hp : (o.proxy && o.address) = true
  · rw [if_pos hp]
    cases hv : gattlibAdapterIsValid w a with
    | false => exact outcome_change (.nothing _)
    | true =>
      have ha := (valid_iff w a).mp hv
      rw [if_neg (by decide)]
      cases hf : findDeviceWithDeviceId w a id with
      | none => exact outcome_discoverAbsent (.added o) ha hf o
      | some c =>
        obtain ⟨d, hk, hl, hid⟩ := find_device h ha hf
        obtain rfl := hl.adapter
        have hs : gattlibDeviceSetState w d.adapter id .disconnected o.calloc =
            (gattlibSuccess, store w c { d with state := .disconnected } w.connectionLedger) := by
          rw [setState_present ha (h.ok _ ha) hf (by decide)]
          exact congrArg (Prod.mk _) (modifyDevice_known hk.cell _)
        unfold discoverDevice
        rw [hs]
        exact outcome_discovered (outcome_change (.rediscovered hk hid hp)) _ o.thread
  · rw [if_neg hp]
    exact outcome_change (.nothing _)

theorem outcome_removed (h : WellFormed w) :
    Outcome w (.objectRemoved a id) (onDbusObjectRemoved w a id) := by
  unfold onDbusObjectRemoved
  by_cases ha : a ∈ w.adapterList
  · cases hf : findDeviceWithDeviceId w a id with
    | none =>
      rw [setState_removeAbsent ha hf]
      exact outcome_change (.nothing _)
    | some c =>
      obtain ⟨d, hk, hl, hid⟩ := find_device h ha hf
      obtain rfl := hl.adapter
      by_cases hs : stateOf w c = .disconnected
      · rw [setState_remove ha (h.ok _ ha) hf hs]
        exact outcome_change (.removed hk hid (by rw [← stateOf_listed hl, hs]))
      · rw [setState_removeBusy ha (h.ok _ ha) hf hs]
        exact outcome_change (.nothing _)
  · rw [setState_invalid ha]
    exact outcome_change (.nothing _)

theorem outcome_propertiesChanged (h : WellFormed w) (device1 advertised : Bool)
    (o : DiscoverOutcome) :
    Outcome w (.propertiesChanged a id device1 advertised o)
      (onInterfaceProxyPropertiesChanged w a id device1 advertised o) := by
  have hn := outcome_change (.nothing (w := w) (.propertiesChanged a id device1 advertised o))
  unfold onInterfaceProxyPropertiesChanged
  cases hv : gattlibAdapterIsValid w a with
  | false => exact hn
  | true =>
    have ha := (valid_iff w a).mp hv
    rw [if_neg (by decide)]
    split
    · exact hn
    · split
      · split
        · next hs =>
          split
          · cases hf : findDeviceWithDeviceId w a id with
            | none => exact outcome_discoverAbsent (.advertised _ _ o) ha hf o
            | some c => exact absurd hs (getState_known (h.ok a ha) hf)
          · exact hn
        · exact hn
      · exact hn

/-! No failing answer of D-Bus is reported as success. -/

theorem proxyError_ne_success (e : Option GError) : proxyErrorCode e ≠ gattlibSuccess := by
  cases e with
  | none => decide
  | some e => exact dbusError_ne_success e

theorem connectError_ne_success (e : GError) : connectErrorCode e ≠ gattlibSuccess := by
  unfold connectErrorCode
  split
  · decide
  · split
    · decide
    · exact dbusError_ne_success e

theorem connectExit_failed {ret : Ret} (hr : ret ≠ gattlibSuccess) (w : World) (call : Nat) :
    (connectExit w call ret).2 = { w with dispatched := (call, ret) :: w.dispatched } := by
  unfold connectExit
  rw [if_pos hr]

theorem known_called (hk : Known w c d) (n : Nat) : Known { w with connectCalls := n } c d :=
  ⟨hk.cell, hk.owner, hk.mem⟩

theorem wellFormed_called (h : WellFormed w) (n : Nat) :
    WellFormed { w with connectCalls := n } :=
  wellFormed_congr h rfl h.live (fun _ => rfl) rfl

/-- The critical section of `gattlib_connect` on a DISCONNECTED device. -/
theorem connect_attempted (h : WellFormed w) (hk : Known w c d)
    (hf : findDeviceWithDeviceId w d.adapter id = some c) (hs : d.state = .disconnected)
    (connectCb userData : Nat) (o : ConnectOutcome) :
    (gattlibConnect w d.adapter id connectCb userData o).2 =
      attempted w c d connectCb userData o := by
  have hv : gattlibAdapterIsValid { w with connectCalls := w.connectCalls + 1 } d.adapter = true :=
    (valid_iff w d.adapter).mpr hk.owner
  have hg : gattlibDeviceGetDevice { w with connectCalls := w.connectCalls + 1 } d.adapter id =
      some c := hf
  have hw1 := wellFormed_called h (w.connectCalls + 1)
  have hk1 := known_called hk (w.connectCalls + 1)
  have hb := connectBegin_known hw1 hk1 w.connectCalls connectCb userData
  unfold gattlibConnect
  simp only [hv, hg, hk.cell, hs, Bool.true_eq_false, if_false, ne_eq, not_true_eq_false]
  rw [hb]
  have hw2 : WellFormed { w with
      connectCalls := w.connectCalls + 1
      attempts := (w.connectCalls, c) :: w.attempts } :=
    wellFormed_congr h rfl h.live (fun _ => rfl) rfl
  have hk2 : Known { w with
      connectCalls := w.connectCalls + 1
      attempts := (w.connectCalls, c) :: w.attempts } c d := ⟨hk.cell, hk.owner, hk.mem⟩
  cases o with
  | noProxy error => exact connectExit_failed (proxyError_ne_success error) _ _
  | refused proxy error =>
    have hkeeps : Keeps d (proxied (connecting d w.connectCalls connectCb userData) proxy
        w.connectionLedger) :=
      ⟨rfl, rfl, rfl, fun _ => show DeviceState.connecting ≠ .notFound by decide, fun hc => hc⟩
    unfold connectAnswer
    dsimp only
    rw [connectProxy_store, setState_store hw2 hk2 hkeeps (by decide),
      releaseField_store hk2.cell, connectExit_failed (connectError_ne_success error)]
    rfl
  | accepted proxy =>
    unfold connectAnswer
    dsimp only
    rw [connectProxy_store, armTimer_store]
    rfl

theorem outcome_connect (h : WellFormed w) (connectCb userData : Nat) (o : ConnectOutcome) :
    Outcome w (.connect a id connectCb userData o)
      (gattlibConnect w a id connectCb userData o).2 := by
  by_cases ha : a ∈ w.adapterList
  · cases hf : findDeviceWithDeviceId w a id with
    | none =>
      have hv := (valid_iff w a).mpr ha
      have hg : gattlibDeviceGetDevice { w with connectCalls := w.connectCalls + 1 } a id = none :=
        hf
      have hv1 : gattlibAdapterIsValid { w with connectCalls := w.connectCalls + 1 } a = true := hv
      unfold gattlibConnect
      simp only [hv1, hg, Bool.true_eq_false, if_false]
      exact outcome_change (.failed (r := gattlibInvalidParameter) (by decide))
    | some c =>
      obtain ⟨d, hk, hl, hid⟩ := find_device h ha hf
      obtain rfl := hl.adapter
      by_cases hs : d.state = .disconnected
      · rw [connect_attempted h hk hf hs]
        exact outcome_change (.attempted hk hid hs)
      · have hv1 : gattlibAdapterIsValid { w with connectCalls := w.connectCalls + 1 } d.adapter =
            true := (valid_iff w d.adapter).mpr ha
        have hg : gattlibDeviceGetDevice { w with connectCalls := w.connectCalls + 1 } d.adapter id =
            some c := hf
        unfold gattlibConnect
        simp only [hv1, hg, hk.cell, hs, Bool.true_eq_false, if_false, ne_eq, not_false_eq_true,
          if_true]
        exact outcome_change (.failed (r := gattlibBusy) (by decide))
  · have hv : gattlibAdapterIsValid { w with connectCalls := w.connectCalls + 1 } a = false := by
      simpa [gattlibAdapterIsValid] using ha
    unfold gattlibConnect
    simp only [hv, if_true]
    exact outcome_change (.failed (r := gattlibAdapterClose) (by decide))

theorem dispatch_noted (w : World) (c : Nat) (d : Device) (thread : Bool) :
    ∃ cc, dispatch w c d thread = noted { w with dispatched := dispatchedBy w d thread }
      w.emission cc w.discoveredCreated := by
  unfold dispatch dispatchedBy
  split
  · exact ⟨_, rfl⟩
  · exact ⟨w.connectedCreated, rfl⟩

theorem outcome_resolved (h : WellFormed w) (o : ResolveOutcome) {rest : List Property}
    (he : w.emission = some ⟨c, .servicesResolved true, rest⟩) :
    Outcome w (.propertyChange o) (onDeviceConnect w c o) := by
  cases hv : gattlibConnectionIsValid w c with
  | false =>
    unfold onDeviceConnect
    rw [hv, if_pos rfl]
    exact outcome_change (.nothing _)
  | true =>
    obtain ⟨d, hk⟩ := valid_known h hv
    cases hm : hasManager w d.adapter o.manager with
    | false =>
      rw [onDeviceConnect_unmanaged hk hm]
      exact outcome_change (.unmanaged hk he hm)
    | true =>
      have hfin := outcome_change (.resolved hk he hm)
      obtain ⟨cc, hd⟩ := dispatch_noted (managed w d.adapter o.manager) c d o.thread
      obtain ⟨adapters, hw, _, _⟩ := managed_frame w d.adapter o.manager
      rw [onDeviceConnect_managed h hk hm, hd, hw]
      rw [hw] at hfin
      exact outcome_noted hfin w.emission cc w.discoveredCreated

theorem outcome_property (h : WellFormed w) (o : ResolveOutcome) {p : Property}
    {rest : List Property} (he : w.emission = some ⟨c, p, rest⟩) :
    Outcome w (.propertyChange o) (onHandleDevicePropertyChange w c o p) := by
  have hn := outcome_change (.nothing (w := w) (.propertyChange o))
  cases p with
  | connected value =>
    cases value with
    | true => exact hn
    | false =>
      show Outcome w _ (gattlibOnDisconnectedDevice w c)
      cases hv : gattlibConnectionIsValid w c with
      | false =>
        unfold gattlibOnDisconnectedDevice
        rw [hv, if_pos rfl]
        exact hn
      | true =>
        obtain ⟨d, hk⟩ := valid_known h hv
        rw [onDisconnected_known h hk]
        exact outcome_change (.dropped hk he)
  | servicesResolved value =>
    cases value with
    | true => exact outcome_resolved h o he
    | false => exact hn
  | other => exact hn

theorem liveOfKind_live {t : Nat} {k : ConnectionResource} {r : Entry ConnectionResource}
    (h : liveOfKind w t k = some r) : Live w.connectionLedger ⟨t, k, r.owner⟩ := by
  obtain ⟨hf, hk⟩ := Option.filter_eq_some_iff.mp h
  obtain ⟨hl, ht⟩ := find_live hf
  have hk' : r.kind = k := by simpa using hk
  cases r with
  | mk id kind owner =>
    cases ht
    cases hk'
    exact hl

theorem outcome_timer (h : WellFormed w) {t : Nat} (hs : fireTimer w t = some w') :
    Outcome w (.stopConnect t) w' := by
  obtain ⟨r, hr, rfl⟩ := Option.map_eq_some_iff.mp hs
  have hl := liveOfKind_live hr
  cases hv : gattlibConnectionIsValid w r.owner with
  | false =>
    unfold stopConnectFunc
    rw [hv, if_pos rfl]
    exact outcome_change (.expiredStale hv hl)
  | true =>
    obtain ⟨d, hk⟩ := valid_known h hv
    rw [stopConnect_known hk]
    exact outcome_change (.expired hk hl)

theorem foldl_last {α : Type} (q : α → Bool) (v : Bool) (l : List α) (b : Bool) :
    l.foldl (fun b a => if q a then v else b) b = if l.any q then v else b := by
  induction l generalizing b with
  | nil => rfl
  | cons a l ih =>
    rw [List.foldl_cons, ih, List.any_cons]
    cases q a with
    | true => simp
    | false => simp

/-- Whichever adapter lists the device, its record decides. -/
theorem connected_iff (w : World) (c : Nat) : gattlibConnectionIsConnected w c = true ↔
    gattlibConnectionIsValid w c = true ∧ stateOf w c = .connected := by
  unfold gattlibConnectionIsConnected gattlibConnectionIsValid stateOf
  rw [foldl_last]
  cases w.devices.cell c with
  | none => simp
  | some d => simp

theorem connected_known (h : WellFormed w) (hc : gattlibConnectionIsConnected w c = true) :
    ∃ d, Known w c d ∧ d.state = .connected := by
  obtain ⟨hv, hs⟩ := (connected_iff w c).mp hc
  obtain ⟨d, hk⟩ := valid_known h hv
  rw [stateOf, hk.cell] at hs
  exact ⟨d, hk, hs⟩

theorem outcome_disconnect (h : WellFormed w) :
    Outcome w (.disconnect c) (gattlibDisconnect w c).2 := by
  cases hc : gattlibConnectionIsConnected w c with
  | false =>
    unfold gattlibDisconnect
    rw [hc, if_pos rfl]
    exact outcome_change (.nothing _)
  | true =>
    obtain ⟨d, hk, hs⟩ := connected_known h hc
    rw [disconnect_known h hk hc]
    exact outcome_change (.disconnecting hk hs)

theorem outcome_connectedThread (h : WellFormed w) :
    Outcome w (.connectedThread c) (gattlibConnectedDeviceThread w c) := by
  have hn : Outcome w (.connectedThread c) { w with
      connectedCreated := Function.update w.connectedCreated c (w.connectedCreated c - 1) } :=
    outcome_noted (outcome_change (.nothing _)) w.emission _ w.discoveredCreated
  unfold gattlibConnectedDeviceThread
  dsimp only
  split
  · exact hn
  · next hc =>
    split
    · exact hn
    · have hc' : gattlibConnectionIsConnected w c = true := (Bool.not_eq_false _).mp hc
      obtain ⟨d, hk, _⟩ := connected_known h hc'
      have hd : modify w.devices c (fun d =>
          { d with referenceCounter := d.referenceCounter + 1 }) =
          modify w.devices c (fun _ => referenced d) :=
        modify_known hk.cell _
      unfold gattlibDeviceRef modifyDevice
      dsimp only
      rw [hd]
      exact outcome_noted (outcome_change (.referenced hk)) w.emission _ w.discoveredCreated

theorem outcome_register (h : WellFormed w) (handler : Handler) :
    Outcome w (.registerOnDisconnect c handler) (gattlibRegisterOnDisconnect w c handler) := by
  unfold gattlibRegisterOnDisconnect
  cases hv : gattlibConnectionIsValid w c with
  | false =>
    rw [if_pos rfl]
    exact outcome_change (.nothing _)
  | true =>
    obtain ⟨d, hk⟩ := valid_known h hv
    rw [if_neg (by decide)]
    unfold modifyConnection
    rw [modifyDevice_known hk.cell]
    exact outcome_change (.registered hk)

/-- Every step of the connection side is one of the listed changes. -/
theorem deviceStep_outcome (h : WellFormed w) (hs : deviceStep w e = some w') :
    Outcome w e w' := by
  cases e with
  | objectAdded adapter path o =>
    cases hs
    exact outcome_added h o
  | objectRemoved adapter path =>
    cases hs
    exact outcome_removed h
  | propertiesChanged adapter path device1 advertised o =>
    cases hs
    exact outcome_propertiesChanged h device1 advertised o
  | connect adapter path connectCb userData o =>
    cases hs
    exact outcome_connect h connectCb userData o
  | emit handler property rest =>
    have hn := outcome_change (.nothing (w := w) (.emit handler property rest))
    simp only [deviceStep, emitProperties] at hs
    split at hs
    · cases hs
    · obtain ⟨r, _, rfl⟩ := Option.map_eq_some_iff.mp hs
      exact outcome_noted hn _ _ _
  | propertyChange o =>
    obtain ⟨em, he, rfl⟩ := Option.map_eq_some_iff.mp hs
    exact outcome_noted (outcome_property h o he) _ _ _
  | stopConnect timer => exact outcome_timer h hs
  | disconnect connection =>
    cases hs
    exact outcome_disconnect h
  | connectedThread connection =>
    simp only [deviceStep, Option.ite_none_right_eq_some, Option.some.injEq] at hs
    obtain ⟨_, rfl⟩ := hs
    exact outcome_connectedThread h
  | connectedReturns connection =>
    simp only [deviceStep, Option.ite_none_right_eq_some, Option.some.injEq] at hs
    obtain ⟨hr, rfl⟩ := hs
    exact outcome_change (.dereferenced hr)
  | registerOnDisconnect connection handler =>
    cases hs
    exact outcome_register h handler

end

end Gattlib.Changes
