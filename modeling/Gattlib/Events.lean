import Gattlib.Connection

namespace Gattlib.Events

open Library.Memory Library.Resources Gattlib.Strings Gattlib.State Gattlib.Registry
open Gattlib.Connection

/-- What D-Bus, GLib and the allocator answer while a device is discovered: its
proxy, its address, memory for it and a thread for the callback. -/
structure DiscoverOutcome where
  proxy : Bool
  address : Bool
  calloc : Bool
  thread : Bool
  deriving DecidableEq

def discoveredCallbackOf (w : World) (adapter : Nat) : Handler :=
  ((w.adapters.cell adapter).map Adapter.discoveredDeviceCallback).getD {}

def gattlibOnDiscoveredDevice (w : World) (adapter : Nat) (thread : Bool) : World :=
  if gattlibAdapterIsValid w adapter = false then w
  else if gattlibHasValidHandler (discoveredCallbackOf w adapter) && thread then
    { w with
      discoveredCreated := Function.update w.discoveredCreated adapter
        (w.discoveredCreated adapter + 1) }
  else w

/-- The two calls both discovery paths end in. -/
def discoverDevice (w : World) (adapter : Nat) (path : CString) (o : DiscoverOutcome) : World :=
  let r := gattlibDeviceSetState w adapter path .disconnected o.calloc
  if r.1 = gattlibSuccess then gattlibOnDiscoveredDevice r.2 adapter o.thread else r.2

def deviceManagerOnAddedDevice1Signal (w : World) (adapter : Nat) (path : CString)
    (o : DiscoverOutcome) : World :=
  if o.proxy && o.address then
    if gattlibAdapterIsValid w adapter = false then w
    else discoverDevice w adapter path o
  else w

def onDbusObjectRemoved (w : World) (adapter : Nat) (path : CString) : World :=
  (gattlibDeviceSetState w adapter path .notFound true).2

def deviceManagerOf (w : World) (adapter : Nat) : Option Nat :=
  (w.adapters.cell adapter).bind (fun ad => ad.backend.deviceManager)

/-- `device1` tells whether the interface is `org.bluez.Device1`, and `advertised`
whether RSSI or ManufacturerData is among the changed properties. -/
def onInterfaceProxyPropertiesChanged (w : World) (adapter : Nat) (path : CString)
    (device1 advertised : Bool) (o : DiscoverOutcome) : World :=
  if gattlibAdapterIsValid w adapter = false then w
  else if deviceManagerOf w adapter = none then w
  else if device1 && o.proxy then
    if gattlibDeviceGetState w adapter path = .notFound then
      if advertised then discoverDevice w adapter path o else w
    else w
  else w

/-- The first critical section of `_gattlib_connected_device_thread`. -/
def gattlibConnectedDeviceThread (w : World) (connection : Nat) : World :=
  let w := { w with
    connectedCreated := Function.update w.connectedCreated connection
      (w.connectedCreated connection - 1) }
  if gattlibConnectionIsConnected w connection = false then w
  else if gattlibHasValidHandler (onConnectionOf w connection) = false then w
  else
    { gattlibDeviceRef w connection with
      connectedRunning := Function.update w.connectedRunning connection
        (w.connectedRunning connection + 1) }

/-- The connection handler has returned and its thread drops the device. -/
def connectedHandlerReturns (w : World) (connection : Nat) : World :=
  { gattlibDeviceUnref w connection with
    connectedRunning := Function.update w.connectedRunning connection
      (w.connectedRunning connection - 1) }

def gattlibRegisterOnDisconnect (w : World) (connection : Nat) (handler : Handler) : World :=
  if gattlibConnectionIsValid w connection = false then w
  else modifyConnection w connection (fun c => { c with onDisconnection := handler })

/-- The steps of the connection side, one for each critical section. -/
inductive DeviceEvent
  | objectAdded (adapter : Nat) (path : CString) (o : DiscoverOutcome)
  | objectRemoved (adapter : Nat) (path : CString)
  | propertiesChanged (adapter : Nat) (path : CString) (device1 advertised : Bool)
      (o : DiscoverOutcome)
  | connect (adapter : Nat) (path : CString) (connectCb userData : Nat) (o : ConnectOutcome)
  | emit (handler : Nat) (property : Property) (rest : List Property)
  | propertyChange (o : ResolveOutcome)
  | stopConnect (timer : Nat)
  | disconnect (connection : Nat)
  | connectedThread (connection : Nat)
  | connectedReturns (connection : Nat)
  | registerOnDisconnect (connection : Nat) (handler : Handler)

/-- The live source or signal handler with a given id, if it is of a given kind. -/
def liveOfKind (w : World) (id : Nat) (k : ConnectionResource) :
    Option (Entry ConnectionResource) :=
  (find w.connectionLedger id).filter (fun r => r.kind = k)

/-- D-Bus delivers the changed properties of a device to a connected handler. -/
def emitProperties (w : World) (handler : Nat) (property : Property) (rest : List Property) :
    Option World :=
  match w.emission with
  | some _ => none
  | none => (liveOfKind w handler .propertiesChanged).map (fun r =>
      { w with emission := some ⟨r.owner, property, rest⟩ })

def nextEmission (connection : Nat) : List Property → Option Emission
  | [] => none
  | p :: ps => some ⟨connection, p, ps⟩

/-- The running handler looks at the next changed property. -/
def handleProperty (w : World) (o : ResolveOutcome) : Option World :=
  w.emission.map (fun em =>
    { onHandleDevicePropertyChange w em.connection o em.property with
      emission := nextEmission em.connection em.rest })

/-- A timer source returns FALSE and is destroyed. -/
def fireTimer (w : World) (timer : Nat) : Option World :=
  (liveOfKind w timer .connectionTimer).map (fun r =>
    { stopConnectFunc w r.owner with
      connectionLedger := release w.connectionLedger timer })

def deviceStep (w : World) : DeviceEvent → Option World
  | .objectAdded adapter path o => some (deviceManagerOnAddedDevice1Signal w adapter path o)
  | .objectRemoved adapter path => some (onDbusObjectRemoved w adapter path)
  | .propertiesChanged adapter path device1 advertised o =>
      some (onInterfaceProxyPropertiesChanged w adapter path device1 advertised o)
  | .connect adapter path connectCb userData o =>
      some (gattlibConnect w adapter path connectCb userData o).2
  | .emit handler property rest => emitProperties w handler property rest
  | .propertyChange o => handleProperty w o
  | .stopConnect timer => fireTimer w timer
  | .disconnect connection => some (gattlibDisconnect w connection).2
  | .connectedThread connection =>
      if 0 < w.connectedCreated connection then some (gattlibConnectedDeviceThread w connection)
      else none
  | .connectedReturns connection =>
      if 0 < w.connectedRunning connection then some (connectedHandlerReturns w connection)
      else none
  | .registerOnDisconnect connection handler =>
      some (gattlibRegisterOnDisconnect w connection handler)

/-- Adapters that are open and have not discovered anything yet. -/
structure Opened (w : World) : Prop where
  nodup : w.adapterList.Nodup
  live : ∀ a ∈ w.adapterList, ∃ ad, w.adapters.cell a = some ad ∧ ad.devices = []
  devices : ∀ p, w.devices.cell p = none
  acquired : w.connectionLedger.acquired = []
  released : w.connectionLedger.released = []
  emission : w.emission = none
  running : ∀ c, w.connectedRunning c = 0
  attempts : w.attempts = []
  armed : w.armed = []
  dispatched : w.dispatched = []

theorem opened_opened : Opened opened := by
  refine ⟨by decide, ?_, fun _ => rfl, rfl, rfl, rfl, fun _ => rfl, rfl, rfl, rfl⟩
  intro a ha
  rw [show a = 0 from List.mem_singleton.mp ha]
  exact ⟨newAdapter hci0 hci0 1, rfl, rfl⟩

/-- The object path of some device. -/
def devicePath : CString := ⟨[47, 100], by decide⟩

def answered : DiscoverOutcome := ⟨true, true, true, true⟩

/-- The default adapter with one device, DISCONNECTED. -/
def discovered : World := deviceManagerOnAddedDevice1Signal opened 0 devicePath answered

/-- The same with the device CONNECTING. -/
def attempting : World := (gattlibConnect discovered 0 devicePath 1 0 (.accepted 2)).2

end Gattlib.Events
