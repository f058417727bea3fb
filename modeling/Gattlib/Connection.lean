import Gattlib.Registry

namespace Gattlib.Connection

open Library.Memory Library.Resources Gattlib.Strings Gattlib.State Gattlib.Registry

/-- The field of the backend a resource is kept in. -/
def held (b : ConnectionBackend) : ConnectionResource → Option Nat
  | .propertiesChanged => b.onHandleDevicePropertyChangeId
  | .connectionTimer => b.connectionTimeoutId
  | .objectPath => b.deviceObjectPath
  | .objectList => b.dbusObjects

def setHeld (v : Option Nat) (b : ConnectionBackend) : ConnectionResource → ConnectionBackend
  | .propertiesChanged => { b with onHandleDevicePropertyChangeId := v }
  | .connectionTimer => { b with connectionTimeoutId := v }
  | .objectPath => { b with deviceObjectPath := v }
  | .objectList => { b with dbusObjects := v }

def modifyConnection (w : World) (connection : Nat)
    (f : State.Connection → State.Connection) : World :=
  modifyDevice w connection (fun d => { d with connection := f d.connection })

def modifyBackend (w : World) (connection : Nat)
    (f : ConnectionBackend → ConnectionBackend) : World :=
  modifyConnection w connection (fun c => { c with backend := f c.backend })

def backendOf (w : World) (connection : Nat) : ConnectionBackend :=
  ((w.devices.cell connection).map (fun d => d.connection.backend)).getD {}

/-- Acquire a resource for a connection and store it in its field. -/
def acquireField (w : World) (connection : Nat) (k : ConnectionResource) : World :=
  { modifyBackend w connection (fun b => setHeld (some w.connectionLedger.next) b k) with
    connectionLedger := acquire w.connectionLedger k connection }

/-- Release what a field holds, if anything, and leave the field as it is. -/
def releaseHeld (w : World) (connection : Nat) (k : ConnectionResource) : World :=
  match held (backendOf w connection) k with
  | none => w
  | some id => { w with connectionLedger := release w.connectionLedger id }

def clearField (w : World) (connection : Nat) (k : ConnectionResource) : World :=
  modifyBackend w connection (fun b => setHeld none b k)

def releaseField (w : World) (connection : Nat) (k : ConnectionResource) : World :=
  clearField (releaseHeld w connection k) connection k

def gattlibHasValidHandler (handler : Handler) : Bool := handler.callback.isSome

/-- `get_device_manager_from_adapter`, given the manager D-Bus would create. -/
def getDeviceManagerFromAdapter (w : World) (adapter : Nat) (created : Option Nat) :
    Option Nat × World :=
  match w.adapters.cell adapter with
  | none => (none, w)
  | some ad =>
    match ad.backend.deviceManager with
    | some manager => (some manager, w)
    | none =>
      match created with
      | none => (none, w)
      | some manager => (some manager, modifyAdapter w adapter (fun ad =>
          { ad with backend := { ad.backend with deviceManager := some manager } }))

theorem manager_found {w : World} {adapter : Nat} {created : Option Nat}
    (h : (getDeviceManagerFromAdapter w adapter created).1.isSome = true) :
    ∃ manager w', getDeviceManagerFromAdapter w adapter created = (some manager, w') := by
  obtain ⟨manager, hmanager⟩ := Option.isSome_iff_exists.mp h
  exact ⟨manager, _, Prod.ext hmanager rfl⟩

/-- `g_dbus_object_manager_get_objects` into `dbus_objects`. An empty list is NULL. -/
def getObjects (w : World) (connection : Nat) (nonempty : Bool) : World :=
  if nonempty then acquireField w connection .objectList
  else clearField w connection .objectList

def attemptOf (w : World) (connection : Nat) : Nat :=
  ((w.devices.cell connection).map (fun d => d.connection.attempt)).getD 0

def onConnectionOf (w : World) (connection : Nat) : Handler :=
  ((w.devices.cell connection).map (fun d => d.connection.onConnection)).getD {}

def onDisconnectionOf (w : World) (connection : Nat) : Handler :=
  ((w.devices.cell connection).map (fun d => d.connection.onDisconnection)).getD {}

/-- The connection handler is dispatched when its thread has been created. -/
def gattlibOnConnectedDevice (w : World) (connection : Nat) (thread : Bool) : World :=
  if gattlibConnectionIsValid w connection = false then w
  else if gattlibHasValidHandler (onConnectionOf w connection) && thread then
    { w with
      dispatched := (attemptOf w connection, gattlibSuccess) :: w.dispatched
      connectedCreated := Function.update w.connectedCreated connection
        (w.connectedCreated connection + 1) }
  else w

/-- What D-Bus and GLib answer while a resolved device is taken over: the object
manager to be created, whether it lists objects, whether a thread can be created. -/
structure ResolveOutcome where
  manager : Option Nat
  objects : Bool
  thread : Bool
  deriving DecidableEq

def onDeviceConnect (w : World) (connection : Nat) (o : ResolveOutcome) : World :=
  if gattlibConnectionIsValid w connection = false then w
  else
    match w.devices.cell connection with
    | none => w
    | some device =>
      let w := releaseField w connection .connectionTimer
      match getDeviceManagerFromAdapter w device.adapter o.manager with
      | (none, w) => w
      | (some _, w) =>
        let w := getObjects w connection o.objects
        let w := (gattlibDeviceSetState w device.adapter device.deviceId .connected true).2
        gattlibOnConnectedDevice w connection o.thread

/-- Every resource but the object list has its field reset. The notifications of
the connection are not part of this model. -/
def gattlibConnectionFree (w : World) (connection : Nat) : World :=
  match w.devices.cell connection with
  | none => w
  | some device =>
    let w := releaseField w connection .propertiesChanged
    let w := releaseField w connection .connectionTimer
    let w := releaseField w connection .objectPath
    let w := releaseHeld w connection .objectList
    (gattlibDeviceSetState w device.adapter device.deviceId .disconnected true).2

/-- The handler `gattlib_on_disconnected_device` calls, with `m_gattlib_mutex` held. -/
def disconnectionCall (w : World) (connection : Nat) : Option Handler :=
  if gattlibConnectionIsValid w connection &&
    gattlibHasValidHandler (onDisconnectionOf w connection)
  then some (onDisconnectionOf w connection) else none

def gattlibOnDisconnectedDevice (w : World) (connection : Nat) : World :=
  if gattlibConnectionIsValid w connection = false then w
  else gattlibConnectionFree w connection

/-- One turn of the loop of `on_handle_device_property_change`. -/
def onHandleDevicePropertyChange (w : World) (connection : Nat) (o : ResolveOutcome) :
    Property → World
  | .connected false => gattlibOnDisconnectedDevice w connection
  | .servicesResolved true => onDeviceConnect w connection o
  | .connected true | .servicesResolved false | .other => w

/-- The timer of a connection attempt: it forgets its own id and does no more. -/
def stopConnectFunc (w : World) (connection : Nat) : World :=
  if gattlibConnectionIsValid w connection = false then w
  else clearField w connection .connectionTimer

/-- `m_dbus_error_unknown_object` -/
def dbusErrorUnknownObject : List UInt8 :=
  ['G', 'D', 'B', 'u', 's', '.', 'E', 'r', 'r', 'o', 'r', ':', 'o', 'r', 'g', '.', 'f', 'r', 'e',
    'e', 'd', 'e', 's', 'k', 't', 'o', 'p', '.', 'D', 'B', 'u', 's', '.', 'E', 'r', 'r', 'o', 'r',
    '.', 'U', 'n', 'k', 'n', 'o', 'w', 'n', 'O', 'b', 'j', 'e', 'c', 't'].map
    (fun c => UInt8.ofNat c.toNat)

/-- What D-Bus answers to `gattlib_connect`. -/
inductive ConnectOutcome
  | noProxy (error : Option GError)
  | refused (proxy : Nat) (error : GError)
  | accepted (proxy : Nat)

/-- The code of a failed Connect call. -/
def connectErrorCode (e : GError) : Ret :=
  if dbusErrorUnknownObject.isPrefixOf e.message then gattlibNotFound
  else if e.domain = 238 ∧ e.code = 60952 then gattlibTimeout
  else gattlibErrorDbusWithError e

def proxyErrorCode : Option GError → Ret
  | none => gattlibErrorDbus
  | some e => gattlibErrorDbusWithError e

/-- `connect_cb` is called at the label EXIT, for every code but success. -/
def connectExit (w : World) (call : Nat) (ret : Ret) : Ret × World :=
  if ret ≠ gattlibSuccess then (ret, { w with dispatched := (call, ret) :: w.dispatched })
  else (ret, w)

/-- The handler is stored and the device is marked, before D-Bus is asked. -/
def connectBegin (w : World) (device : Nat) (d : Device) (call connectCb userData : Nat) : World :=
  let w := modifyConnection { w with attempts := (call, device) :: w.attempts } device (fun c =>
    { c with onConnection := ⟨some connectCb, userData⟩, attempt := call })
  (gattlibDeviceSetState w d.adapter d.deviceId .connecting true).2

/-- The proxy and the object path are stored and the property handler is connected. -/
def connectProxy (w : World) (device proxy : Nat) : World :=
  let w := modifyBackend w device (fun b => { b with device := some proxy })
  let w := acquireField w device .objectPath
  acquireField w device .propertiesChanged

def armTimer (w : World) (device call : Nat) : World :=
  acquireField { w with armed := (call, w.connectionLedger.next) :: w.armed } device
    .connectionTimer

/-- What follows CONNECTING. A refused call frees the object path and nothing else. -/
def connectAnswer (w : World) (adapter device : Nat) (d : Device) (call : Nat) :
    ConnectOutcome → Ret × World
  | .noProxy error => connectExit w call (proxyErrorCode error)
  | .refused proxy error =>
    let w := connectProxy w device proxy
    let w := (gattlibDeviceSetState w adapter d.deviceId .disconnected true).2
    connectExit (releaseField w device .objectPath) call (connectErrorCode error)
  | .accepted proxy => (gattlibSuccess, armTimer (connectProxy w device proxy) device call)

/-- The critical section of `gattlib_connect`, given the object path built from
the address. -/
def gattlibConnect (w : World) (adapter : Nat) (objectPath : CString) (connectCb userData : Nat)
    (o : ConnectOutcome) : Ret × World :=
  let call := w.connectCalls
  let w := { w with connectCalls := w.connectCalls + 1 }
  if gattlibAdapterIsValid w adapter = false then connectExit w call gattlibAdapterClose
  else
    match gattlibDeviceGetDevice w adapter objectPath with
    | none => connectExit w call gattlibInvalidParameter
    | some device =>
      match w.devices.cell device with
      | none => connectExit w call gattlibInvalidParameter
      | some d =>
        if d.state ≠ .disconnected then connectExit w call gattlibBusy
        else connectAnswer (connectBegin w device d call connectCb userData) adapter device d call o

/-- The critical section of `gattlib_disconnect`; the answer of D-Bus is ignored. -/
def gattlibDisconnect (w : World) (connection : Nat) : Ret × World :=
  if gattlibConnectionIsConnected w connection = false then (gattlibBusy, w)
  else
    match w.devices.cell connection with
    | none => (gattlibBusy, w)
    | some d =>
      (gattlibSuccess, (gattlibDeviceSetState w d.adapter d.deviceId .disconnecting true).2)

end Gattlib.Connection
