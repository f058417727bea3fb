import Gattlib.State

namespace Gattlib.Registry

open Library.Memory Gattlib.Strings Gattlib.State

def modifyAdapter (w : World) (adapter : Nat) (f : Adapter → Adapter) : World :=
  { w with adapters := modify w.adapters adapter f }

def modifyDevice (w : World) (device : Nat) (f : Device → Device) : World :=
  { w with devices := modify w.devices device f }

def gattlibAdapterIsValid (w : World) (adapter : Nat) : Bool := w.adapterList.contains adapter

/-- The devices of an adapter, in the order of the list. -/
def devicesOf (w : World) (adapter : Nat) : List Nat :=
  ((w.adapters.cell adapter).map Adapter.devices).getD []

def gattlibAdapterIsScanning (w : World) (adapter : Nat) : Bool :=
  gattlibAdapterIsValid w adapter &&
    (w.adapters.cell adapter).any (fun ad => ad.backend.bleScan.isScanning)

def gattlibConnectionIsValid (w : World) (connection : Nat) : Bool :=
  w.adapterList.any (fun adapter => (devicesOf w adapter).contains connection)

/-- The last adapter that lists the device decides, as `g_slist_foreach` goes on. -/
def gattlibConnectionIsConnected (w : World) (connection : Nat) : Bool :=
  w.adapterList.foldl (fun connected adapter =>
    if (devicesOf w adapter).contains connection then
      (w.devices.cell connection).any (fun d => d.state == .connected)
    else connected) false

def compareDeviceWithDeviceId (w : World) (deviceId : CString) (device : Nat) : Bool :=
  (w.devices.cell device).any (fun d => gAsciiStrcasecmp d.deviceId deviceId == 0)

def findDeviceWithDeviceId (w : World) (adapter : Nat) (deviceId : CString) : Option Nat :=
  (devicesOf w adapter).find? (compareDeviceWithDeviceId w deviceId)

def gattlibDeviceGetDevice (w : World) (adapter : Nat) (deviceId : CString) : Option Nat :=
  findDeviceWithDeviceId w adapter deviceId

def stateOf (w : World) (device : Nat) : DeviceState :=
  ((w.devices.cell device).map Device.state).getD .notFound

def gattlibDeviceGetState (w : World) (adapter : Nat) (deviceId : CString) : DeviceState :=
  match gattlibDeviceGetDevice w adapter deviceId with
  | none => .notFound
  | some device => stateOf w device

def gattlibDeviceRef (w : World) (device : Nat) : World :=
  modifyDevice w device (fun d => { d with referenceCounter := d.referenceCounter + 1 })

def gattlibDeviceUnref (w : World) (device : Nat) : World :=
  match w.devices.cell device with
  | none => w
  | some d =>
    if d.referenceCounter - 1 > 0 then
      modifyDevice w device (fun d => { d with referenceCounter := d.referenceCounter - 1 })
    else { w with devices := free w.devices device }

/-- `g_slist_append` of a device that has just been filled in. -/
def appendDevice (w : World) (adapter : Nat) (device : Device) : World :=
  modifyAdapter { w with devices := alloc w.devices device } adapter
    (fun ad => { ad with devices := ad.devices ++ [w.devices.next] })

/-- `g_slist_remove`: the first entry goes. -/
def removeDevice (w : World) (adapter device : Nat) : World :=
  modifyAdapter w adapter (fun ad => { ad with devices := ad.devices.erase device })

def setDeviceState (w : World) (device : Nat) (newState : DeviceState) : World :=
  modifyDevice w device (fun d => { d with state := newState })

def newDevice (w : World) (adapter : Nat) (deviceId : CString) (newState : DeviceState) : Device where
  adapter := adapter
  deviceId := deviceId
  referenceCounter := 1
  state := newState
  connection := { device := w.devices.next }

/-- The setter every state change goes through. Whether its `calloc` succeeds is
an argument; no other call of the library allocates a device. -/
def gattlibDeviceSetState (w : World) (adapter : Nat) (deviceId : CString)
    (newState : DeviceState) (calloc : Bool) : Ret × World :=
  if gattlibAdapterIsValid w adapter = false then (gattlibAdapterClose, w)
  else if gattlibDeviceGetState w adapter deviceId = .notFound then
    if newState ≠ .notFound then
      if calloc then
        (gattlibSuccess, appendDevice w adapter (newDevice w adapter deviceId newState))
      else (gattlibOutOfMemory, w)
    else (gattlibSuccess, w)
  else if newState = .notFound then
    match findDeviceWithDeviceId w adapter deviceId with
    | none => (gattlibUnexpected, w)
    | some device =>
      match stateOf w device with
      | .disconnected => (gattlibSuccess, gattlibDeviceUnref (removeDevice w adapter device) device)
      | .connecting | .connected | .disconnecting | .notFound => (gattlibUnexpected, w)
  else
    match gattlibDeviceGetDevice w adapter deviceId with
    | none => (gattlibSuccess, w)
    | some device => (gattlibSuccess, setDeviceState w device newState)

/-- The device is freed only in state DISCONNECTED; otherwise its memory stays. -/
def gattlibDeviceFree (w : World) (device : Nat) : World :=
  match stateOf w device with
  | .disconnected => gattlibDeviceUnref w device
  | _ => w

def gattlibDevicesFree (w : World) (adapter : Nat) : World :=
  (devicesOf w adapter).foldl gattlibDeviceFree w

def gattlibDevicesAreDisconnected (w : World) (adapter : Nat) : Bool :=
  (devicesOf w adapter).all (fun device => stateOf w device == .disconnected)

/-- The adapter `gattlib_adapter_open` appends to the list. -/
def newAdapter (id name : CString) (adapterProxy : Nat) : Adapter where
  backend := { adapterProxy := some adapterProxy }
  id := id
  name := name
  referenceCounter := 1
  devices := []
  discoveredDeviceCallback := {}

def hci0 : CString := ⟨[104, 99, 105, 48], by decide⟩

/-- The default adapter, open, with no device discovered yet. -/
def opened : World where
  adapterList := [0]
  adapters := alloc Library.Memory.empty (newAdapter hci0 hci0 1)

end Gattlib.Registry
