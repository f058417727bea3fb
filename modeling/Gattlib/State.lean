import Gattlib.Library.Memory
import Gattlib.Library.Resources
import Gattlib.Strings

namespace Gattlib.State

open Library.Memory Library.Resources Gattlib.Strings

/-- `enum _gattlib_device_state` -/
inductive DeviceState
  | notFound | connecting | connected | disconnecting | disconnected
  deriving DecidableEq, Repr

/-- The return codes of `gattlib.h`. -/
abbrev Ret := BitVec 32

def gattlibSuccess : Ret := 0
def gattlibInvalidParameter : Ret := 1
def gattlibNotFound : Ret := 2
def gattlibTimeout : Ret := 3
def gattlibOutOfMemory : Ret := 4
def gattlibNoAdapter : Ret := 8
def gattlibBusy : Ret := 9
def gattlibUnexpected : Ret := 10
def gattlibAdapterClose : Ret := 11
def gattlibErrorDbus : Ret := 0x10000000
def gattlibErrorInternal : Ret := 0x80000000

theorem invalidParameter_ne_success : gattlibInvalidParameter ≠ gattlibSuccess := by decide

theorem notFound_ne_success : gattlibNotFound ≠ gattlibSuccess := by decide

/-- A `GError` of GLib, with its message as bytes. -/
structure GError where
  domain : BitVec 32
  code : BitVec 32
  message : List UInt8

/-- `GATTLIB_ERROR_DBUS_WITH_ERROR` -/
def gattlibErrorDbusWithError (e : GError) : Ret := gattlibErrorDbus ||| e.domain <<< 8 ||| e.code

/-- An error of D-Bus has the bits of GATTLIB_ERROR_DBUS. -/
theorem dbusError_ne_success (e : GError) : gattlibErrorDbusWithError e ≠ gattlibSuccess := by
  intro h
  have hb : (gattlibErrorDbusWithError e).getLsbD 28 = gattlibSuccess.getLsbD 28 := by rw [h]
  simp [gattlibErrorDbusWithError, gattlibErrorDbus, gattlibSuccess] at hb

/-- `struct gattlib_handler`, with functions and user data named by numbers. -/
structure Handler where
  callback : Option Nat := none
  userData : Nat := 0
  deriving DecidableEq

/-- What a connection backend acquires from GLib, D-Bus and the allocator. -/
inductive ConnectionResource
  | propertiesChanged | connectionTimer | objectPath | objectList
  deriving DecidableEq, Repr

/-- `struct _gattlib_connection_backend`. An id of zero and a NULL pointer are `none`. -/
structure ConnectionBackend where
  deviceObjectPath : Option Nat := none
  device : Option Nat := none
  connectionTimeoutId : Option Nat := none
  onHandleDevicePropertyChangeId : Option Nat := none
  dbusObjects : Option Nat := none
  deriving DecidableEq

/-- `struct _gattlib_connection`. The number of the `gattlib_connect` call that
stored `onConnection` is kept for the statements about attempts. -/
structure Connection where
  device : Nat
  backend : ConnectionBackend := {}
  onConnection : Handler := {}
  onDisconnection : Handler := {}
  attempt : Nat := 0

/-- `gattlib_device_t`. A pointer to its `connection` is written as the device's
own address, as the one determines the other. -/
structure Device where
  adapter : Nat
  deviceId : CString
  referenceCounter : Nat
  state : DeviceState
  connection : Connection

/-- What a scan acquires from GLib. -/
inductive ScanResource
  | objectAdded | objectRemoved | interfaceProxyPropertiesChanged | scanTimer
  deriving DecidableEq, Repr

/-- The `ble_scan` member of the adapter backend. -/
structure BleScan where
  addedSignalId : Nat := 0
  changedSignalId : Nat := 0
  removedSignalId : Nat := 0
  bleScanTimeout : Nat := 0
  bleScanTimeoutId : Nat := 0
  scanLoopThread : Option Nat := none
  isScanning : Bool := false
  enabledFilters : BitVec 32 := 0

/-- `struct _gattlib_adapter_backend` -/
structure AdapterBackend where
  deviceManager : Option Nat := none
  adapterProxy : Option Nat := none
  bleScan : BleScan := {}

/-- `struct _gattlib_adapter` -/
structure Adapter where
  backend : AdapterBackend
  id : CString
  name : CString
  referenceCounter : Nat
  devices : List Nat
  discoveredDeviceCallback : Handler

/-- One property of an `org.freedesktop.DBus.Properties.PropertiesChanged` signal. -/
inductive Property
  | connected (value : Bool)
  | servicesResolved (value : Bool)
  | other
  deriving DecidableEq, Repr

/-- A running call of `on_handle_device_property_change`: its user data, the
changed property it looks at next and the ones after it. -/
structure Emission where
  connection : Nat
  property : Property
  rest : List Property

/-- Where a scan loop thread, or a caller of the blocking scan, has got to. -/
inductive ScanPc
  | created | waiting | leaving | returned
  deriving DecidableEq, Repr

/-- A run of `_ble_scan_loop_thread`, with the signal handlers its scan connected
and the number of StopDiscovery requests made before its StartDiscovery. -/
structure ScanThread where
  adapter : Nat
  pc : ScanPc
  added : Nat
  removed : Nat
  changed : Nat
  stopsBefore : Nat

/-- A caller of the blocking scan past its first critical section. -/
structure ScanCaller where
  adapter : Nat
  pc : ScanPc

/-- The memory of the library, the state of GLib and D-Bus that it can see, and
the calls it has made to the application's handlers. -/
structure World where
  /-- `m_adapter_list` -/
  adapterList : List Nat := []
  adapters : Heap Adapter := Library.Memory.empty
  devices : Heap Device := Library.Memory.empty
  connectionLedger : Ledger ConnectionResource := Library.Resources.empty
  emission : Option Emission := none
  /-- connected-device threads before and inside the connection handler, by connection -/
  connectedCreated : Nat → Nat := fun _ => 0
  connectedRunning : Nat → Nat := fun _ => 0
  /-- discovered-device threads before and inside their callback, by adapter -/
  discoveredCreated : Nat → Nat := fun _ => 0
  discoveredHolding : Nat → Nat := fun _ => 0
  /-- the number of calls of `gattlib_connect` -/
  connectCalls : Nat := 0
  /-- the calls of `gattlib_connect` that moved a device to CONNECTING, and the device -/
  attempts : List (Nat × Nat) := []
  /-- the calls of `gattlib_connect` that armed a timer, and the timer -/
  armed : List (Nat × Nat) := []
  /-- the outcomes handed to connection handlers, with the call they answer -/
  dispatched : List (Nat × Ret) := []
  scanLedger : Ledger ScanResource := Library.Resources.empty
  nextThread : Nat := 0
  scanThreads : Nat → Option ScanThread := fun _ => none
  scanCallers : Nat → Option ScanCaller := fun _ => none
  /-- scan timers whose source has been dispatched and waits for the mutex, and their adapters -/
  scanTimersFiring : List (Nat × Nat) := []
  /-- StopDiscovery requests, by adapter -/
  stopRequests : Nat → Nat := fun _ => 0
  /-- calls of `g_thread_ref` and `g_thread_join` with a NULL thread -/
  nullThreadUses : Nat := 0
  /-- calls of `gattlib_adapter_open` between their two critical sections -/
  pendingOpens : List CString := []
  /-- successful opens and closes past the busy check, by adapter -/
  opens : Nat → Nat := fun _ => 0
  closes : Nat → Nat := fun _ => 0
  /-- closes that wait for the scan to stop, and closes that have seen it stopped, by adapter -/
  closeWaiting : Nat → Nat := fun _ => 0
  closeLeaving : Nat → Nat := fun _ => 0
  freedAdapters : List Nat := []
  /-- releases of a reference on an adapter that has been freed -/
  staleUnrefs : Nat := 0

end Gattlib.State
