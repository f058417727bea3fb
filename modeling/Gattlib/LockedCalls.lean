import Gattlib.Adapters
import Gattlib.Client
import Gattlib.Library.Deadlock

namespace Gattlib.LockedCalls

open Library.Memory Library.Locks Gattlib.Strings Gattlib.State Gattlib.Registry
open Gattlib.Connection Gattlib.Scan Gattlib.Events Gattlib.Adapters
open Gattlib.Client (ConnectionState ConnectionContext contextPtr connectResult
  onDeviceDisconnectCallback)

/-- `m_gattlib_mutex`, the mutex of `m_gattlib_signal` and those of the contexts. -/
inductive Mutex
  | library | signal | context (k : Nat)
  deriving DecidableEq

def recursive : Mutex → Bool
  | .library => true
  | .signal | .context _ => false

structure Shared where
  core : World
  contexts : Heap ConnectionContext

abbrev Code := Cmd Mutex Shared

def onCore (f : World → World) (d : Shared) : Shared := { d with core := f d.core }

def onContext (k : Nat) (f : ConnectionContext → ConnectionContext) (d : Shared) : Shared :=
  { d with contexts := modify d.contexts k f }

/-- A function of the library that takes its mutex and reads. -/
def reading {α : Type} (f : World → α) (next : α → Code) : Code :=
  .acquire .library (.ask (fun d => .release .library (next (f d.core))))

def writing (f : World → World) (next : Code) : Code :=
  .acquire .library (.update (onCore f) (.release .library next))

def unlock : Code := .release .library .done

/-- The mutex of `m_gattlib_signal` is taken for a broadcast. -/
def signalAll (next : Code) : Code :=
  .acquire .signal (.broadcast .signal (.release .signal next))

/-! The scan -/

def waitScanLoopStopScanning (adapter : Nat) (next : Code) : Code :=
  .acquire .signal (.await .signal (some .library)
    (fun d => gattlibAdapterIsScanning d.core adapter) false
    (.release .signal next) (.release .signal next))

def gattlibAdapterWaitScanStopped (adapter : Nat) : Code :=
  waitScanLoopStopScanning adapter .done

/-- `gattlib_adapter_scan_enable_with_filter` from its wait loop on. -/
def scanEnableWait (adapter : Nat) : Code :=
  waitScanLoopStopScanning adapter
    (.acquire .library (reading (fun w => gattlibAdapterIsValid w adapter) (fun _ => unlock)))

def storeScanning (adapter : Nat) (value : Bool) (w : World) : World :=
  modifyScan w adapter (fun s => { s with isScanning := value })

def unsetTimeout (adapter : Nat) (w : World) : World :=
  modifyScan w adapter (fun s => { s with bleScanTimeoutId := 0 })

def stopScanOnTimeout (adapter : Nat) : Code :=
  .acquire .library (reading (fun w => gattlibAdapterIsValid w adapter) (fun valid =>
    if valid = false then unlock
    else .ask (fun d =>
      if (scanOf d.core adapter).isScanning then
        .acquire .signal (.update (onCore (storeScanning adapter false))
          (.broadcast .signal (.release .signal
            (.update (onCore (unsetTimeout adapter)) unlock))))
      else .update (onCore (unsetTimeout adapter)) unlock)))

def requestStop (adapter : Nat) (w : World) : World :=
  { w with stopRequests := Function.update w.stopRequests adapter (w.stopRequests adapter + 1) }

/-- `gattlib_adapter_scan_disable` once the callback has been reset. -/
def stopScanLoop (adapter : Nat) : Code :=
  .ask (fun d =>
    if (scanOf d.core adapter).isScanning then
      .update (onCore (storeScanning adapter false))
        (signalAll (.update (onCore (fun w => removeScanTimer w adapter)) unlock))
    else .update (onCore (fun w => removeScanTimer w adapter)) unlock)

def gattlibAdapterScanDisable (adapter : Nat) (discovering : Bool) (stop : Option GError) : Code :=
  .acquire .library (reading (fun w => gattlibAdapterIsValid w adapter) (fun valid =>
    if valid = false then unlock
    else .ask (fun d =>
      if (d.core.adapters.cell adapter).all (fun ad => ad.backend.adapterProxy.isNone) then unlock
      else if discovering = false then unlock
      else if (scanOf d.core adapter).isScanning = false then unlock
      else .update (onCore (requestStop adapter))
        (if noDiscoveryStarted stop then unlock
        else .update (onCore (fun w => gattlibHandlerFree w adapter)) (stopScanLoop adapter)))))

/-! Connections -/

/-- `gattlib_disconnect`, which waits for at most five seconds. -/
def gattlibDisconnect (connection : Nat) (waitDisconnection : Bool) (next : Ret → Code) : Code :=
  .acquire .library (reading (fun w => gattlibConnectionIsConnected w connection)
    (fun connected =>
      if connected = false then .release .library (next gattlibBusy)
      else writing (fun w => (Connection.gattlibDisconnect w connection).2)
        (.release .library
          (if waitDisconnection then
            .acquire .signal (.await .signal (some .library)
              (fun d => gattlibConnectionIsConnected d.core connection) true
              (.release .signal (next gattlibSuccess)) (.release .signal (next gattlibTimeout)))
          else next gattlibSuccess))))

/-- `gattlib_on_disconnected_device`, given what a call of a handler does. -/
def gattlibOnDisconnectedDevice (connection : Nat) (call : Handler → Code → Code) : Code :=
  .acquire .library (reading (fun w => gattlibConnectionIsValid w connection) (fun valid =>
    if valid = false then unlock
    else .ask (fun d =>
      let rest := writing (fun w => gattlibConnectionFree w connection)
        (.release .library (signalAll .done))
      match disconnectionCall d.core connection with
      | none => rest
      | some handler => call handler rest)))

def registerOnDisconnect (connection : Nat) (handler : Handler) (next : Code) : Code :=
  .acquire .library (reading (fun w => gattlibConnectionIsValid w connection) (fun _ =>
    .update (onCore (fun w => gattlibRegisterOnDisconnect w connection handler))
      (.release .library next)))

/-- `gattlib_connect`, which calls `connect_cb` before it returns an error. -/
def gattlibConnect (adapter : Nat) (objectPath : CString) (connectCb userData : Nat)
    (o : ConnectOutcome) (call : Ret → Code → Code) (next : Ret → Code) : Code :=
  .acquire .library (reading (fun w => gattlibAdapterIsValid w adapter) (fun _ =>
    .ask (fun d =>
      let r := Connection.gattlibConnect d.core adapter objectPath connectCb userData o
      .update (onCore (fun _ => r.2))
        (if r.1 ≠ gattlibSuccess then call r.1 (.release .library (next r.1))
        else .release .library (next r.1)))))

/-! The callbacks of the client -/

def onDeviceConnectCallback : Nat := 2

def setState (new : ConnectionState) (ctx : ConnectionContext) : ConnectionContext :=
  { ctx with state := new }

/-- A state is stored with the mutex of the context held, and all are notified. -/
def storeNotify (k : Nat) (new : ConnectionState) (next : Code) : Code :=
  .acquire (.context k) (.update (onContext k (setState new))
    (.broadcast (.context k) (.release (.context k) next)))

/-- A NULL context is ignored, which is the user data zero. -/
def onDeviceDisconnect (next : Code) : Nat → Code
  | 0 => next
  | k + 1 => storeNotify k .disconnected next

def setConnection (connection : Option Nat) (ctx : ConnectionContext) : ConnectionContext :=
  { ctx with connection := connection }

def addressIs (d : Shared) (k : Nat) (dst : CString) : Bool :=
  (d.contexts.cell k).any (fun ctx => ctx.address = dst)

/-- `onDeviceConnect` for a connection, or for none after an error. -/
def onDeviceConnect (k : Nat) (dst : CString) (next : Code) : Option Nat → Code
  | none =>
    .acquire (.context k) (.update (onContext k (setConnection none))
      (.update (onContext k (setState .failed))
        (.broadcast (.context k) (.release (.context k) next))))
  | some connection => .ask (fun d =>
    .acquire (.context k) (.update (onContext k (setConnection (some connection)))
      (if addressIs d k dst then
        .update (onContext k (setState .connected))
          (registerOnDisconnect connection ⟨some onDeviceDisconnectCallback, contextPtr k⟩
            (.broadcast (.context k) (.release (.context k) next)))
      else
        .update (onContext k (setState .failed))
          (.broadcast (.context k) (.release (.context k) next)))))

def onDeviceDiscoverConnect (k : Nat) (adapterNull : Bool) (adapter : Nat) (objectPath : CString)
    (dst : CString) (o : ConnectOutcome) : Code :=
  if adapterNull then storeNotify k .failed .done
  else
    .acquire (.context k) (gattlibConnect adapter objectPath onDeviceConnectCallback (contextPtr k) o
      (fun _ rest => onDeviceConnect k dst rest none)
      (fun ret => .release (.context k) (storeNotify k (connectResult ret) .done)))

/-- What calls the handlers: the client's callbacks, and functions that take no mutex. -/
def callDisconnection (handler : Handler) (rest : Code) : Code :=
  if handler.callback = some onDeviceDisconnectCallback then
    onDeviceDisconnect rest handler.userData
  else rest

def callConnection (connection : Nat) (dst : CString) (handler : Handler) (rest : Code) : Code :=
  if handler.callback = some onDeviceConnectCallback then
    match handler.userData with
    | 0 => rest
    | k + 1 => onDeviceConnect k dst rest (some connection)
  else rest

/-- `_gattlib_connected_device_thread`, with the address of its device. -/
def gattlibConnectedDeviceThread (connection : Nat) (dst : CString) : Code :=
  .acquire .library (reading (fun w => gattlibConnectionIsConnected w connection)
    (fun connected =>
      if connected = false then unlock
      else .ask (fun d =>
        if gattlibHasValidHandler (onConnectionOf d.core connection) = false then unlock
        else writing (fun w => gattlibDeviceRef w connection)
          (.release .library (.ask (fun d =>
            callConnection connection dst (onConnectionOf d.core connection)
              (writing (fun w => gattlibDeviceUnref w connection) .done)))))))

/-- `GattlibClient::Impl::disconnect` for a context, which waits for at most two seconds. -/
def disconnect (k : Nat) : Code :=
  let wait : Code := .acquire (.context k) (.await (.context k) none
    (fun d => (d.contexts.cell k).any (fun ctx => ctx.state ≠ .disconnected)) true
    (.release (.context k) .done) (.release (.context k) .done))
  .acquire (.context k) (.ask (fun d =>
    if (d.contexts.cell k).any (fun ctx => ctx.state = .connected) then
      .update (onContext k (setState .shuttingDown))
        (match (d.contexts.cell k).bind ConnectionContext.connection with
        | none => .release (.context k) wait
        | some connection => gattlibDisconnect connection true (fun ret =>
          if ret = gattlibSuccess then
            .update (onContext k (setState .disconnected)) (.release (.context k) wait)
          else .release (.context k) wait))
    else .release (.context k) .done))

/-- What happens to the library and to the contexts besides. -/
inductive Outside
  | library (e : SystemEvent)
  | context (k : Nat) (ctx : ConnectionContext)

def outside (d : Shared) : Outside → Option Shared
  | .library e => (systemStep d.core e).map (fun core => { d with core := core })
  | .context k ctx => some (onContext k (fun _ => ctx) d)

/-- Nothing has been opened yet. -/
def Unopened (d : Shared) : Prop := Started d.core

/-- What a thread may hold when it takes a mutex: one context's at most, and not the
mutex of `m_gattlib_signal` already. -/
def take (h : Mutex → Nat) : Mutex → Prop
  | .library => True
  | .signal => h .signal = 0
  | .context k => ∀ j, j ≠ k → h (.context j) = 0

end Gattlib.LockedCalls
