import Gattlib.Adapters

namespace Gattlib.Discoveries

open Library.Resources Gattlib.Strings Gattlib.State Gattlib.Registry Gattlib.Connection
open Gattlib.Events Gattlib.Scan Gattlib.Adapters

/-- Where a discovered-device thread has got to. After its check it lets go of the
mutex, and it reads the callback and the user data only as it makes the call. -/
inductive ThreadPc
  | created
  | checked
  /-- it has made the call with what it read, which a given call of a scan-enable function stored -/
  | calling (handler : Handler) (scan : Option Nat)
  | returned
  /-- the adapter it reads them from has been freed -/
  | lost

/-- `scan` is the scan-enable call whose callback was stored when the thread was created. -/
structure DiscoveredThread where
  adapter : Nat
  scan : Option Nat
  pc : ThreadPc := .created

/-- A call of the blocking scan. One that fails has no `caller` that waits. -/
structure ScanCall where
  adapter : Nat
  userData : Nat
  caller : Option Nat
  returned : Bool := false

/-- A signal of the object manager of an adapter, as the handlers of a scan get it. -/
inductive Signal
  | objectAdded (path : CString)
  | objectRemoved (path : CString)
  | interfaceProxyPropertiesChanged (path : CString) (device1 advertised : Bool)
  deriving DecidableEq

/-- The handler that `_gattlib_adapter_scan_enable_with_filter` connects to a signal. -/
def Signal.resource : Signal → ScanResource
  | .objectAdded _ => .objectAdded
  | .objectRemoved _ => .objectRemoved
  | .interfaceProxyPropertiesChanged _ _ _ => .interfaceProxyPropertiesChanged

/-- The library with its discovered-device threads, the handlers that are being run and
the calls of its scan-enable functions, numbered in the order they are made in. -/
structure Discovering where
  world : World := {}
  calls : Nat := 0
  /-- the call whose callback and user data an adapter holds -/
  stored : Nat → Option Nat := fun _ => none
  scans : Nat → Option ScanCall := fun _ => none
  nextThread : Nat := 0
  threads : Nat → Option DiscoveredThread := fun _ => none
  /-- the signal whose handler the context of an adapter runs, before it gets the mutex -/
  running : Nat → Option Signal := fun _ => none

/-- Whether a scan-enable function gets as far as storing its callback. -/
def stores (w : World) (adapter : Nat) (request : ScanRequest) (o : EnableOutcome) : Bool :=
  gattlibAdapterIsValid w adapter && (scanPrepare w adapter request o).toBool

def noteScan (s : Discovering) (adapter : Nat) (blocking : Bool) (request : ScanRequest)
    (o : EnableOutcome) : Discovering :=
  let ret := (gattlibAdapterScanEnableWithFilter s.world adapter blocking request o).1
  { s with
    calls := s.calls + 1
    stored := if stores s.world adapter request o then
        Function.update s.stored adapter (some s.calls)
      else s.stored
    scans := if blocking then
        Function.update s.scans s.calls (some
          { adapter := adapter
            userData := request.userData
            caller := if ret = gattlibSuccess then some s.world.nextThread else none })
      else s.scans }

/-- `gattlib_on_discovered_device` has started a thread, if there is one more of them. -/
def noteThread (s : Discovering) (adapter : Nat) (w : World) : Discovering :=
  if s.world.discoveredCreated adapter < w.discoveredCreated adapter then
    { s with
      nextThread := s.nextThread + 1
      threads := Function.update s.threads s.nextThread (some
        { adapter := adapter, scan := s.stored adapter }) }
  else s

def note (s : Discovering) (w : World) : SystemEvent → Discovering
  | .scan (.scanEnable adapter blocking request o) => noteScan s adapter blocking request o
  | .device (.objectAdded adapter _ _) => noteThread s adapter w
  | .device (.propertiesChanged adapter _ _ _ _) => noteThread s adapter w
  | _ => s

def follow (s : Discovering) (e : SystemEvent) (w : World) : Discovering :=
  { note s w e with world := w }

def setThread (s : Discovering) (i : Nat) (th : DiscoveredThread) (pc : ThreadPc) : Discovering :=
  { s with threads := Function.update s.threads i (some { th with pc := pc }) }

/-- The check of `_gattlib_discovered_device_thread`, with the mutex held. -/
def passesCheck (w : World) (adapter : Nat) : Bool :=
  gattlibAdapterIsValid w adapter && gattlibHasValidHandler (discoveredCallbackOf w adapter)

/-- The thread makes the call, without the mutex. A callback that has been reset
since the check is called all the same, through a NULL pointer. -/
def callDiscoveredDevice (s : Discovering) (th : DiscoveredThread) : ThreadPc :=
  match s.world.adapters.cell th.adapter with
  | none => .lost
  | some ad => .calling ad.discoveredDeviceCallback (s.stored th.adapter)

def stepThread (s : Discovering) (i : Nat) (th : DiscoveredThread) (e : AdapterEvent)
    (pc : ThreadPc) : Option Discovering :=
  (adapterStep s.world e).map (fun w => { setThread s i th pc with world := w })

/-- A call can return: it has failed, or its caller is past the wait. -/
def scanEnded (s : Discovering) (c : ScanCall) : Bool :=
  match c.caller with
  | none => true
  | some caller => (callerAt s.world caller .returned).isSome

/-- The signal whose handler makes a step. -/
def signalOf : SystemEvent → Option (Nat × Signal)
  | .device (.objectAdded adapter path _) => some (adapter, .objectAdded path)
  | .device (.objectRemoved adapter path) => some (adapter, .objectRemoved path)
  | .device (.propertiesChanged adapter path device1 advertised _) =>
      some (adapter, .interfaceProxyPropertiesChanged path device1 advertised)
  | _ => none

/-- A handler is connected, by this scan or an earlier one. The object manager it is
connected to goes with the adapter. -/
def handlerConnected (w : World) (adapter : Nat) (k : ScanResource) : Bool :=
  (w.adapters.cell adapter).isSome && decide (0 < liveCount w.scanLedger adapter k)

/-- A connected handler is called. It runs on if it is disconnected meanwhile. -/
def emitSignal (s : Discovering) (adapter : Nat) (sg : Signal) : Option Discovering :=
  if s.running adapter = none ∧ handlerConnected s.world adapter sg.resource then
    some { s with running := Function.update s.running adapter (some sg) }
  else none

/-- A handler does all it does in one critical section. Other steps need no handler. -/
def handled (s : Discovering) (e : SystemEvent) : Option Discovering :=
  match signalOf e with
  | none => some s
  | some (adapter, sg) =>
    if s.running adapter = some sg then
      some { s with running := Function.update s.running adapter none }
    else none

inductive DiscoveryEvent
  | library (e : SystemEvent)
  | signal (adapter : Nat) (sg : Signal)
  | check (thread : Nat)
  | call (thread : Nat)
  | finish (thread : Nat)
  | returns (scan : Nat)

/-- The steps that are made by one of the threads. -/
def ofThread : SystemEvent → Bool
  | .adapter (.discoveredThread _) => true
  | .adapter (.discoveredReturns _) => true
  | _ => false

def threadStep (s : Discovering) (i : Nat) (th : DiscoveredThread) : DiscoveryEvent →
    Option Discovering
  | .check _ =>
    match th.pc with
    | .created => stepThread s i th (.discoveredThread th.adapter)
        (if passesCheck s.world th.adapter then .checked else .returned)
    | _ => none
  | .call _ =>
    match th.pc with
    | .checked => some (setThread s i th (callDiscoveredDevice s th))
    | _ => none
  | .finish _ =>
    match th.pc with
    | .calling _ _ => stepThread s i th (.discoveredReturns th.adapter) .returned
    | _ => none
  | _ => none

def discoveryStep (s : Discovering) : DiscoveryEvent → Option Discovering
  | .library e =>
    if ofThread e then none
    else (handled s e).bind (fun s => (systemStep s.world e).map (follow s e))
  | .signal adapter sg => emitSignal s adapter sg
  | .check i => (s.threads i).bind (fun th => threadStep s i th (.check i))
  | .call i => (s.threads i).bind (fun th => threadStep s i th (.call i))
  | .finish i => (s.threads i).bind (fun th => threadStep s i th (.finish i))
  | .returns n => (s.scans n).bind (fun c =>
      if c.returned = false ∧ scanEnded s c then
        some { s with scans := Function.update s.scans n (some { c with returned := true }) }
      else none)

/-- No adapter has been opened yet. -/
def Idle (s : Discovering) : Prop := s = {}

/-- The adapter a scan-enable function is called for. -/
def enables : DiscoveryEvent → Option Nat
  | .library (.scan (.scanEnable adapter _ _ _)) => some adapter
  | _ => none

/-! `gattlib_adapter_scan_eddystone` -/

end Gattlib.Discoveries
