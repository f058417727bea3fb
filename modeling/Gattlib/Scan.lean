import Gattlib.Connection

namespace Gattlib.Scan

open Library.Memory Library.Resources Gattlib.State Gattlib.Registry Gattlib.Connection

def gattlibDiscoverFilterUseUuid : BitVec 32 := 1

/-- The arguments of a scan-enable function that its effect depends on. -/
structure ScanRequest where
  enabledFilters : BitVec 32 := 0
  uuidList : Bool := false
  discoveredDeviceCb : Option Nat
  timeout : Nat
  userData : Nat

/-- What D-Bus and GLib answer to a scan-enable function: the errors of the filter
and of StartDiscovery, the object manager to be created, a thread. -/
structure EnableOutcome where
  filterError : Option GError := none
  manager : Option Nat
  managerError : Option GError := none
  startError : Option GError := none
  thread : Bool

def scanOf (w : World) (adapter : Nat) : BleScan :=
  ((w.adapters.cell adapter).map (fun ad => ad.backend.bleScan)).getD {}

def modifyScan (w : World) (adapter : Nat) (f : BleScan → BleScan) : World :=
  modifyAdapter w adapter (fun ad =>
    { ad with backend := { ad.backend with bleScan := f ad.backend.bleScan } })

/-- The checks, the discovery filter and the object manager, which come before
anything is stored. -/
def scanPrepare (w : World) (adapter : Nat) (request : ScanRequest) (o : EnableOutcome) :
    Except Ret World :=
  match w.adapters.cell adapter with
  | none => .error gattlibNoAdapter
  | some ad =>
    if ad.backend.adapterProxy = none then .error gattlibNoAdapter
    else if request.enabledFilters &&& gattlibDiscoverFilterUseUuid ≠ 0 ∧
      request.uuidList = false then .error gattlibInvalidParameter
    else
      match o.filterError with
      | some error => .error (gattlibErrorDbusWithError error)
      | none =>
        match getDeviceManagerFromAdapter w adapter o.manager with
        | (none, _) => .error (proxyErrorCode o.managerError)
        | (some _, w) => .ok w

/-- The structure is cleared and the callback is stored. -/
def scanClear (w : World) (adapter : Nat) (request : ScanRequest) : World :=
  modifyAdapter w adapter (fun ad =>
    { ad with
      backend := { ad.backend with bleScan := {
        enabledFilters := request.enabledFilters
        bleScanTimeout := request.timeout } }
      discoveredDeviceCallback := ⟨request.discoveredDeviceCb, request.userData⟩ })

def scanConnect (w : World) (adapter : Nat) : World :=
  let id := w.scanLedger.next
  { modifyScan w adapter (fun s =>
      { s with addedSignalId := id, removedSignalId := id + 1, changedSignalId := id + 2 }) with
    scanLedger := acquire (acquire (acquire w.scanLedger .objectAdded adapter) .objectRemoved
      adapter) .interfaceProxyPropertiesChanged adapter }

/-- `_gattlib_adapter_scan_enable_with_filter`, once it is prepared. -/
def scanStart (w : World) (adapter : Nat) (request : ScanRequest) (o : EnableOutcome) :
    Ret × World :=
  let w := scanConnect (scanClear w adapter request) adapter
  match o.startError with
  | some error => (gattlibErrorDbusWithError error, w)
  | none => (gattlibSuccess, w)

/-- The loop thread and, for the blocking function, its caller. GLib's handle of
the thread is dropped at once, so `scan_loop_thread` is NULL again. -/
def scanCreateThread (w : World) (adapter : Nat) (blocking thread : Bool) : Ret × World :=
  if thread then
    let s := scanOf w adapter
    (gattlibSuccess,
      { w with
        nextThread := w.nextThread + 1
        scanThreads := Function.update w.scanThreads w.nextThread (some
          { adapter := adapter
            pc := .created
            added := s.addedSignalId
            removed := s.removedSignalId
            changed := s.changedSignalId
            stopsBefore := w.stopRequests adapter })
        scanCallers := if blocking then
            Function.update w.scanCallers w.nextThread (some ⟨adapter, .waiting⟩)
          else w.scanCallers })
  else (gattlibErrorInternal, w)

/-- The first critical section of `gattlib_adapter_scan_enable_with_filter`, and
the only one of its non-blocking variant. -/
def gattlibAdapterScanEnableWithFilter (w : World) (adapter : Nat) (blocking : Bool)
    (request : ScanRequest) (o : EnableOutcome) : Ret × World :=
  if gattlibAdapterIsValid w adapter = false then (gattlibAdapterClose, w)
  else
    match scanPrepare w adapter request o with
    | .error ret => (ret, w)
    | .ok w =>
      let r := scanStart w adapter request o
      if r.1 ≠ gattlibSuccess then r
      else
        let w := if blocking then modifyScan r.2 adapter (fun s => { s with isScanning := true })
          else r.2
        scanCreateThread w adapter blocking o.thread

/-- `gattlib_handler_free` on the callback of the adapter. -/
def gattlibHandlerFree (w : World) (adapter : Nat) : World :=
  modifyAdapter w adapter (fun ad =>
    { ad with discoveredDeviceCallback := { ad.discoveredDeviceCallback with callback := none } })

/-- The error that means that no discovery has been started. -/
def noDiscoveryStarted (stop : Option GError) : Bool :=
  stop.any (fun e => (e.domain == 238 || e.domain == 239) && e.code == 36)

def removeScanTimer (w : World) (adapter : Nat) : World :=
  if (scanOf w adapter).bleScanTimeoutId ≠ 0 then
    { modifyScan w adapter (fun s => { s with bleScanTimeoutId := 0 }) with
      scanLedger := release w.scanLedger (scanOf w adapter).bleScanTimeoutId }
  else w

/-- The end of `gattlib_adapter_scan_disable`, once StopDiscovery has been requested. -/
def scanStop (w : World) (adapter : Nat) : World :=
  removeScanTimer (modifyScan (gattlibHandlerFree w adapter) adapter
    (fun s => { s with isScanning := false })) adapter

/-- `discovering` is the cached property of the BlueZ adapter, `stop` the answer
to StopDiscovery. -/
def gattlibAdapterScanDisable (w : World) (adapter : Nat) (discovering : Bool)
    (stop : Option GError) : Ret × World :=
  if gattlibAdapterIsValid w adapter = false then (gattlibAdapterClose, w)
  else if (w.adapters.cell adapter).all (fun ad => ad.backend.adapterProxy.isNone) then
    (gattlibNoAdapter, w)
  else if discovering = false then (gattlibSuccess, w)
  else if (scanOf w adapter).isScanning = false then (gattlibSuccess, w)
  else
    let w := { w with
      stopRequests := Function.update w.stopRequests adapter (w.stopRequests adapter + 1) }
    if noDiscoveryStarted stop then (gattlibSuccess, w)
    else (gattlibSuccess, scanStop w adapter)

def armScanTimer (w : World) (adapter : Nat) : World :=
  { modifyScan w adapter (fun s => { s with bleScanTimeoutId := w.scanLedger.next }) with
    scanLedger := acquire w.scanLedger .scanTimer adapter }

def setScanPc (w : World) (thread : Nat) (th : ScanThread) (pc : ScanPc) : World :=
  { w with scanThreads := Function.update w.scanThreads thread (some { th with pc := pc }) }

/-- `_ble_scan_loop_thread` up to its wait loop. -/
def scanLoopStart (w : World) (thread : Nat) (th : ScanThread) : World :=
  if gattlibAdapterIsValid w th.adapter = false then setScanPc w thread th .returned
  else
    let w := modifyScan w th.adapter (fun s => { s with isScanning := true })
    let w := if (scanOf w th.adapter).bleScanTimeout > 0 then armScanTimer w th.adapter else w
    setScanPc w thread th .waiting

/-- The predicate of the wait loop is evaluated once. -/
def scanLoopCheck (w : World) (thread : Nat) (th : ScanThread) : World :=
  if gattlibAdapterIsScanning w th.adapter then w else setScanPc w thread th .leaving

/-- `g_signal_handler_disconnect` ignores the id zero. -/
def disconnectSignal (l : Ledger ScanResource) (id : Nat) : Ledger ScanResource :=
  if id = 0 then l else release l id

def disconnectSignals (w : World) (adapter : Nat) : World :=
  let s := scanOf w adapter
  { w with scanLedger := disconnectSignal (disconnectSignal (disconnectSignal w.scanLedger
      s.addedSignalId) s.removedSignalId) s.changedSignalId }

/-- `_ble_scan_loop_thread` after its wait loop. -/
def scanLoopFinish (w : World) (thread : Nat) (th : ScanThread) (discovering : Bool)
    (stop : Option GError) : World :=
  if gattlibAdapterIsValid w th.adapter = false then setScanPc w thread th .returned
  else
    setScanPc (gattlibAdapterScanDisable (disconnectSignals w th.adapter) th.adapter discovering
      stop).2 thread th .returned

def stopScanOnTimeout (w : World) (adapter : Nat) : World :=
  if gattlibAdapterIsValid w adapter = false then w
  else
    let w := if (scanOf w adapter).isScanning then
        modifyScan w adapter (fun s => { s with isScanning := false })
      else w
    modifyScan w adapter (fun s => { s with bleScanTimeoutId := 0 })

/-- The steps of a scan, one for each critical section. -/
inductive ScanEvent
  | scanEnable (adapter : Nat) (blocking : Bool) (request : ScanRequest) (o : EnableOutcome)
  | loopStart (thread : Nat)
  | loopCheck (thread : Nat)
  | loopFinish (thread : Nat) (discovering : Bool) (stop : Option GError)
  | callerCheck (caller : Nat)
  | callerReturn (caller : Nat)
  | timerFires (timer : Nat)
  | timeout (timer adapter : Nat)
  | scanDisable (adapter : Nat) (discovering : Bool) (stop : Option GError)

/-- A thread at a given place. -/
def threadAt (w : World) (thread : Nat) (pc : ScanPc) : Option ScanThread :=
  (w.scanThreads thread).filter (fun th => th.pc = pc)

def callerAt (w : World) (caller : Nat) (pc : ScanPc) : Option ScanCaller :=
  (w.scanCallers caller).filter (fun c => c.pc = pc)

def setCallerPc (w : World) (caller : Nat) (c : ScanCaller) (pc : ScanPc) : World :=
  { w with scanCallers := Function.update w.scanCallers caller (some { c with pc := pc }) }

/-- A live timer source is dispatched, unless it is already. -/
def scanTimerFires (w : World) (timer : Nat) : Option World :=
  if timer ∈ w.scanTimersFiring.map Prod.fst then none
  else ((find w.scanLedger timer).filter (fun r => r.kind = .scanTimer)).map (fun r =>
    { w with scanTimersFiring := (timer, r.owner) :: w.scanTimersFiring })

/-- The dispatched source gets the mutex. It returns FALSE and is destroyed, if it
has not been removed in the meantime. -/
def scanTimerRuns (w : World) (timer adapter : Nat) : Option World :=
  if (timer, adapter) ∈ w.scanTimersFiring then
    some { stopScanOnTimeout w adapter with
      scanTimersFiring := w.scanTimersFiring.erase (timer, adapter)
      scanLedger := if timer ∈ w.scanLedger.released then w.scanLedger
        else release w.scanLedger timer }
  else none

def scanStep (w : World) : ScanEvent → Option World
  | .scanEnable adapter blocking request o =>
      some (gattlibAdapterScanEnableWithFilter w adapter blocking request o).2
  | .loopStart thread => (threadAt w thread .created).map (scanLoopStart w thread)
  | .loopCheck thread => (threadAt w thread .waiting).map (scanLoopCheck w thread)
  | .loopFinish thread discovering stop =>
      (threadAt w thread .leaving).map (fun th => scanLoopFinish w thread th discovering stop)
  | .callerCheck caller => (callerAt w caller .waiting).map (fun c =>
      if gattlibAdapterIsScanning w c.adapter then w else setCallerPc w caller c .leaving)
  | .callerReturn caller => (callerAt w caller .leaving).map (fun c =>
      setCallerPc w caller c .returned)
  | .timerFires timer => scanTimerFires w timer
  | .timeout timer adapter => scanTimerRuns w timer adapter
  | .scanDisable adapter discovering stop =>
      some (gattlibAdapterScanDisable w adapter discovering stop).2

end Gattlib.Scan
