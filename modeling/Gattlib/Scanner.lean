import Gattlib.State

namespace Gattlib.Scanner

open Library.Memory Gattlib.Strings Gattlib.State

def gattlibDeviceError : Ret := 6

inductive ScanState
  | scanning | failed | idle | succeeded | aborted | shuttingDown
  deriving DecidableEq

/-- `ScanContext`, with its mutex locked or not. -/
structure ScanContext where
  timeout : Nat
  deviceFilter : Option CString
  state : ScanState := .idle
  locked : Bool := false

/-- The monitor task of a call, about to load `m_scanning` or `m_abort`, or storing ABORTED. -/
inductive MonitorPc
  | absent | polling | loaded | locking | storing | unlocking | done
  deriving DecidableEq

/-- The parts of `shutdown`. The last one stores `m_scanning` and lets go of `m_shutdownMutex`. -/
inductive ShutdownPc
  | looking | locking | marking | testing | disabling | stopping | cleaning | deleting | clearing
  deriving DecidableEq

/-- Where a call of `scan` has got to. A call that is leaving is at the end of its
try block, where it joins the monitor, with an exception on its way or not. -/
inductive CallPc
  | checking | preparing | launching | announcing | enabling | enabled | failing | waiting
  | shutdown (p : ShutdownPc) (scanCtx : Nat) (inCatch : Bool)
  | leaving (thrown : Bool)
  | ended
  deriving DecidableEq

inductive ScanResult
  | returned (ret : Ret)
  | thrown
  deriving DecidableEq

/-- A call of `scan`. It notes whether it has stored `m_scanning` and whether it
has called `adapterScanEnable`. -/
structure Call where
  timeoutSec : Nat
  deviceAddress : Option CString
  custom : Bool
  pc : CallPc := .checking
  scanData : Option Nat := none
  monitor : MonitorPc := .absent
  announced : Bool := false
  enabled : Bool := false
  scanReturnCode : Ret := gattlibSuccess
  result : Option ScanResult := none

/-- The callback an adapter holds, `onScanDiscovery` or a custom one, and its user data. -/
structure Installed where
  custom : Bool
  scanData : Nat

/-- A discovered-device thread, from its check to the end of its callback. -/
inductive DiscoveryPc
  | checked
  | called (h : Installed)
  | locking (scanData : Nat) (new : ScanState)
  | storing (scanData : Nat) (new : ScanState)
  | unlocking (scanData : Nat)
  | done

/-- The members of `GattlibScanner::Impl`, the contexts, and all who use them. -/
structure Impl where
  /-- `m_scanning` -/
  scanning : Bool := false
  /-- `m_abort` -/
  abort : Bool := false
  /-- `m_shutdownMutex` -/
  shutdownMutex : Bool := false
  handler : Option Installed := none
  contexts : Heap ScanContext := Library.Memory.empty
  nextCall : Nat := 0
  calls : Nat → Option Call := fun _ => none
  nextDiscovery : Nat := 0
  discoveries : Nat → Option DiscoveryPc := fun _ => none
  /-- calls of `abort` that have seen `m_scanning` and not stored `m_abort` yet -/
  aborting : Nat := 0
  /-- deletions, by context -/
  deletes : Nat → Nat := fun _ => 0
  /-- the contexts that have been locked or written after they were deleted -/
  stale : List Nat := []

def setCall (s : Impl) (i : Nat) (c : Call) : Impl :=
  { s with calls := Function.update s.calls i (some c) }

def stateOf (s : Impl) (k : Nat) : ScanState :=
  ((s.contexts.cell k).map ScanContext.state).getD .idle

/-- A write to a context, its mutex included. -/
def writeContext (s : Impl) (k : Nat) (f : ScanContext → ScanContext) : Impl :=
  { s with
    contexts := modify s.contexts k f
    stale := if (s.contexts.cell k).isNone then k :: s.stale else s.stale }

/-- Nobody holds the mutex, as far as there is one. -/
def canLock (s : Impl) (k : Nat) : Bool := (s.contexts.cell k).all (fun ctx => !ctx.locked)

def lockContext (s : Impl) (k : Nat) : Impl :=
  writeContext s k (fun ctx => { ctx with locked := true })

def unlockContext (s : Impl) (k : Nat) : Impl :=
  writeContext s k (fun ctx => { ctx with locked := false })

def storeState (s : Impl) (k : Nat) (new : ScanState) : Impl :=
  writeContext s k (fun ctx => { ctx with state := new })

/-! `GattlibScanner::Impl::scan` -/

def scanCheck (s : Impl) (i : Nat) (c : Call) : Impl :=
  if s.scanning then
    setCall s i { c with pc := .ended, result := some (.returned gattlibBusy) }
  else if c.timeoutSec = 0 then
    setCall s i { c with pc := .ended, result := some (.returned gattlibInvalidParameter) }
  else setCall s i { c with pc := .preparing }

/-- The allocation of the context, or the copy of its filter, may throw. -/
inductive Prepared
  | complete | noMemory | noFilter

def scanPrepare (s : Impl) (i : Nat) (c : Call) : Prepared → Impl
  | .noMemory => setCall s i { c with pc := .leaving true }
  | .noFilter =>
    { setCall s i { c with pc := .leaving true, scanData := some s.contexts.next } with
      contexts := alloc s.contexts { timeout := c.timeoutSec, deviceFilter := none } }
  | .complete =>
    { setCall s i { c with pc := .launching, scanData := some s.contexts.next } with
      contexts := alloc s.contexts
        { timeout := c.timeoutSec, deviceFilter := c.deviceAddress, state := .scanning } }

/-- `std::async` throws if it cannot start the monitor. -/
def scanLaunch (s : Impl) (i : Nat) (c : Call) (starts : Bool) : Impl :=
  if starts then setCall s i { c with pc := .announcing, monitor := .polling }
  else setCall s i { c with pc := .leaving true }

def scanAnnounce (s : Impl) (i : Nat) (c : Call) : Impl :=
  { setCall s i { c with pc := .enabling, announced := true } with scanning := true }

/-- `adapterScanEnable` is called. It may fail before it stores the callback. -/
def scanEnable (s : Impl) (i : Nat) (c : Call) (stores : Bool) : Impl :=
  { setCall s i { c with pc := .enabled, enabled := true } with
    handler := if stores then c.scanData.map (fun k => ⟨c.custom, k⟩) else s.handler }

def scanEnabled (s : Impl) (i : Nat) (c : Call) (ret : Ret) : Impl :=
  if ret ≠ gattlibSuccess then setCall s i { c with pc := .failing, scanReturnCode := ret }
  else setCall s i { c with pc := .waiting }

/-- An exception leaves the try block, or the handler that has called `shutdown`. -/
def raise (s : Impl) (i : Nat) (c : Call) (inCatch : Bool) : Impl :=
  if inCatch then setCall s i { c with pc := .ended, result := some .thrown }
  else setCall s i { c with pc := .leaving true }

/-- `shutdown` throws if there is no context. -/
def enterShutdown (s : Impl) (i : Nat) (c : Call) (inCatch : Bool) : Impl :=
  match c.scanData with
  | none => raise s i c inCatch
  | some k => setCall s i { c with pc := .shutdown .looking k inCatch }

def scanFail (s : Impl) (i : Nat) (c : Call) : Impl :=
  match c.scanData with
  | none => s
  | some k => enterShutdown (storeState s k .failed) i c false

/-- The return code that belongs to the state the wait has ended with. -/
def returnCodeOf (state : ScanState) : Ret :=
  if state = .succeeded then gattlibSuccess
  else if state = .aborted then gattlibUnexpected
  else gattlibDeviceError

def finished (state : ScanState) : Bool :=
  state = .succeeded || state = .failed || state = .aborted

/-- The predicate of `wait_for` is evaluated with the mutex held, when the thread is
woken up and, for the last time, when the time has expired. -/
def scanWait (s : Impl) (i : Nat) (c : Call) (expired : Bool) : Option Impl :=
  match c.scanData with
  | none => none
  | some k =>
    if canLock s k then
      if finished (stateOf s k) then
        some (enterShutdown s i { c with scanReturnCode := returnCodeOf (stateOf s k) } false)
      else if expired then
        some (enterShutdown s i { c with scanReturnCode := gattlibTimeout } false)
      else none
    else none

/-- The end of the try block: the future of the monitor is destroyed, which waits
for the task, and a handler calls `shutdown` once more. -/
def scanLeave (s : Impl) (i : Nat) (c : Call) (thrown : Bool) : Option Impl :=
  if c.monitor = .absent ∨ c.monitor = .done then
    if thrown then some (enterShutdown s i c true)
    else some (setCall s i { c with pc := .ended, result := some (.returned c.scanReturnCode) })
  else none

/-! `GattlibScanner::Impl::shutdown` and `cleanup` -/

/-- `shutdown` returns, to the try block or to the handler that throws again. -/
def leaveShutdown (s : Impl) (i : Nat) (c : Call) (inCatch : Bool) : Impl :=
  if inCatch then setCall s i { c with pc := .ended, result := some .thrown }
  else setCall s i { c with pc := .leaving false }

/-- An exception from within the critical section of `m_shutdownMutex`. -/
def raiseLocked (s : Impl) (i : Nat) (c : Call) (inCatch : Bool) : Impl :=
  raise { s with shutdownMutex := false } i c inCatch

/-- What the functions that `shutdown` calls do: `adapterScanDisable` resets the
callback or not, and the main loop is stopped or throws. -/
structure ShutdownOutcome where
  resets : Bool := true
  stopThrows : Bool := false

def shutdownStep (s : Impl) (i : Nat) (c : Call) (k : Nat) (inCatch : Bool)
    (o : ShutdownOutcome) : ShutdownPc → Option Impl
  | .looking =>
    if canLock s k then
      if stateOf s k = .shuttingDown then some (leaveShutdown s i c inCatch)
      else some (setCall s i { c with pc := .shutdown .locking k inCatch })
    else none
  | .locking =>
    if s.shutdownMutex then none
    else some { setCall s i { c with pc := .shutdown .marking k inCatch } with
      shutdownMutex := true }
  | .marking =>
    some (setCall (storeState s k .shuttingDown) i { c with pc := .shutdown .testing k inCatch })
  | .testing =>
    if s.scanning then some (setCall s i { c with pc := .shutdown .disabling k inCatch })
    else some (raiseLocked s i c inCatch)
  | .disabling =>
    some { setCall s i { c with pc := .shutdown .stopping k inCatch } with
      handler := if o.resets then none else s.handler }
  | .stopping =>
    if o.stopThrows then some (raiseLocked s i c inCatch)
    else some (setCall s i { c with pc := .shutdown .cleaning k inCatch })
  | .cleaning =>
    if stateOf s k = .shuttingDown then
      some (setCall s i { c with pc := .shutdown .deleting k inCatch })
    else some (raiseLocked s i c inCatch)
  | .deleting =>
    some { setCall s i { c with pc := .shutdown .clearing k inCatch } with
      contexts := free s.contexts k
      deletes := Function.update s.deletes k (s.deletes k + 1) }
  | .clearing =>
    some (leaveShutdown { s with scanning := false, shutdownMutex := false } i c inCatch)

/-! The monitor task -/

def monitorStep (s : Impl) (i : Nat) (c : Call) (k : Nat) : MonitorPc → Option Impl
  | .absent => none
  | .polling =>
    if s.scanning then some (setCall s i { c with monitor := .loaded })
    else some (setCall s i { c with monitor := .done })
  | .loaded =>
    if s.abort then some (setCall s i { c with monitor := .locking })
    else some (setCall s i { c with monitor := .polling })
  | .locking =>
    if canLock s k then some (setCall (lockContext s k) i { c with monitor := .storing })
    else none
  | .storing => some (setCall (storeState s k .aborted) i { c with monitor := .unlocking })
  | .unlocking => some (setCall (unlockContext s k) i { c with monitor := .done })
  | .done => none

/-! `GattlibScanner::Impl::onScanDiscovery` -/

def setDiscovery (s : Impl) (j : Nat) (pc : DiscoveryPc) : Impl :=
  { s with discoveries := Function.update s.discoveries j (some pc) }

/-- The filter of a context that has been deleted may be anything. -/
def matchesFilter (s : Impl) (k : Nat) (addr : CString) (garbage : Bool) : Bool :=
  match s.contexts.cell k with
  | none => garbage
  | some ctx => ctx.deviceFilter.any (fun filter => filter.bytes == addr.bytes)

def onScanDiscovery (s : Impl) (j : Nat) (h : Installed) (adapterNull : Bool) (addr : CString)
    (garbage : Bool) : Impl :=
  if h.custom then setDiscovery s j .done
  else if adapterNull then setDiscovery s j (.locking h.scanData .failed)
  else if matchesFilter s h.scanData addr garbage then
    setDiscovery s j (.locking h.scanData .succeeded)
  else setDiscovery s j .done

/-- The callback is over, or goes for the mutex to store a state that is not SHUTTING_DOWN. -/
theorem onScanDiscovery_sets (s : Impl) (j : Nat) (h : Installed) (adapterNull : Bool)
    (addr : CString) (garbage : Bool) :
    ∃ pc, onScanDiscovery s j h adapterNull addr garbage = setDiscovery s j pc ∧
      (pc = .done ∨ h.custom = false ∧
        ∃ new, pc = .locking h.scanData new ∧ new ≠ .shuttingDown) := by
  unfold onScanDiscovery
  split
  · exact ⟨.done, rfl, Or.inl rfl⟩
  · next hcustom =>
    have hplain := (Bool.not_eq_true _).mp hcustom
    split
    · exact ⟨_, rfl, Or.inr ⟨hplain, .failed, rfl, fun he => ScanState.noConfusion he⟩⟩
    · split
      · exact ⟨_, rfl, Or.inr ⟨hplain, .succeeded, rfl, fun he => ScanState.noConfusion he⟩⟩
      · exact ⟨.done, rfl, Or.inl rfl⟩

/-- A callback that has been reset since the check is called through a NULL pointer. -/
def callHandler (s : Impl) (j : Nat) : Impl :=
  match s.handler with
  | none => setDiscovery s j .done
  | some h => setDiscovery s j (.called h)

def discoveryStep (s : Impl) (j : Nat) (adapterNull : Bool) (addr : CString)
    (garbage : Bool) : DiscoveryPc → Option Impl
  | .checked => some (callHandler s j)
  | .called h => some (onScanDiscovery s j h adapterNull addr garbage)
  | .locking k new =>
    if canLock s k then some (setDiscovery (lockContext s k) j (.storing k new)) else none
  | .storing k new => some (setDiscovery (storeState s k new) j (.unlocking k))
  | .unlocking k => some (setDiscovery (unlockContext s k) j .done)
  | .done => none

inductive ScannerEvent
  | scan (timeoutSec : Nat) (deviceAddress : Option CString) (custom : Bool)
  | check (call : Nat)
  | prepare (call : Nat) (o : Prepared)
  | launch (call : Nat) (starts : Bool)
  | announce (call : Nat)
  | enable (call : Nat) (stores : Bool)
  | enabled (call : Nat) (ret : Ret)
  | fail (call : Nat)
  | wait (call : Nat) (expired : Bool)
  | shutdown (call : Nat) (o : ShutdownOutcome)
  | leave (call : Nat)
  | monitor (call : Nat)
  | abortCheck
  | abortStore
  | discover
  | discovery (thread : Nat) (adapterNull : Bool) (addr : CString) (garbage : Bool)

def callAt (s : Impl) (i : Nat) (pc : CallPc) : Option Call :=
  (s.calls i).filter (fun c => c.pc = pc)

def scannerStep (s : Impl) : ScannerEvent → Option Impl
  | .scan timeoutSec deviceAddress custom =>
      some { setCall s s.nextCall { timeoutSec, deviceAddress, custom } with
        nextCall := s.nextCall + 1 }
  | .check i => (callAt s i .checking).map (scanCheck s i)
  | .prepare i o => (callAt s i .preparing).map (fun c => scanPrepare s i c o)
  | .launch i starts => (callAt s i .launching).map (fun c => scanLaunch s i c starts)
  | .announce i => (callAt s i .announcing).map (scanAnnounce s i)
  | .enable i stores => (callAt s i .enabling).map (fun c => scanEnable s i c stores)
  | .enabled i ret => (callAt s i .enabled).map (fun c => scanEnabled s i c ret)
  | .fail i => (callAt s i .failing).map (scanFail s i)
  | .wait i expired => (callAt s i .waiting).bind (fun c => scanWait s i c expired)
  | .shutdown i o => (s.calls i).bind (fun c =>
      match c.pc with
      | .shutdown p k inCatch => shutdownStep s i c k inCatch o p
      | _ => none)
  | .leave i => (s.calls i).bind (fun c =>
      match c.pc with
      | .leaving thrown => scanLeave s i c thrown
      | _ => none)
  | .monitor i => (s.calls i).bind (fun c => c.scanData.bind (fun k => monitorStep s i c k c.monitor))
  | .abortCheck => some (if s.scanning then { s with aborting := s.aborting + 1 } else s)
  | .abortStore =>
      if 0 < s.aborting then some { s with abort := true, aborting := s.aborting - 1 } else none
  | .discover =>
      if s.handler.isSome then
        some { setDiscovery s s.nextDiscovery .checked with nextDiscovery := s.nextDiscovery + 1 }
      else none
  | .discovery j adapterNull addr garbage =>
      (s.discoveries j).bind (discoveryStep s j adapterNull addr garbage)

theorem callAt_iff {s : Impl} {i : Nat} {c : Call} {pc : CallPc} :
    callAt s i pc = some c ↔ s.calls i = some c ∧ c.pc = pc := by
  rw [callAt, Option.filter_eq_some_iff, decide_eq_true_iff]

theorem set_calls {s x : Impl} (hx : x.calls = s.calls) (i : Nat) (c : Call) :
    (setCall x i c).calls = Function.update s.calls i (some c) := by
  rw [setCall, hx]

/-- A scanner that has just been constructed. -/
def Constructed (s : Impl) : Prop := s = {}

end Gattlib.Scanner
