import Gattlib.Events
import Gattlib.Scanner

namespace Gattlib.Client

open Library.Memory Gattlib.Strings Gattlib.State Gattlib.Connection Gattlib.Events
open Gattlib.Scanner (ScanResult gattlibDeviceError)

def gattlibDeviceNotConnected : Ret := 7

inductive ConnectionState
  | disconnected | connecting | connected | failed | aborted | shuttingDown
  deriving DecidableEq

def emptyString : CString := ⟨[], by decide⟩

/-- `ConnectionContext`, with its mutex locked or not. -/
structure ConnectionContext where
  address : CString := emptyString
  state : ConnectionState := .disconnected
  connection : Option Nat := none
  locked : Bool := false

/-- The user data that points to a context. NULL is zero. -/
def contextPtr (k : Nat) : Nat := k + 1

/-- The number of `onDeviceDisconnect` among the callbacks. -/
def onDeviceDisconnectCallback : Nat := 1

inductive ApiCall
  | connect (timeout : Int) (address : CString)
  | disconnect
  | shutdown

/-- The parts of `connect`, of `disconnect` with the context whose mutex its lock guard
holds, what both end with, and the rest of `shutdown`. -/
inductive CallPc
  | checking | allocating | scanning | waiting
  | looking | locking | disconnecting (guard : Nat) | awaiting
  | deleting (ret : Ret) | clearing (ret : Ret)
  | closing | ended
  deriving DecidableEq

inductive CallResult
  | returned (ret : Ret)
  | thrown
  deriving DecidableEq

structure Call where
  api : ApiCall
  pc : CallPc
  result : Option CallResult := none

/-- The threads in `onDeviceDiscoverConnect` and in `onDeviceConnect`: at its mutex,
inside `functions->connect`, at the mutex again, and about to register the
disconnection handler. -/
inductive CallbackPc
  | discovered (k : Nat) (adapterNull : Bool)
  | connecting (k : Nat)
  | storing (k : Nat) (new : ConnectionState)
  | answered (k : Nat) (connection : Option Nat) (failed : Bool)
  | registering (k : Nat) (connection : Nat)
  | done

/-- The main loop in `gattlib_on_disconnected_device`, inside `onDeviceDisconnect` or
back from it. It holds `m_gattlib_mutex`. -/
inductive MainLoopPc
  | free | called (userData : Nat) | returned
  deriving DecidableEq

/-- The members of `GattlibClient::Impl`, the contexts, all who use them, and the
library under them. -/
structure Impl where
  core : World
  /-- `m_adapterPtr` -/
  adapterPtr : Option Nat
  /-- `m_connectionContext` -/
  connectionContext : Option Nat := none
  contexts : Heap ConnectionContext := Library.Memory.empty
  nextCall : Nat := 0
  calls : Nat → Option Call := fun _ => none
  nextCallback : Nat := 0
  callbacks : Nat → Option CallbackPc := fun _ => none
  mainLoop : MainLoopPc := .free

def setCall (s : Impl) (i : Nat) (c : Call) : Impl :=
  { s with calls := Function.update s.calls i (some c) }

def setCallback (s : Impl) (j : Nat) (pc : CallbackPc) : Impl :=
  { s with callbacks := Function.update s.callbacks j (some pc) }

/-- The state of a context that has been deleted may be anything. -/
def stateOf (s : Impl) (k : Nat) (garbage : ConnectionState) : ConnectionState :=
  ((s.contexts.cell k).map ConnectionContext.state).getD garbage

def addressOf (s : Impl) (k : Nat) (garbage : CString) : CString :=
  ((s.contexts.cell k).map ConnectionContext.address).getD garbage

def connectionOf (s : Impl) (k : Nat) : Option Nat :=
  (s.contexts.cell k).bind ConnectionContext.connection

def writeContext (s : Impl) (k : Nat) (f : ConnectionContext → ConnectionContext) : Impl :=
  { s with contexts := modify s.contexts k f }

/-- Nobody holds the mutex, as far as there is one. -/
def canLock (s : Impl) (k : Nat) : Bool := (s.contexts.cell k).all (fun ctx => !ctx.locked)

def lockContext (s : Impl) (k : Nat) : Impl :=
  writeContext s k (fun ctx => { ctx with locked := true })

def unlockContext (s : Impl) (k : Nat) : Impl :=
  writeContext s k (fun ctx => { ctx with locked := false })

def storeState (s : Impl) (k : Nat) (new : ConnectionState) : Impl :=
  writeContext s k (fun ctx => { ctx with state := new })

def isConnected (s : Impl) : Bool :=
  s.connectionContext.any (fun k =>
    (s.contexts.cell k).any (fun ctx => ctx.state = .connected))

/-- A call ends, or `disconnect` returns to `shutdown`. -/
def finish (s : Impl) (i : Nat) (c : Call) (r : CallResult) : Impl :=
  match c.api with
  | .shutdown => setCall s i { c with pc := .closing }
  | .connect _ _ | .disconnect => setCall s i { c with pc := .ended, result := some r }

/-! `GattlibClient::Impl::connect` -/

def timeoutArg : ApiCall → Int
  | .connect timeout _ => timeout
  | .disconnect | .shutdown => 0

def addressArg : ApiCall → CString
  | .connect _ address => address
  | .disconnect | .shutdown => emptyString

def connectCheck (s : Impl) (i : Nat) (c : Call) : Impl :=
  if timeoutArg c.api = 0 then finish s i c (.returned gattlibInvalidParameter)
  else if s.connectionContext.isSome then finish s i c (.returned gattlibBusy)
  else setCall s i { c with pc := .allocating }

/-- The allocation of the context, or the copy of the address, may throw. -/
inductive Allocated
  | complete | noMemory | noAddress
  deriving DecidableEq

def connectAllocate (s : Impl) (i : Nat) (c : Call) : Allocated → Impl
  | .noMemory => finish s i c (.returned gattlibDeviceError)
  | .noAddress =>
    finish { s with
      contexts := alloc s.contexts {}
      connectionContext := some s.contexts.next } i c (.returned gattlibDeviceError)
  | .complete =>
    setCall { s with
      contexts := alloc s.contexts { address := addressArg c.api, state := .connecting }
      connectionContext := some s.contexts.next } i { c with pc := .scanning }

/-- What `scan` throws is not caught. -/
def connectScanned (s : Impl) (i : Nat) (c : Call) : ScanResult → Impl
  | .returned scanReturnCode =>
    if scanReturnCode = gattlibSuccess then setCall s i { c with pc := .waiting }
    else finish s i c (.returned scanReturnCode)
  | .thrown => finish s i c .thrown

/-- What follows the wait, for the state it has ended with. -/
def connectFinish (s : Impl) (i : Nat) (c : Call) (finalState : ConnectionState) : Impl :=
  if finalState = .connected then finish s i c (.returned gattlibSuccess)
  else if finalState = .failed then
    setCall s i { c with pc := .deleting gattlibDeviceNotConnected }
  else setCall s i { c with pc := .deleting gattlibDeviceError }

def finished (state : ConnectionState) : Bool :=
  state = .connected || state = .failed || state = .aborted

/-- The predicate of `wait_for` is evaluated with the mutex held, when the thread is
woken up and, for the last time, when the time has expired. -/
def connectWait (s : Impl) (i : Nat) (c : Call) (expired : Bool)
    (garbage : ConnectionState) : Option Impl :=
  match s.connectionContext with
  | none => none
  | some k =>
    if canLock s k then
      if finished (stateOf s k garbage) then some (connectFinish s i c (stateOf s k garbage))
      else if expired then some (finish s i c (.returned gattlibTimeout))
      else none
    else none

/-! `GattlibClient::Impl::disconnect` and `waitForDisconnect` -/

def disconnectLook (s : Impl) (i : Nat) (c : Call) : Impl :=
  if s.connectionContext = none then finish s i c (.returned gattlibDeviceNotConnected)
  else setCall s i { c with pc := .locking }

/-- A member of a NULL context is read: the program has crashed. -/
def disconnectLock (s : Impl) (i : Nat) (c : Call) (garbage : ConnectionState) : Option Impl :=
  match s.connectionContext with
  | none => none
  | some k =>
    if canLock s k then
      if stateOf s k garbage ≠ .connected then
        some (finish s i c (.returned gattlibDeviceNotConnected))
      else some (setCall (storeState (lockContext s k) k .shuttingDown) i
        { c with pc := .disconnecting k })
    else none

/-- The end of the critical section, given what `functions->disconnect` returns if
there is a connection to call it for. -/
def disconnectAnswer (s : Impl) (i : Nat) (c : Call) (guard : Nat) (ret : Ret) : Option Impl :=
  match s.connectionContext with
  | none => none
  | some k =>
    if (connectionOf s k).isSome && ret = gattlibSuccess then
      some (setCall (unlockContext (storeState s k .disconnected) guard) i
        { c with pc := .awaiting })
    else some (setCall (unlockContext s guard) i { c with pc := .awaiting })

def waitForDisconnect (s : Impl) (i : Nat) (c : Call) (expired : Bool)
    (garbage : ConnectionState) : Option Impl :=
  match s.connectionContext with
  | none => some (setCall s i { c with pc := .deleting gattlibSuccess })
  | some k =>
    if canLock s k && (stateOf s k garbage = .disconnected || expired) then
      some (setCall s i { c with pc := .deleting gattlibSuccess })
    else none

/-- `delete m_connectionContext` -/
def deleteContext (s : Impl) (i : Nat) (c : Call) (ret : Ret) : Impl :=
  match s.connectionContext with
  | none => setCall s i { c with pc := .clearing ret }
  | some k => setCall { s with contexts := free s.contexts k } i { c with pc := .clearing ret }

def clearContext (s : Impl) (i : Nat) (c : Call) (ret : Ret) : Impl :=
  finish { s with connectionContext := none } i c (.returned ret)

/-- What a call gets from the allocator, the scanner, the clock and the library, and
what it reads from a context that has been deleted. -/
structure Answer where
  allocated : Allocated := .complete
  scan : ScanResult := .returned gattlibSuccess
  expired : Bool := false
  disconnect : Ret := gattlibSuccess
  garbage : ConnectionState := .disconnected

def callStep (s : Impl) (i : Nat) (c : Call) (a : Answer) : CallPc → Option Impl
  | .checking => some (connectCheck s i c)
  | .allocating => some (connectAllocate s i c a.allocated)
  | .scanning => some (connectScanned s i c a.scan)
  | .waiting => connectWait s i c a.expired a.garbage
  | .looking => some (disconnectLook s i c)
  | .locking => disconnectLock s i c a.garbage
  | .disconnecting guard => disconnectAnswer s i c guard a.disconnect
  | .awaiting => waitForDisconnect s i c a.expired a.garbage
  | .deleting ret => some (deleteContext s i c ret)
  | .clearing ret => some (clearContext s i c ret)
  | .closing =>
    some { setCall s i { c with pc := .ended, result := some (.returned gattlibSuccess) } with
      adapterPtr := none }
  | .ended => none

def firstPc : ApiCall → CallPc
  | .connect _ _ => .checking
  | .disconnect | .shutdown => .looking

def beginCall (s : Impl) (api : ApiCall) : Impl :=
  { setCall s s.nextCall { api := api, pc := firstPc api } with nextCall := s.nextCall + 1 }

/-! The callbacks -/

def beginCallback (s : Impl) (pc : CallbackPc) : Impl :=
  { setCallback s s.nextCallback pc with nextCallback := s.nextCallback + 1 }

/-- A callback throws if its user data is NULL, and the program ends. -/
def onDeviceDiscoverConnect (s : Impl) (adapterNull : Bool) : Nat → Option Impl
  | 0 => none
  | k + 1 => some (beginCallback s (.discovered k adapterNull))

/-- What the core passes to a connection callback. -/
structure ConnectArgs where
  adapterNull : Bool := false
  dst : CString
  connection : Option Nat
  error : Ret := gattlibSuccess

def connectionFailed (s : Impl) (k : Nat) (args : ConnectArgs) (garbage : CString) : Bool :=
  args.adapterNull || args.connection.isNone || args.error ≠ gattlibSuccess ||
    addressOf s k garbage ≠ args.dst

def onDeviceConnect (s : Impl) (args : ConnectArgs) (garbage : CString) : Nat → Option Impl
  | 0 => none
  | k + 1 => some (beginCallback s (.answered k args.connection (connectionFailed s k args garbage)))

def storeConnection (s : Impl) (k : Nat) (connection : Option Nat) : Impl :=
  writeContext s k (fun ctx => { ctx with connection := connection })

/-- `onDeviceConnect` with the mutex held, up to the call of
`gattlib_register_on_disconnect` if the connection has not failed. -/
def answerConnection (s : Impl) (j k : Nat) (failed : Bool) : Option Nat → Impl
  | some connection =>
    if failed then
      setCallback (storeState (storeConnection s k (some connection)) k .failed) j .done
    else
      setCallback (lockContext (storeState (storeConnection s k (some connection)) k .connected) k)
        j (.registering k connection)
  | none => setCallback (storeState (storeConnection s k none) k .failed) j .done

def connectResult (ret : Ret) : ConnectionState :=
  if ret ≠ gattlibSuccess then .failed else .connected

def callbackStep (s : Impl) (j : Nat) (ret : Ret) : CallbackPc → Option Impl
  | .discovered k adapterNull =>
    if canLock s k then
      if adapterNull then some (setCallback (storeState s k .failed) j .done)
      else some (setCallback (lockContext s k) j (.connecting k))
    else none
  | .connecting k => some (setCallback (unlockContext s k) j (.storing k (connectResult ret)))
  | .storing k new =>
    if canLock s k then some (setCallback (storeState s k new) j .done) else none
  | .answered k connection failed =>
    if canLock s k then some (answerConnection s j k failed connection) else none
  | .registering k connection =>
    if s.mainLoop = .free then
      some (setCallback { unlockContext s k with
        core := gattlibRegisterOnDisconnect s.core connection
          ⟨some onDeviceDisconnectCallback, contextPtr k⟩ } j .done)
    else none
  | .done => none

def onDeviceDisconnect (s : Impl) : Nat → Option Impl
  | 0 => some { s with mainLoop := .returned }
  | k + 1 =>
    if canLock s k then some { storeState s k .disconnected with mainLoop := .returned } else none

/-- The connection the main loop is about to report as disconnected. -/
def disconnecting (s : Impl) : Option Nat :=
  s.core.emission.bind (fun em =>
    match em.property with
    | .connected false => some em.connection
    | _ => none)

/-- The user data of the `onDeviceDisconnect` it has to call for it. -/
def disconnectionDue (s : Impl) : Option Nat :=
  ((disconnecting s).bind (fun connection =>
    (disconnectionCall s.core connection).filter (fun h =>
      h.callback = some onDeviceDisconnectCallback))).map Handler.userData

/-- A step of the library may be taken when its mutex is free. The main loop calls the
handler first, and nobody but the client registers the client's callback. -/
def coreReady (s : Impl) : DeviceEvent → Bool
  | .propertyChange _ =>
    if (disconnectionDue s).isSome then s.mainLoop = .returned else s.mainLoop = .free
  | .registerOnDisconnect _ handler =>
    s.mainLoop = .free && handler.callback ≠ some onDeviceDisconnectCallback
  | _ => s.mainLoop = .free

def coreStep (s : Impl) (e : DeviceEvent) : Option Impl :=
  if coreReady s e then
    (deviceStep s.core e).map (fun core => { s with core := core, mainLoop := .free })
  else none

def mainLoopStep (s : Impl) : MainLoopPc → Option Impl
  | .free => (disconnectionDue s).map (fun userData => { s with mainLoop := .called userData })
  | .called userData => onDeviceDisconnect s userData
  | .returned => none

inductive ClientEvent
  | api (a : ApiCall)
  | call (i : Nat) (a : Answer)
  | discoverConnect (userData : Nat) (adapterNull : Bool)
  | deviceConnect (userData : Nat) (args : ConnectArgs) (garbage : CString)
  | callback (j : Nat) (ret : Ret)
  | mainLoop
  | core (e : DeviceEvent)

def clientStep (s : Impl) : ClientEvent → Option Impl
  | .api a => some (beginCall s a)
  | .call i a => (s.calls i).bind (fun c => callStep s i c a c.pc)
  | .discoverConnect userData adapterNull => onDeviceDiscoverConnect s adapterNull userData
  | .deviceConnect userData args garbage => onDeviceConnect s args garbage userData
  | .callback j ret => (s.callbacks j).bind (callbackStep s j ret)
  | .mainLoop => mainLoopStep s s.mainLoop
  | .core e => coreStep s e

/-- A client that has just been constructed, with its adapter open. -/
def Constructed (s : Impl) : Prop :=
  ∃ core adapter, Opened core ∧ adapter ∈ core.adapterList ∧
    s = { core := core, adapterPtr := some adapter }

end Gattlib.Client
