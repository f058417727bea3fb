import Gattlib.Adapters
import Gattlib.UuidText
import Gattlib.Library.Transition

namespace Gattlib.Notifications

open Library.Memory Library.Resources Library.Transition Gattlib.State Gattlib.Registry
open Gattlib.Connection
open Gattlib.Events Gattlib.Adapters Gattlib.Uuids Gattlib.UuidText

def gattlibDeviceDisconnected : Ret := 12

/-- The two kinds of subscriptions and of handlers. -/
inductive Kind
  | notification | indication
  deriving DecidableEq, Repr

/-- The functions that are connected to `g-properties-changed`. -/
inductive Callback
  | onHandleCharacteristicPropertyChange
  | onHandleCharacteristicIndication
  | onHandleBatteryLevelPropertyChange
  deriving DecidableEq, Repr

/-- A connected signal handler: its function, and the start it was connected by. -/
structure Subscription where
  callback : Callback
  start : Kind
  deriving DecidableEq, Repr

/-- `struct gattlib_handler` of the notifications or the indications of a connection. -/
structure PoolHandler extends Handler where
  threadPool : Option Nat := none
  deriving DecidableEq

/-- `struct gattlib_notification_handle` -/
structure NotificationHandle where
  gatt : Nat
  signalId : Nat
  uuid : Uuid
  deriving DecidableEq

/-- `struct gattlib_notification_device_thread_args`. The UUID is `none` where its
text could not be read. The number of the value among the received ones, the start
of its subscription, whether it was received on a CONNECTED device with a handler
of that kind registered, and the round of the connection are kept for the statements. -/
structure Value where
  connection : Nat
  uuid : Option Uuid
  data : List UInt8
  number : Nat
  start : Kind
  registered : Bool
  round : Nat
  deriving DecidableEq

/-- A `GThreadPool` of one thread. Its user data is a handler of a connection. -/
structure Pool where
  connection : Nat
  kind : Kind
  queue : List Value := []

/-- A call of a handler. -/
structure Pass where
  value : Value
  kind : Kind
  callback : Nat
  userData : Nat
  round : Nat
  deriving DecidableEq

/-- The library with the notifications of its connections. -/
structure Notified where
  world : World := {}
  notification : Nat → PoolHandler := fun _ => {}
  indication : Nat → PoolHandler := fun _ => {}
  /-- `backend.notified_characteristics` -/
  notifiedCharacteristics : Nat → List NotificationHandle := fun _ => []
  signals : Ledger Subscription := Library.Resources.empty
  pools : Heap Pool := Library.Memory.empty
  /-- an assertion has failed, or a handler that is NULL has been called -/
  aborted : Bool := false
  received : List Value := []
  passed : List Pass := []
  /-- how many times each device has become CONNECTED -/
  rounds : Nat → Nat := fun _ => 0

def handlerOf (s : Notified) (connection : Nat) : Kind → PoolHandler
  | .notification => s.notification connection
  | .indication => s.indication connection

def setHandler (s : Notified) (connection : Nat) (handler : PoolHandler) : Kind → Notified
  | .notification => { s with notification := Function.update s.notification connection handler }
  | .indication => { s with indication := Function.update s.indication connection handler }

/-- What `gattlib_register_notification` and `gattlib_register_indication` share.
GLib returns a valid pool also when it reports an error. -/
def registerHandler (s : Notified) (kind : Kind) (connection : Nat) (handler : Option Nat)
    (userData : Nat) (error : Bool) : Ret × Notified :=
  if gattlibConnectionIsValid s.world connection = false then (gattlibDeviceDisconnected, s)
  else
    let s := setHandler { s with pools := alloc s.pools { connection, kind } } connection
      { callback := handler, userData, threadPool := some s.pools.next } kind
    if error then (gattlibErrorInternal, s) else (gattlibSuccess, s)

def gattlibRegisterNotification (s : Notified) (connection : Nat) (handler : Option Nat)
    (userData : Nat) (error : Bool) : Ret × Notified :=
  registerHandler s .notification connection handler userData error

def gattlibRegisterIndication (s : Notified) (connection : Nat) (handler : Option Nat)
    (userData : Nat) (error : Bool) : Ret × Notified :=
  registerHandler s .indication connection handler userData error

/-- `struct dbus_characteristic`, with the proxies named by numbers. -/
inductive DbusCharacteristic
  | none
  | gatt (proxy : Nat)
  | batteryLevel (proxy : Nat)
  deriving DecidableEq

/-- What D-Bus, GLib and the allocator answer to a start: what
`get_characteristic_from_uuid` finds, whether the signal handler is connected,
memory for the entry, and the error of StartNotify. -/
structure StartOutcome where
  characteristic : DbusCharacteristic
  signal : Bool
  calloc : Bool
  startNotify : Option GError

def callbackOf : Kind → Callback
  | .notification => .onHandleCharacteristicPropertyChange
  | .indication => .onHandleCharacteristicIndication

def addHandle (s : Notified) (connection : Nat) (handle : NotificationHandle) : Notified :=
  { s with
    notifiedCharacteristics := Function.update s.notifiedCharacteristics connection
      (s.notifiedCharacteristics connection ++ [handle]) }

def connectSignalToCharacteristicUuid (s : Notified) (connection : Nat) (uuid : Uuid)
    (kind : Kind) (o : StartOutcome) : Ret × Notified :=
  if gattlibConnectionIsConnected s.world connection = false then (gattlibInvalidParameter, s)
  else
    match o.characteristic with
    | .none => (gattlibNotFound, s)
    | .batteryLevel _ =>
      let callback := Callback.onHandleBatteryLevelPropertyChange
      (gattlibSuccess,
        if o.signal then { s with signals := acquire s.signals ⟨callback, kind⟩ connection } else s)
    | .gatt proxy =>
      if o.signal = false then (gattlibErrorDbus, s)
      else
        let signalId := s.signals.next
        let s := { s with signals := acquire s.signals ⟨callbackOf kind, kind⟩ connection }
        if o.calloc = false then (gattlibOutOfMemory, s)
        else
          let s := addHandle s connection { gatt := proxy, signalId, uuid }
          match o.startNotify with
          | some error => (gattlibErrorDbusWithError error, s)
          | none => (gattlibSuccess, s)

def gattlibNotificationStart (s : Notified) (connection : Nat) (uuid : Uuid) (o : StartOutcome) :
    Ret × Notified :=
  connectSignalToCharacteristicUuid s connection uuid .notification o

def gattlibIndicationStart (s : Notified) (connection : Nat) (uuid : Uuid) (o : StartOutcome) :
    Ret × Notified :=
  connectSignalToCharacteristicUuid s connection uuid .indication o

/-- The entry a stop takes: the first one whose UUID compares equal. -/
def notificationHandle (s : Notified) (connection : Nat) (uuid : Uuid) :
    Option NotificationHandle :=
  (s.notifiedCharacteristics connection).find? (fun h => gattlibUuidCmp h.uuid uuid == 0)

/-- The source hands the function over with which the subscription was started, and
does not look at it. -/
def disconnectSignalToCharacteristicUuid (s : Notified) (connection : Nat) (uuid : Uuid)
    (_callback : Callback) (stopNotify : Option GError) : Ret × Notified :=
  if gattlibConnectionIsConnected s.world connection = false then (gattlibInvalidParameter, s)
  else
    match notificationHandle s connection uuid with
    | none => (gattlibNotFound, s)
    | some handle =>
      let s := { s with
        notifiedCharacteristics := Function.update s.notifiedCharacteristics connection
          ((s.notifiedCharacteristics connection).eraseP
            (fun h => gattlibUuidCmp h.uuid uuid == 0))
        signals := release s.signals handle.signalId }
      match stopNotify with
      | some _ => (gattlibNotFound, s)
      | none => (gattlibSuccess, s)

def gattlibNotificationStop (s : Notified) (connection : Nat) (uuid : Uuid)
    (stopNotify : Option GError) : Ret × Notified :=
  disconnectSignalToCharacteristicUuid s connection uuid (callbackOf .notification) stopNotify

def gattlibIndicationStop (s : Notified) (connection : Nat) (uuid : Uuid)
    (stopNotify : Option GError) : Ret × Notified :=
  disconnectSignalToCharacteristicUuid s connection uuid (callbackOf .indication) stopNotify

/-- `end_notification`, on the ledger. -/
def endNotification (signals : Ledger Subscription) (handle : NotificationHandle) :
    Ledger Subscription :=
  release signals handle.signalId

def disconnectAllNotifications (s : Notified) (connection : Nat) : Notified :=
  { s with
    notifiedCharacteristics := Function.update s.notifiedCharacteristics connection []
    signals := (s.notifiedCharacteristics connection).foldl endNotification s.signals }

/-- One entry of the changed properties that D-Bus reports of a characteristic or
of a battery. -/
inductive ChangedProperty
  | value (data : List UInt8)
  | percentage (byte : UInt8)
  | other

/-- The first property called `Value`. -/
def valueOf (changed : List ChangedProperty) : Option (List UInt8) :=
  changed.findSome? (fun p => match p with | .value data => some data | _ => none)

/-- The first property called `Percentage`. -/
def percentageOf (changed : List ChangedProperty) : Option UInt8 :=
  changed.findSome? (fun p => match p with | .percentage byte => some byte | _ => none)

/-- The arguments for the worker, allocated for a value that has been received. -/
def notificationDeviceThreadArgs (s : Notified) (connection : Nat) (start : Kind)
    (uuid : Option Uuid) (data : List UInt8) : Value where
  connection := connection
  uuid := uuid
  data := data
  number := s.received.length
  start := start
  registered := gattlibConnectionIsConnected s.world connection &&
    gattlibHasValidHandler (handlerOf s connection start).toHandler
  round := s.rounds connection

/-- Whatever the kind of the value, it goes to the pool of the notifications. -/
def gattlibOnGattNotification (s : Notified) (connection : Nat) (value : Value) : Notified :=
  match (s.notification connection).threadPool with
  | none => { s with aborted := true }
  | some pool =>
    { s with
      pools := modify s.pools pool (fun p => { p with queue := p.queue ++ [value] })
      received := s.received ++ [value] }

/-- `gattlib_string_to_uuid` of the text D-Bus gives for the characteristic. -/
def uuidOfText (text : List UInt8) : Option Uuid := (gattlibStringToUuid text 38).toOption

def onHandleCharacteristicPropertyChange (s : Notified) (connection : Nat) (start : Kind)
    (text : List UInt8) (changed : List ChangedProperty) : Notified :=
  if gattlibConnectionIsConnected s.world connection = false then s
  else if gattlibHasValidHandler (s.notification connection).toHandler then
    match valueOf changed with
    | none => s
    | some data => gattlibOnGattNotification s connection
        (notificationDeviceThreadArgs s connection start (uuidOfText text) data)
  else s

def onHandleCharacteristicIndication (s : Notified) (connection : Nat) (start : Kind)
    (text : List UInt8) (changed : List ChangedProperty) : Notified :=
  if gattlibHasValidHandler (s.indication connection).toHandler then
    match valueOf changed with
    | none => s
    | some data => gattlibOnGattNotification s connection
        (notificationDeviceThreadArgs s connection start (uuidOfText text) data)
  else s

def onHandleBatteryLevelPropertyChange (s : Notified) (connection : Nat) (start : Kind)
    (changed : List ChangedProperty) : Notified :=
  if gattlibConnectionIsConnected s.world connection = false then s
  else if gattlibHasValidHandler (s.notification connection).toHandler then
    match percentageOf changed with
    | none => s
    | some percentage => gattlibOnGattNotification s connection
        (notificationDeviceThreadArgs s connection start (some mBatteryLevelUuid) [percentage])
  else s

/-- The changed properties are handed to a connected handler. -/
def dispatch (s : Notified) (r : Entry Subscription) (text : List UInt8)
    (changed : List ChangedProperty) : Notified :=
  match r.kind.callback with
  | .onHandleCharacteristicPropertyChange =>
      onHandleCharacteristicPropertyChange s r.owner r.kind.start text changed
  | .onHandleCharacteristicIndication =>
      onHandleCharacteristicIndication s r.owner r.kind.start text changed
  | .onHandleBatteryLevelPropertyChange =>
      onHandleBatteryLevelPropertyChange s r.owner r.kind.start changed

/-- The worker of a pool with the handler the pool was made for. -/
def gattlibNotificationDeviceThread (s : Notified) (connection : Nat) (kind : Kind)
    (args : Value) : Notified :=
  if gattlibConnectionIsConnected s.world args.connection = false then s
  else
    let handler := handlerOf s connection kind
    match handler.callback with
    | none => { s with aborted := true }
    | some callback =>
      { s with passed := s.passed ++ [{
          value := args
          kind
          callback
          userData := handler.userData
          round := s.rounds args.connection }] }

/-- The thread of a pool takes the first of its queue. -/
def poolWorker (s : Notified) (pool : Nat) : Option Notified :=
  match s.pools.cell pool with
  | none => none
  | some p =>
    match p.queue with
    | [] => none
    | args :: rest =>
      some (gattlibNotificationDeviceThread
        { s with pools := modify s.pools pool (fun p => { p with queue := rest }) }
        p.connection p.kind args)

/-- The connection that a step of the library frees: `gattlib_connection_free` is
called on the disconnection of a valid connection. -/
def freedConnection (w : World) : SystemEvent → Option Nat
  | .device (.propertyChange _) =>
    match w.emission with
    | some ⟨connection, .connected false, _⟩ =>
      if gattlibConnectionIsValid w connection then some connection else none
    | _ => none
  | _ => none

/-- What a step of the library does to the notifications. -/
def follow (s : Notified) (e : SystemEvent) (w : World) : Notified :=
  let t := match freedConnection s.world e with
    | none => s
    | some connection => disconnectAllNotifications s connection
  { t with
    world := w
    rounds := fun c =>
      if gattlibConnectionIsConnected s.world c = false ∧ gattlibConnectionIsConnected w c then
        s.rounds c + 1
      else s.rounds c }

inductive NotifiedEvent
  | library (e : SystemEvent)
  | register (kind : Kind) (connection : Nat) (handler : Option Nat) (userData : Nat)
      (error : Bool)
  | start (kind : Kind) (connection : Nat) (uuid : Uuid) (o : StartOutcome)
  | stop (kind : Kind) (connection : Nat) (uuid : Uuid) (stopNotify : Option GError)
  | valueChanged (signal : Nat) (text : List UInt8) (changed : List ChangedProperty)
  | worker (pool : Nat)

def startOf : Kind → Notified → Nat → Uuid → StartOutcome → Ret × Notified
  | .notification => gattlibNotificationStart
  | .indication => gattlibIndicationStart

def stopOf : Kind → Notified → Nat → Uuid → Option GError → Ret × Notified
  | .notification => gattlibNotificationStop
  | .indication => gattlibIndicationStop

def registerOf : Kind → Notified → Nat → Option Nat → Nat → Bool → Ret × Notified
  | .notification => gattlibRegisterNotification
  | .indication => gattlibRegisterIndication

/-- Nothing happens any more in a process that has been aborted. -/
def notifiedStep (s : Notified) (e : NotifiedEvent) : Option Notified :=
  if s.aborted then none
  else
    match e with
    | .library e => (systemStep s.world e).map (follow s e)
    | .register kind connection handler userData error =>
        some (registerOf kind s connection handler userData error).2
    | .start kind connection uuid o => some (startOf kind s connection uuid o).2
    | .stop kind connection uuid stopNotify => some (stopOf kind s connection uuid stopNotify).2
    | .valueChanged signal text changed =>
        (find s.signals signal).map (fun r => dispatch s r text changed)
    | .worker pool => poolWorker s pool

/-- No adapter has been opened and nothing is subscribed to. -/
def Fresh (s : Notified) : Prop := s = {}

/-- A device is discovered on the default adapter, connected to and resolved. -/
def connectedEvents : List NotifiedEvent :=
  [.library (.adapter (.openLookup hci0)), .library (.adapter (.openAppend hci0 1)),
    .library (.device (.objectAdded 0 devicePath answered)),
    .library (.device (.connect 0 devicePath 1 0 (.accepted 2))),
    .library (.device (.emit 2 (.servicesResolved true) [])),
    .library (.device (.propertyChange ⟨some 1, false, true⟩))]

def connectedState : Notified := (exec notifiedStep {} connectedEvents).getD {}

theorem connected_run : ∃ tr, Run notifiedStep Fresh tr connectedState ∧
    ∀ x ∈ tr, ∃ e, x.2.1 = .library e := by
  have hexec : exec notifiedStep {} connectedEvents = some connectedState := rfl
  have hstart : Run notifiedStep Fresh [] {} := .start rfl
  obtain ⟨tr, hrun, hlabels⟩ := exec_run_from hstart hexec
  refine ⟨tr ++ [], hrun, fun x hx => ?_⟩
  rw [List.append_nil] at hx
  have hmem : x.2.1 ∈ connectedEvents := by
    rw [← hlabels, List.mem_reverse]
    exact List.mem_map_of_mem hx
  generalize x.2.1 = e at hmem ⊢
  simp only [connectedEvents, List.mem_cons, List.not_mem_nil, or_false] at hmem
  rcases hmem with rfl | rfl | rfl | rfl | rfl | rfl
  all_goals exact ⟨_, rfl⟩

end Gattlib.Notifications
