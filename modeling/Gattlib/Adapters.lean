import Gattlib.Events
import Gattlib.Scan

namespace Gattlib.Adapters

open Library.Memory Gattlib.Strings Gattlib.State Gattlib.Registry Gattlib.Connection
open Gattlib.Events Gattlib.Scan

def gattlibAdapterFromId (w : World) (adapterId : CString) : Option Nat :=
  w.adapterList.find? (fun adapter =>
    (w.adapters.cell adapter).any (fun ad => stricmp ad.id.bytes adapterId.bytes == 0))

/-- `/org/bluez/` -/
def orgBluez : List UInt8 := [47, 111, 114, 103, 47, 98, 108, 117, 101, 122, 47]

/-- The object path of an adapter, as it fits into a buffer of 20 bytes. -/
def adapterObjectPath (name : CString) : CString where
  bytes := (orgBluez ++ name.bytes).take 19
  nul_free := by
    intro h
    rcases List.mem_append.mp (List.mem_of_mem_take h) with h | h
    · exact absurd h (by decide)
    · exact name.nul_free h

def gattlibAdapterRef (w : World) (adapter : Nat) : World :=
  modifyAdapter w adapter (fun ad => { ad with referenceCounter := ad.referenceCounter + 1 })

/-- The end of `gattlib_adapter_unref`, when the counter has reached zero. -/
def adapterFree (w : World) (adapter : Nat) : World :=
  let w := gattlibDevicesFree w adapter
  { w with
    adapterList := w.adapterList.erase adapter
    adapters := free w.adapters adapter
    freedAdapters := adapter :: w.freedAdapters }

/-- On a freed adapter the decrement goes to memory that is not the library's. -/
def gattlibAdapterUnref (w : World) (adapter : Nat) : World :=
  match w.adapters.cell adapter with
  | none => { w with staleUnrefs := w.staleUnrefs + 1 }
  | some ad =>
    if ad.referenceCounter - 1 > 0 then
      modifyAdapter w adapter (fun ad => { ad with referenceCounter := ad.referenceCounter - 1 })
    else adapterFree w adapter

def noteOpen (w : World) (adapter : Nat) : World :=
  { w with opens := Function.update w.opens adapter (w.opens adapter + 1) }

/-- The first critical section of `gattlib_adapter_open`. -/
def gattlibAdapterOpenLookup (w : World) (name : CString) : World :=
  match gattlibAdapterFromId w (adapterObjectPath name) with
  | some adapter => noteOpen (gattlibAdapterRef w adapter) adapter
  | none => { w with pendingOpens := name :: w.pendingOpens }

/-- The second critical section, on an adapter that has just been filled in. -/
def gattlibAdapterOpenAppend (w : World) (name : CString) (adapterProxy : Nat) : World :=
  noteOpen { w with
    pendingOpens := w.pendingOpens.erase name
    adapters := alloc w.adapters (newAdapter (adapterObjectPath name) name adapterProxy)
    adapterList := w.adapterList ++ [w.adapters.next] } w.adapters.next

def noteClose (w : World) (adapter : Nat) : World :=
  { w with closes := Function.update w.closes adapter (w.closes adapter + 1) }

/-- `gattlib_adapter_close` up to the release of the mutex. An adapter that is
scanning has its scan disabled, and the close goes on in two more steps. -/
def gattlibAdapterCloseBegin (w : World) (adapter : Nat) (discovering : Bool)
    (stop : Option GError) : Ret × World :=
  if gattlibAdapterIsValid w adapter = false then (gattlibAdapterClose, w)
  else if gattlibDevicesAreDisconnected w adapter = false then (gattlibBusy, w)
  else if (scanOf w adapter).isScanning then
    let w := (gattlibAdapterScanDisable (noteClose w adapter) adapter discovering stop).2
    (gattlibSuccess, { w with
      nullThreadUses := w.nullThreadUses + 1
      closeWaiting := Function.update w.closeWaiting adapter (w.closeWaiting adapter + 1) })
  else (gattlibSuccess, gattlibAdapterUnref (noteClose w adapter) adapter)

/-- The predicate of the wait loop of the close is evaluated once. -/
def closeCheck (w : World) (adapter : Nat) : World :=
  if gattlibAdapterIsScanning w adapter then w
  else { w with
    closeWaiting := Function.update w.closeWaiting adapter (w.closeWaiting adapter - 1)
    closeLeaving := Function.update w.closeLeaving adapter (w.closeLeaving adapter + 1) }

/-- The close after its wait: a thread that is NULL is joined and the adapter is dropped. -/
def closeFinish (w : World) (adapter : Nat) : World :=
  gattlibAdapterUnref { w with
    nullThreadUses := w.nullThreadUses + 1
    closeLeaving := Function.update w.closeLeaving adapter (w.closeLeaving adapter - 1) } adapter

/-- The critical section of `_gattlib_discovered_device_thread`. -/
def gattlibDiscoveredDeviceThread (w : World) (adapter : Nat) : World :=
  let w := { w with
    discoveredCreated := Function.update w.discoveredCreated adapter
      (w.discoveredCreated adapter - 1) }
  if gattlibAdapterIsValid w adapter = false then w
  else if gattlibHasValidHandler (discoveredCallbackOf w adapter) = false then w
  else
    { gattlibAdapterRef w adapter with
      discoveredHolding := Function.update w.discoveredHolding adapter
        (w.discoveredHolding adapter + 1) }

/-- The callback has returned and its thread drops the adapter. -/
def discoveredCallbackReturns (w : World) (adapter : Nat) : World :=
  gattlibAdapterUnref { w with
    discoveredHolding := Function.update w.discoveredHolding adapter
      (w.discoveredHolding adapter - 1) } adapter

/-- The steps of opening and closing adapters and of the discovered-device threads. -/
inductive AdapterEvent
  | openLookup (name : CString)
  | openFails (name : CString)
  | openAppend (name : CString) (adapterProxy : Nat)
  | close (adapter : Nat) (discovering : Bool) (stop : Option GError)
  | closeCheck (adapter : Nat)
  | closeFinish (adapter : Nat)
  | discoveredThread (adapter : Nat)
  | discoveredReturns (adapter : Nat)

def adapterStep (w : World) : AdapterEvent → Option World
  | .openLookup name => some (gattlibAdapterOpenLookup w name)
  | .openFails name =>
      if name ∈ w.pendingOpens then some { w with pendingOpens := w.pendingOpens.erase name }
      else none
  | .openAppend name adapterProxy =>
      if name ∈ w.pendingOpens then some (gattlibAdapterOpenAppend w name adapterProxy) else none
  | .close adapter discovering stop =>
      some (gattlibAdapterCloseBegin w adapter discovering stop).2
  | .closeCheck adapter =>
      if 0 < w.closeWaiting adapter then some (closeCheck w adapter) else none
  | .closeFinish adapter =>
      if 0 < w.closeLeaving adapter then some (closeFinish w adapter) else none
  | .discoveredThread adapter =>
      if 0 < w.discoveredCreated adapter then some (gattlibDiscoveredDeviceThread w adapter)
      else none
  | .discoveredReturns adapter =>
      if 0 < w.discoveredHolding adapter then some (discoveredCallbackReturns w adapter)
      else none

/-- The steps of the whole library. -/
inductive SystemEvent
  | device (e : DeviceEvent)
  | scan (e : ScanEvent)
  | adapter (e : AdapterEvent)

def systemStep (w : World) : SystemEvent → Option World
  | .device e => deviceStep w e
  | .scan e => scanStep w e
  | .adapter e => adapterStep w e

/-- Nothing has been opened yet. -/
def Started (w : World) : Prop := w = {}

end Gattlib.Adapters
