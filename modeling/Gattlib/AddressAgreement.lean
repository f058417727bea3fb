import Gattlib.Client
import Gattlib.DevicePaths
import Gattlib.SystemInvariants

namespace Gattlib.AddressAgreement

open Library.Memory Library.Text Library.Transition Gattlib.Strings Gattlib.State Gattlib.Registry
open Gattlib.RegistryFacts Gattlib.Connection Gattlib.Events Gattlib.Adapters
open Gattlib.SystemInvariants Gattlib.DevicePaths

/-- The three places where an address `a` has been asked for, and a device that BlueZ
reports under `b`: a context of a scanner, a context of a client, and a listed device of
the library. -/
structure Layers (adapterName : Option CString) (a b : CString) where
  scanner : Scanner.Impl
  scan : ℕ
  scanContext : Scanner.ScanContext
  scan_alive : scanner.contexts.cell scan = some scanContext
  filter : scanContext.deviceFilter = some a
  client : Client.Impl
  connection : ℕ
  connectionContext : Client.ConnectionContext
  connection_alive : client.contexts.cell connection = some connectionContext
  address : connectionContext.address = a
  world : World
  reached : Reach systemStep AnyStep Started world
  adapter : ℕ
  open_adapter : adapter ∈ world.adapterList
  device : ℕ
  listed : device ∈ devicesOf world adapter
  cell : Device
  device_alive : world.devices.cell device = some cell
  registered : cell.deviceId = objectPath adapterName b

section

variable {adapterName : Option CString} {a b : CString} (l : Layers adapterName a b)

/-- The scanner filter accepts `b`. -/
def FilterAccepts : Prop := Scanner.matchesFilter l.scanner l.scan b false = true

/-- `onDeviceConnect` accepts a connection to `b`. -/
def ConnectAccepts : Prop :=
  Client.connectionFailed l.client l.connection
    { dst := b, connection := some l.device } Client.emptyString = false

/-- `gattlib_connect` finds the device for `a`. -/
def LookupFinds : Prop :=
  gattlibDeviceGetDevice l.world l.adapter (getDevicePathFromMac adapterName a) = some l.device

/-- All three or none of them. -/
def Agree : Prop := (FilterAccepts l ↔ ConnectAccepts l) ∧ (ConnectAccepts l ↔ LookupFinds l)

theorem filter_iff : FilterAccepts l ↔ a = b := by
  rw [FilterAccepts, Scanner.matchesFilter, l.scan_alive]
  simp only [l.filter, Option.any_some, beq_iff_eq]
  exact ⟨fun h => CString.mk.injEq .. ▸ h, fun h => congrArg CString.bytes h⟩

theorem connect_iff : ConnectAccepts l ↔ a = b := by
  rw [ConnectAccepts, Client.connectionFailed, Client.addressOf, l.connection_alive]
  simp [l.address]

theorem lookup_iff (ha : IsMac a) (hb : IsMac b) :
    LookupFinds l ↔ PathFits adapterName ∧ fold a = fold b := by
  have hsound := reach_invariant SystemSound (fun _ => started_sound) system_sound l.reached
  have hkey : key l.world l.device = some (fold (objectPath adapterName b)) := by
    rw [key, l.device_alive, Option.map_some, l.registered]
  rw [LookupFinds, gattlibDeviceGetDevice, find_iff (hsound.sound.wellFormed.ok _ l.open_adapter), hkey,
    Option.some.injEq, ← paths_iff ha hb]
  exact ⟨fun h => h.2.symm, fun h => ⟨l.listed, h.symm⟩⟩

end

/-- The layers agree unless the two addresses differ in case only; and if the path
is too long for its buffer, they agree on different addresses only. -/
theorem agree_iff {adapterName : Option CString} {a b : CString} (l : Layers adapterName a b)
    (ha : IsMac a) (hb : IsMac b) :
    Agree l ↔ (fold a = fold b → (a = b ↔ PathFits adapterName)) := by
  rw [Agree, filter_iff, connect_iff, lookup_iff l ha hb]
  constructor
  · rintro ⟨_, h⟩ hfold
    exact ⟨fun he => (h.mp he).1, fun hfits => h.mpr ⟨hfits, hfold⟩⟩
  · intro h
    refine ⟨Iff.rfl, fun he => ?_, fun he => (h he.2).mpr he.1⟩
    have hfold : fold a = fold b := by rw [he]
    exact ⟨(h hfold).mp he, hfold⟩

/-- AA:00:00:00:00:01, in upper case and in lower case. -/
def upper : CString :=
  ⟨[65, 65, 58, 48, 48, 58, 48, 48, 58, 48, 48, 58, 48, 48, 58, 48, 49], by decide⟩

def lower : CString :=
  ⟨[97, 97, 58, 48, 48, 58, 48, 48, 58, 48, 48, 58, 48, 48, 58, 48, 49], by decide⟩

/-- The default adapter, on which a device has been discovered. -/
def reporting (mac : CString) : List SystemEvent :=
  [.adapter (.openLookup hci0), .adapter (.openAppend hci0 1),
    .device (.objectAdded 0 (objectPath (some hci0) mac) answered)]

def reported (mac : CString) : World :=
  deviceManagerOnAddedDevice1Signal
    (gattlibAdapterOpenAppend { pendingOpens := [hci0] } hci0 1) 0 (objectPath (some hci0) mac) answered

theorem reported_reached (mac : CString) : Reach systemStep AnyStep Started (reported mac) :=
  exec_reach rfl (reporting mac) rfl

/-- A scanner and a client that have been asked for an address. -/
def asked (a b : CString) : Layers (some hci0) a b where
  scanner := { contexts := alloc Library.Memory.empty { timeout := 5, deviceFilter := some a } }
  scan := 0
  scanContext := { timeout := 5, deviceFilter := some a }
  scan_alive := rfl
  filter := rfl
  client :=
    { core := reported b
      adapterPtr := some 0
      contexts := alloc Library.Memory.empty { address := a } }
  connection := 0
  connectionContext := { address := a }
  connection_alive := rfl
  address := rfl
  world := reported b
  reached := reported_reached b
  adapter := 0
  open_adapter := List.mem_singleton.mpr rfl
  device := 0
  listed := List.mem_singleton.mpr rfl
  cell := ((reported b).devices.cell 0).get rfl
  device_alive := rfl
  registered := rfl

/-- BlueZ reports the address in upper case, and it is asked for in lower case. -/
theorem case_disagrees : ¬∀ (a b : CString) (l : Layers (some hci0) a b), IsMac a → IsMac b → Agree l := by
  intro h
  have hagree := h lower upper (asked lower upper) (by decide) (by decide)
  have hfinds : LookupFinds (asked lower upper) := rfl
  have hfails : ¬ConnectAccepts (asked lower upper) := fun hc =>
    absurd ((connect_iff _).mp hc) (by decide)
  exact hfails (hagree.2.mpr hfinds)

theorem upper_agrees : Agree (asked upper upper) ∧ LookupFinds (asked upper upper) := by
  have hagree := (agree_iff (asked upper upper) (by decide) (by decide)).mpr
    (fun _ => ⟨fun _ => (by decide : 4 ≤ 166), fun _ => rfl⟩)
  exact ⟨hagree, rfl⟩

end Gattlib.AddressAgreement
