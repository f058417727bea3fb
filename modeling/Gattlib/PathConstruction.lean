import Gattlib.DevicePaths
import Gattlib.Library.Buffers

namespace Gattlib.PathConstruction

open Library.Text Library.Buffers Gattlib.Strings
open Gattlib.Adapters
open Gattlib.DevicePaths (underscored slashDev nameOf IsMac)

/-- The adapter's proxy, with what `g_dbus_proxy_get_object_path` returns for it. -/
structure OrgBluezAdapter1 where
  objectPath : CString

/-- GATTLIB_DBUS_OBJECT_PATH_SIZE_MAX -/
def gattlibDbusObjectPathSizeMax : ℕ := 200

/-- `char device_address_str[20 + 1]` -/
abbrev DeviceAddressStr := Vector UInt8 21

/-- The loop that replaces ':' by '_'. The length is computed anew before every round. -/
def replaceColons {n : ℕ} (str : Vector UInt8 n) (i : ℕ) : Except Fault (Vector UInt8 n) := do
  let len ← strlen str
  if h : i < len then
    let c ← read str i
    if c = 58 then
      let str ← write str i 95
      replaceColons str (i + 1)
    else replaceColons str (i + 1)
  else return str
termination_by n - i

/-- What both functions do with `device_address_str`, which holds any bytes before that. -/
def deviceAddressStr (str : DeviceAddressStr) (macAddress : CString) :
    Except Fault DeviceAddressStr := do
  let str ← strncpy str macAddress.bytes 20
  let str ← replaceColons str 0
  -- the terminator comes after the loop
  write str 20 0

/-- The string that is left in `object_path`, or the first access outside of
`device_address_str`. -/
def getDevicePathFromMacWithAdapter (str : DeviceAddressStr) (adapter : OrgBluezAdapter1)
    (macAddress : CString) (objectPathLen : ℕ) : Except Fault (List UInt8) := do
  let str ← deviceAddressStr str macAddress
  let address ← string str
  return snprintf objectPathLen (adapter.objectPath.bytes ++ slashDev ++ address)

def getDevicePathFromMac (str : DeviceAddressStr) (adapterName : Option CString)
    (macAddress : CString) (objectPathLen : ℕ) : Except Fault (List UInt8) := do
  let adapter := nameOf adapterName
  let str ← deviceAddressStr str macAddress
  let address ← string str
  return snprintf objectPathLen (orgBluez ++ adapter.bytes ++ slashDev ++ address)

/-- The path of a device below the one of its adapter. -/
def devicePath (adapterPath : List UInt8) (macAddress : CString) : List UInt8 :=
  adapterPath ++ slashDev ++ (macAddress.bytes.take 20).map underscored

/-- Nothing outside of the local buffer is touched, and a path that fits is the right one. -/
def Constructs (made : Except Fault (List UInt8)) (path : List UInt8) (objectPathLen : ℕ) : Prop :=
  ∃ left, made = .ok left ∧ (path.length < objectPathLen → left = path)

/-- What the two functions are there for. Each has a local buffer of its own. -/
structure Right (adapter : OrgBluezAdapter1) (adapterName : Option CString)
    (macAddress : CString) (str str' : DeviceAddressStr) (objectPathLen : ℕ) : Prop where
  withAdapter : Constructs (getDevicePathFromMacWithAdapter str adapter macAddress objectPathLen)
    (devicePath adapter.objectPath.bytes macAddress) objectPathLen
  byName : Constructs (getDevicePathFromMac str' adapterName macAddress objectPathLen)
    (devicePath (orgBluez ++ (nameOf adapterName).bytes) macAddress) objectPathLen
  agree : adapter.objectPath.bytes = orgBluez ++ (nameOf adapterName).bytes →
    getDevicePathFromMacWithAdapter str adapter macAddress objectPathLen =
      getDevicePathFromMac str' adapterName macAddress objectPathLen

/-- The address is short enough for `strncpy` to terminate it, or the last byte of the local
buffer, which `strncpy` does not write, is a zero by chance. -/
def Terminated (str : DeviceAddressStr) (macAddress : CString) : Prop :=
  macAddress.bytes.length < 20 ∨ str[20] = 0

section

variable {n i objectPathLen : ℕ} {buffer : Vector UInt8 n} {done todo rest : List UInt8} {c : UInt8}
variable {str str' : DeviceAddressStr} {macAddress : CString} {adapter : OrgBluezAdapter1}
variable {adapterName : Option CString}

/-! The rounds of the loop -/

theorem replace_stops (h : Holds buffer done rest) :
    replaceColons buffer done.length = .ok buffer := by
  rw [replaceColons, strlen_holds h]
  exact dif_neg (Nat.lt_irrefl _)

theorem replace_goes (h : Holds buffer (done ++ c :: todo) rest) :
    ∃ buffer', Holds buffer' (done ++ underscored c :: todo) rest ∧
      replaceColons buffer done.length = replaceColons buffer' (done.length + 1) := by
  have hlt : done.length < (done ++ c :: todo).length := by simp
  have hround : replaceColons buffer done.length = if c = 58 then
      (write buffer done.length 95 >>= fun str => replaceColons str (done.length + 1))
      else replaceColons buffer (done.length + 1) := by
    rw [replaceColons, strlen_holds h]
    refine (dif_pos hlt).trans ?_
    rw [read_holds h]
    rfl
  by_cases hc : c = 58
  · obtain ⟨buffer', hwrite, hholds⟩ := write_holds h (d := 95) (by decide)
    rw [underscored, if_pos hc]
    refine ⟨buffer', hholds, ?_⟩
    rw [hround, if_pos hc, hwrite]
    rfl
  · rw [underscored, if_neg hc]
    exact ⟨buffer, h, hround.trans (if_neg hc)⟩

/-- The loop gets through the string, as its length stays the same. -/
theorem replace_holds (h : Holds buffer (done ++ todo) rest) :
    ∃ buffer', replaceColons buffer done.length = .ok buffer' ∧
      Holds buffer' (done ++ todo.map underscored) rest := by
  induction todo generalizing buffer done with
  | nil =>
    rw [List.append_nil] at h
    rw [List.map_nil, List.append_nil]
    exact ⟨buffer, replace_stops h, h⟩
  | cons c todo ih =>
    obtain ⟨next, hnext, hround⟩ := replace_goes h
    have hsplit : done ++ underscored c :: todo = done ++ [underscored c] ++ todo := by simp
    rw [hsplit] at hnext
    obtain ⟨buffer', hloop, hholds⟩ := ih hnext
    rw [List.length_append, List.length_singleton] at hloop
    refine ⟨buffer', hround.trans hloop, ?_⟩
    rw [List.map_cons]
    simpa using hholds

theorem replace_string {s : List UInt8} (h : Holds buffer s rest) :
    ∃ buffer', replaceColons buffer 0 = .ok buffer' ∧ Holds buffer' (s.map underscored) rest := by
  have hsplit : Holds buffer ([] ++ s) rest := h
  exact replace_holds hsplit

/-- Without a terminator already the first `strlen` leaves the buffer. -/
theorem replace_fault (h : 0 ∉ buffer.toList) :
    replaceColons buffer i = .error (.read n) := by
  rw [replaceColons, strlen_fault h]
  rfl

/-! The local buffer -/

/-- What `strncpy` leaves alone. -/
theorem last_byte (str : DeviceAddressStr) : str.toList.drop 20 = [str[20]] := by
  have hlen : str.toList.length = 21 := Vector.length_toList
  rw [List.drop_eq_getElem_cons (by omega), List.drop_of_length_le (by omega),
    Vector.getElem_toList]

theorem terminated_copy (h : Terminated str macAddress) :
    ∃ copied rest, strncpy str macAddress.bytes 20 = .ok copied ∧
      Holds copied (macAddress.bytes.take 20) rest := by
  by_cases hlen : macAddress.bytes.length < 20
  · rw [List.take_of_length_le (Nat.le_of_lt hlen)]
    exact strncpy_short macAddress.nul_free hlen (by omega)
  · obtain ⟨copied, hcopy, hbytes⟩ := strncpy_long (b := str) (Nat.le_of_not_lt hlen) (by omega)
    rw [last_byte, h.resolve_left hlen] at hbytes
    exact ⟨copied, [], hcopy, hbytes, fun hzero => macAddress.nul_free (List.mem_of_mem_take hzero)⟩

theorem unterminated_copy (h : ¬Terminated str macAddress) :
    ∃ copied, strncpy str macAddress.bytes 20 = .ok copied ∧ 0 ∉ copied.toList := by
  rw [Terminated, not_or] at h
  obtain ⟨copied, hcopy, hbytes⟩ := strncpy_long (b := str) (Nat.le_of_not_lt h.1) (by omega)
  refine ⟨copied, hcopy, ?_⟩
  rw [hbytes, last_byte, List.mem_append, List.mem_singleton, not_or]
  exact ⟨fun hzero => macAddress.nul_free (List.mem_of_mem_take hzero), Ne.symm h.2⟩

theorem address_made (h : Terminated str macAddress) :
    ∃ made, deviceAddressStr str macAddress = .ok made ∧
      string made = .ok ((macAddress.bytes.take 20).map underscored) := by
  obtain ⟨copied, rest, hcopy, hholds⟩ := terminated_copy h
  obtain ⟨replaced, hloop, hreplaced⟩ := replace_string hholds
  have hlen : ((macAddress.bytes.take 20).map underscored).length ≤ 20 := by
    rw [List.length_map]
    exact List.length_take_le _ _
  obtain ⟨made, rest', hwrite, hmade⟩ := write_zero hreplaced hlen (by omega)
  refine ⟨made, ?_, string_holds hmade⟩
  rw [deviceAddressStr, hcopy]
  refine Eq.trans ?_ hwrite
  exact congrArg (· >>= fun str => write str 20 0) hloop

theorem address_fault (h : ¬Terminated str macAddress) :
    deviceAddressStr str macAddress = .error (.read 21) := by
  obtain ⟨copied, hcopy, hfree⟩ := unterminated_copy h
  rw [deviceAddressStr, hcopy]
  exact congrArg (· >>= fun str => write str 20 0) (replace_fault (i := 0) hfree)

/-! The two functions -/

theorem withAdapter_made (h : Terminated str macAddress) :
    getDevicePathFromMacWithAdapter str adapter macAddress objectPathLen =
      .ok (snprintf objectPathLen (devicePath adapter.objectPath.bytes macAddress)) := by
  obtain ⟨made, haddress, hstring⟩ := address_made h
  rw [getDevicePathFromMacWithAdapter, haddress]
  exact congrArg (· >>= fun address => pure (snprintf objectPathLen
    (adapter.objectPath.bytes ++ slashDev ++ address))) hstring

theorem byName_made (h : Terminated str macAddress) :
    getDevicePathFromMac str adapterName macAddress objectPathLen = .ok (snprintf objectPathLen
      (devicePath (orgBluez ++ (nameOf adapterName).bytes) macAddress)) := by
  obtain ⟨made, haddress, hstring⟩ := address_made h
  rw [getDevicePathFromMac, haddress]
  exact congrArg (· >>= fun address => pure (snprintf objectPathLen
    (orgBluez ++ (nameOf adapterName).bytes ++ slashDev ++ address))) hstring

theorem withAdapter_fault (h : ¬Terminated str macAddress) :
    getDevicePathFromMacWithAdapter str adapter macAddress objectPathLen = .error (.read 21) := by
  rw [getDevicePathFromMacWithAdapter, address_fault h]
  rfl

theorem byName_fault (h : ¬Terminated str macAddress) :
    getDevicePathFromMac str adapterName macAddress objectPathLen = .error (.read 21) := by
  rw [getDevicePathFromMac, address_fault h]
  rfl

/-- The path with which the callers go on, who have a buffer of 200 bytes for it. -/
theorem byName_abstract (h : Terminated str macAddress) :
    getDevicePathFromMac str adapterName macAddress gattlibDbusObjectPathSizeMax =
      .ok (DevicePaths.getDevicePathFromMac adapterName macAddress).bytes := by
  rw [byName_made h]
  rfl

/-- The addresses that devices have are short enough. -/
theorem mac_terminated (h : IsMac macAddress) : Terminated str macAddress := by
  left
  rw [h.1]
  decide

theorem mac_path (h : IsMac macAddress) :
    getDevicePathFromMac str adapterName macAddress gattlibDbusObjectPathSizeMax =
      .ok (DevicePaths.getDevicePathFromMac adapterName macAddress).bytes :=
  byName_abstract (mac_terminated h)

theorem constructs_snprintf (path : List UInt8) :
    Constructs (.ok (snprintf objectPathLen path)) path objectPathLen :=
  ⟨_, rfl, fun hfits => List.take_of_length_le (by omega)⟩

theorem not_constructs {fault : Fault} {path : List UInt8} :
    ¬Constructs (.error fault) path objectPathLen := by
  rintro ⟨left, hleft, _⟩
  cases hleft

end

/-- The functions do what they are there for exactly when `strncpy` is followed by a zero. -/
theorem constructed_iff (adapter : OrgBluezAdapter1) (adapterName : Option CString)
    (macAddress : CString) (str str' : DeviceAddressStr) (objectPathLen : ℕ) :
    Right adapter adapterName macAddress str str' objectPathLen ↔
      Terminated str macAddress ∧ Terminated str' macAddress := by
  constructor
  · intro h
    constructor
    · by_contra hnot
      have hmade := h.withAdapter
      rw [withAdapter_fault hnot] at hmade
      exact not_constructs hmade
    · by_contra hnot
      have hmade := h.byName
      rw [byName_fault hnot] at hmade
      exact not_constructs hmade
  · rintro ⟨hstr, hstr'⟩
    constructor
    · rw [withAdapter_made hstr]
      exact constructs_snprintf _
    · rw [byName_made hstr']
      exact constructs_snprintf _
    · intro hpath
      rw [withAdapter_made hstr, byName_made hstr', hpath]

def hci0Adapter : OrgBluezAdapter1 := ⟨⟨chars "/org/bluez/hci0", by decide⟩⟩

/-- An address of 20 characters. -/
def overlong : CString := ⟨chars "DA:94:40:95:E0:87:00", by decide⟩

/-- A local buffer with bytes of earlier calls. -/
def leftover : DeviceAddressStr := Vector.replicate 21 255

/-- `strlen` runs out of the buffer. -/
theorem overlong_read :
    getDevicePathFromMac leftover none overlong gattlibDbusObjectPathSizeMax =
      .error (.read 21) ∧
    ¬Right hci0Adapter none overlong leftover leftover gattlibDbusObjectPathSizeMax := by
  have hnot : ¬Terminated leftover overlong := by
    unfold Terminated
    decide
  refine ⟨byName_fault hnot, fun h => ?_⟩
  have hmade := h.byName
  rw [byName_fault hnot] at hmade
  exact not_constructs hmade

end Gattlib.PathConstruction
