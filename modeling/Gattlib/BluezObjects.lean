import Gattlib.Strings

namespace Gattlib.BluezObjects

open Gattlib.Strings

/-- What a proxy of `org.bluez.GattService1` reads. A device that is not set is `none`. -/
structure GattService1 where
  device : Option CString
  primary : Bool
  uuid : CString
  deriving DecidableEq

/-- What a proxy of `org.bluez.GattCharacteristic1` reads: its UUID, if it is set, and the
device of the service it belongs to, if the proxy of that service can be opened. -/
structure GattCharacteristic1 where
  uuid : Option CString
  device : Option CString
  deriving DecidableEq

/-- An interface of an object: the object has it or not, and its proxy can be opened or not. -/
inductive Interface (α : Type)
  | absent
  | closed
  | opened (proxy : α)
  deriving DecidableEq

/-- `g_dbus_object_manager_get_interface` -/
def hasInterface {α : Type} : Interface α → Bool
  | .absent => false
  | .closed | .opened _ => true

def proxyOf {α : Type} : Interface α → Option α
  | .absent | .closed => none
  | .opened proxy => some proxy

/-- A `GDBusObject` of BlueZ, with the interfaces the library looks for. -/
structure BluezObject where
  path : CString
  gattService1 : Interface GattService1
  gattCharacteristic1 : Interface GattCharacteristic1
  battery1 : Interface Unit
  deriving DecidableEq

/-- The members of a connection's backend that the GATT functions read. -/
structure GattBackend where
  deviceObjectPath : CString
  dbusObjects : List BluezObject

end Gattlib.BluezObjects
