import Gattlib.AttributeUpdates

namespace Gattlib.AttributeMaps

open Uuids (BtUuid)
open AttPdus GattDatabase GattServer AttributeUpdates

/-- A change to attributes that only concerns their values. -/
structure Keeps (g : GattDbAttribute → GattDbAttribute) : Prop where
  handle : ∀ a, (g a).handle = a.handle
  uuid : ∀ a, (g a).uuid = a.uuid
  permissions : ∀ a, (g a).permissions = a.permissions
  readFunc : ∀ a, (g a).readFunc = a.readFunc
  writeFunc : ∀ a, (g a).writeFunc = a.writeFunc

section

variable {g : GattDbAttribute → GattDbAttribute} {hg : Keeps g} {db : GattDb} {s : GattDbService}
  {start end_ handle : BitVec 16}

end

end Gattlib.AttributeMaps
