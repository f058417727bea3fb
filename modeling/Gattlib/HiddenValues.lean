import Gattlib.AccessControl
import Gattlib.AttributeMaps

namespace Gattlib.HiddenValues

open Uuids (BtUuid)
open AttPdus GattDatabase GattServer ServerRuns AccessControl AttributeMaps DatabaseLayout
open Library.Buffers

section

variable {handle : BitVec 16} {levels : ℤ → Prop} {db : GattDb} {server : BtGattServer} {a : GattDbAttribute}
  {s : GattDbService} {start end_ : BitVec 16} {junk : ℕ → UInt8} {payload : List UInt8}

theorem filterMap_map (g : GattDbAttribute → GattDbAttribute) (as : List (Option GattDbAttribute)) :
    (as.map (Option.map g)).filterMap id = (as.filterMap id).map g := by
  rw [List.filterMap_map, List.map_filterMap]
  refine List.filterMap_congr fun a _ => ?_
  cases a <;> rfl

/-- The answers to the requests of a run, up to one that has no meaning. -/
def answers (junk : ℕ → UInt8) : BtGattServer → List ServerEvent → List Answer
  | _, [] => []
  | server, .secured level :: events => answers junk { server with security := level } events
  | server, .request p :: events =>
    (handleRequest junk server p).2 ::
      match (handleRequest junk server p).2 with
      | .fault _ => []
      | _ => answers junk (handleRequest junk server p).1 events

/-- The link only gets the levels, and no request compares values. -/
def Quiet (levels : ℤ → Prop) : ServerEvent → Prop
  | .secured level => levels level
  | .request p => p.opcode ≠ attOpFindByTypeReq

end

end Gattlib.HiddenValues
