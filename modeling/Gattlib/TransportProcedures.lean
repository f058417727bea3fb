import Gattlib.AttDialogues
import Gattlib.LongReads
import Gattlib.PrimaryDiscovery

namespace Gattlib.TransportProcedures

open AttPdus AttTransport AttDialogues GattDatabase GattServer GattDiscovery GattValues DatabaseLayout
open PrimaryDiscovery (primaryServices primaryRequest Reports search_ends found_reported batteryServer)
open LongReads (Readable storedValue valueRead read_ends longServer longLevel)
open Library.Dialogue Library.Transition

section

variable {server : BtGattServer} {mtu size : ℕ} {pdu rsp : List UInt8} {q : List GattDbService} {handle : BitVec 16}
  {a : GattDbAttribute}

def readBegun : World ReadLongData BtGattServer :=
  ⟨(btAttSend (btAttNew ReadLongData true true 23) (encReadReq 3) true true (some ⟨3, none, 0⟩)).1, longServer, none⟩

def readDone : World ReadLongData BtGattServer :=
  (exec (worldStep (readCharCb 23) (serve fun _ => 0)) readBegun
    [.writable, .answered ⟨1, true⟩, .writable, .writable, .answered ⟨1, true⟩]).getD readBegun

end

end Gattlib.TransportProcedures
