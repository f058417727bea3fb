import Gattlib.AttributeUpdates
import Gattlib.DatabaseLayout

namespace Gattlib.ServerRuns

open AttPdus GattDatabase GattServer AttributeUpdates
open Library.Buffers Library.Transition

/-- A client sends a request, or the security level of the link changes. -/
inductive ServerEvent
  | request (p : Pdu)
  | secured (level : ℤ)

/-- What a request that is served does to the database and to the queue. -/
inductive Effect (junk : ℕ → UInt8) (server server' : BtGattServer) : Prop
  | nothing (hdb : server'.db = server.db)
      (hqueue : server'.prepQueue = server.prepQueue ∨ server'.prepQueue = [])
  | stored (handle : BitVec 16) (a : GattDbAttribute) (data : List UInt8)
      (hfound : gattDbGetAttribute server.db handle = some a)
      (hallowed : checkPermissions server.security a writeMask = 0)
      (hdb : server'.db = storeAt junk server.db handle 0 data)
      (hqueue : server'.prepQueue = server.prepQueue)
  | prepared (handle offset : BitVec 16) (a : GattDbAttribute) (data : List UInt8)
      (hfound : gattDbGetAttribute server.db handle = some a)
      (hallowed : checkPermissions server.security a writeMask = 0)
      (hdb : server'.db = server.db) (hplace : server.prepQueue.length < server.maxPrepQueueLen)
      (hqueue : (storePrepData server handle offset data).map Prod.fst = .ok server'.prepQueue)
  | executed (answer : Answer) (hexec : execNextPrepWrite junk 0 server.db server.prepQueue =
      (server'.db, server'.prepQueue, answer))

section

variable {junk : ℕ → UInt8} {server server' : BtGattServer} {p : Pdu} {answer : Answer}
  {handle offset : BitVec 16} {payload : List UInt8} {opcode : UInt8}

end

end Gattlib.ServerRuns
