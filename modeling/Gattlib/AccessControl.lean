import Gattlib.LongWrites
import Gattlib.ServerRuns

namespace Gattlib.AccessControl

open AttPdus GattDatabase GattServer AttributeUpdates LongReads LongWrites ServerRuns DatabaseLayout
open Library.Transition

section

variable {level : ℤ} {a : GattDbAttribute} {perm mask bit authen encrypt : BitVec 32}

end

end Gattlib.AccessControl
