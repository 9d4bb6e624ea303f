/-
**Records, wherever they are kept.**
-/

import StreamWatch.Store.Memory
import StreamWatch.Store.Table

namespace StreamWatch

/-- Records kept in memory or in a table. -/
inductive Records where
  | memory (memory : Memory)
  | table (table : Table)
deriving Inhabited

namespace Records

/-- What the store answers a call with, and the records afterwards. -/
def answer (now : Instant) (call : StoreCall) : Records → call.Reply × Records
  | memory records => let (reply, records) := records.answer now call; (reply, memory records)
  | table records => let (reply, records) := records.answer now call; (reply, table records)

end Records
end StreamWatch
