/-
**What is asked of the store of probe records.**

Every store answers the same calls. Which of them answers is a matter of where records are kept, so the
calls and the shapes of their answers are stated apart from all stores.
-/

import StreamWatch.Stats.Record
import StreamWatch.Store.Error

namespace StreamWatch

/-- A call to a store. -/
inductive StoreCall where
  | get (id : Int)
  /-- the records of some streams; streams never probed have none -/
  | getMany (ids : List Int)
  | listAll
  | listByStatus (statuses : List ProbeStatus)
  /-- the records whose run of failures has reached a threshold; zero is reached by none -/
  | listStruck (threshold : UInt32)
  | recordSuccess (id : Int) (metrics : Metrics) (isBlackScreen : Option Bool)
  | recordFailure (id : Int) (status : ProbeStatus) (error : Option String)
  /-- forgets the runs of failures of some streams -/
  | reset (ids : List Int)
deriving DecidableEq, Repr

namespace StoreCall

/-- What a store answers a call with. Lists are by ascending id. -/
abbrev Answer : StoreCall → Type
  | get _ => Option StreamStats
  | getMany _ => List StreamStats
  | listAll => List StreamStats
  | listByStatus _ => List StreamStats
  | listStruck _ => List StreamStats
  | recordSuccess .. => StreamStats
  | recordFailure .. => StreamStats
  | reset _ => Nat

/-- An answer or a reason why there is none. -/
abbrev Reply (call : StoreCall) : Type := Except StoreError call.Answer

end StoreCall
end StreamWatch
