/-
**What is asked of the remote.**

Every kind of remote answers the same calls. Listings of channels and streams come in pages, numbered from
one; those of accounts and guide sources come as a whole.

* `RemoteCall.Reply`: what a call is answered with;
* `RemoteCall.isNumbered`: whether there is a number for the page a call asks for.
-/

import StreamWatch.Number.Width
import StreamWatch.Remote.Error
import StreamWatch.Remote.Resource

namespace StreamWatch

/-- A call to the remote. -/
inductive RemoteCall where
  | channels (page : Nat) (size : UInt32)
  | updateChannel (id : Int) (update : ChannelUpdate)
  | streams (page : Nat) (size : UInt32)
  | streamsByIds (ids : List Int)
  | guideSources
  | guideSource (id : Int)
  /-- asks for a guide source to be refreshed, which goes on after the answer -/
  | refreshGuideSource (id : Int)
  | accounts
  | refreshAccount (id : Int)
deriving DecidableEq, Repr

namespace RemoteCall

/-- What the remote answers a call with. -/
abbrev Answer : RemoteCall → Type
  | channels .. => Page Channel
  | updateChannel .. => Unit
  | streams .. => Page Stream
  | streamsByIds _ => List Stream
  | guideSources => List GuideSource
  | guideSource _ => GuideSource
  | refreshGuideSource _ => Unit
  | accounts => List Account
  | refreshAccount _ => Unit

/-- An answer or a reason why there is none. -/
abbrev Reply (call : RemoteCall) : Type := Except RemoteError call.Answer

/-- Whether a call can be made at all. Pages are numbered by 32 bits; whoever counts beyond asks for a page that has
no number, and gets no answer. -/
def isNumbered : RemoteCall → Bool
  | channels page _ | streams page _ => page < Number.halfBound
  | _ => true

end RemoteCall
end StreamWatch
