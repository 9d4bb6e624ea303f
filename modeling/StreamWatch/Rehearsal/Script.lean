/-
**What is written down for a rehearsal.**

The script says what the remote has and how long its answers take, what the media tools make of each address, which
calls fail, and during which of them someone asks for a stop.
-/

import StreamWatch.Probe.Error
import StreamWatch.Remote.Call
import StreamWatch.Store.Call

namespace StreamWatch.Rehearsal

/-- What the remote has. -/
structure Resources where
  channels : List Channel := []
  streams : List Stream := []
  accounts : List Account := []
  sources : List GuideSource := []
deriving Inhabited

/-- What a look at a guide source shows: the time of its last update, or nothing for a reason. -/
abbrev Look := Except RemoteError (Option Instant)

/-- How a media tool fails. -/
inductive ToolFault where
  | fails (error : ProbeError)
  /-- the strand that asked breaks off -/
  | breaks
deriving DecidableEq, Repr

/-- What the media tools make of an address, and after how many milliseconds. -/
structure ToolScript where
  delay : Nat := 0
  /-- who is asked to stop when the delay is over: the engine or a task -/
  stops : Option String := none
  metrics : Except ToolFault Metrics := .ok {}
  sampleDelay : Nat := 0
  isBlack : Except ToolFault Bool := .ok false
deriving Inhabited

/-- Which calls to the store fail: those about one stream, or all of a kind. -/
structure StoreFault where
  method : String
  only : Option Int
deriving DecidableEq, Inhabited, Repr

/-- What is written down for a rehearsal. Calls to the remote are known by their keys. -/
structure Script where
  /-- whether every page has a successor -/
  endlessPages : Bool := false
  /-- the milliseconds calls take -/
  delays : List (String × Nat) := []
  /-- who is asked to stop when a call's delay is over -/
  stops : List (String × String) := []
  faults : List (String × RemoteError) := []
  /-- what the looks at a guide source show, one after the other; the last one stays -/
  looks : List (Int × List Look) := []
  /-- what the media tools make of addresses -/
  tools : List (String × ToolScript) := []
  storeFaults : List StoreFault := []
deriving Inhabited

/-- A list of ids as calls are noted down. -/
def idsText (ids : List Int) : String := "[" ++ ", ".intercalate (ids.map fun id => s!"{id}") ++ "]"

/-- The key by which a call to the remote is known. -/
def callKey : RemoteCall → String
  | .channels page _ => s!"get_channels:{page}"
  | .updateChannel id _ => s!"update_channel:{id}"
  | .streams page _ => s!"get_streams:{page}"
  | .streamsByIds _ => "get_streams_by_ids"
  | .guideSources => "get_epg_sources"
  | .guideSource id => s!"get_epg_source:{id}"
  | .refreshGuideSource id => s!"refresh_epg_source:{id}"
  | .accounts => "get_m3u_accounts"
  | .refreshAccount id => s!"refresh_m3u_account:{id}"

/-- What is noted down of a call after its key. -/
def callNote : RemoteCall → String
  | .channels _ size | .streams _ size => s!" size={size.toNat}"
  | .updateChannel _ update => " " ++ idsText update.streams
  | .streamsByIds ids => " " ++ idsText ids
  | _ => ""

/-- The name of the kind of a call to the store that can fail, and the stream it is about. -/
def storeMethod? : StoreCall → Option (String × Option Int)
  | .listByStatus _ => some ("list_by_status", none)
  | .listStruck _ => some ("list_struck", none)
  | .recordSuccess id .. => some ("record_success", some id)
  | .recordFailure id .. => some ("record_failure", some id)
  | .reset _ => some ("reset_failures", none)
  | _ => none

namespace Script

/-- How a call to the store fails, if it does. -/
def storeFault? (script : Script) (call : StoreCall) : Option StoreError :=
  match storeMethod? call with
  | none => none
  | some (method, id) =>
    if script.storeFaults.any fun fault => fault.method == method && (fault.only.isNone || fault.only == id)
    then some (.notFound "stream_stats" "method" method)
    else none

/-- What the media tools make of an address. Of one that is not written down they make nothing special. -/
def tool (script : Script) (url : String) : ToolScript := (script.tools.lookup url).getD {}

/-- The look at a guide source of some number, from zero, if looks are written down. -/
def look? (script : Script) (id : Int) (number : Nat) : Option Look :=
  match script.looks.lookup id with
  | none => none
  | some looks => looks[number]? <|> looks.getLast?

end Script
end StreamWatch.Rehearsal
