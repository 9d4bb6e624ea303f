/-
**Scripts read from documents.**

A script is read loosely; only times, metrics and what the remote has must be well formed.
-/

import StreamWatch.Json.Loose
import StreamWatch.Number.Decimal
import StreamWatch.Rehearsal.Script
import StreamWatch.Task.Duty

namespace StreamWatch.Rehearsal

open Json Loose

/-- Why a call to the remote fails. -/
def readRemoteError (key : String) (value : Json) : RemoteError :=
  match text? value "decode" with
  | some message => .undecodable key message
  | none => .status (nat value "status") (text value "message")

/-- How a media tool fails. -/
def readToolFault (value : Json) : ToolFault :=
  match text value "kind" with
  | "timeout" => .fails (.timeout (nat value "seconds"))
  | "exit" => .fails (.exitStatus (int? value "code") (text value "message"))
  | "spawn" => .fails (.spawn (text value "command") (text value "message"))
  | "panic" => .breaks
  | _ => .fails (.malformed (text value "message"))

/-- What stands at a name, unless a fault stands at another. -/
def orFault {α : Type} (value : Json) (name : String) (result : α) : Except ToolFault α :=
  match member value name with
  | .null => .ok result
  | fault => .error (readToolFault fault)

/-- What the media tools make of an address. -/
def readTool (value : Json) : Except DecodeError ToolScript := do
  let metrics ← match member value "metrics" with
    | .null => pure {}
    | metrics => Metrics.decode metrics
  pure
    { delay := nat value "delay_ms"
      stops := text? value "cancel"
      metrics := orFault value "error" metrics
      sampleDelay := nat value "black_delay_ms"
      isBlack := orFault value "black_error" (flag value "black") }

/-- What a look at a guide source shows. -/
def readLook (key : String) : Json → Except DecodeError Look
  | .null => pure (.ok none)
  | .object members => pure (.error (readRemoteError key (.object members)))
  | value => do return .ok (some (← Decoder.instant value))

/-- What the looks at the guide source of an id show. -/
def readLooks (id : String) (value : Json) : Except DecodeError (Int × List Look) := do
  let source := (Number.signedWord? id.toList).getD 0
  return (source, ← ((value.list?).getD []).mapM (readLook (callKey (.guideSource source))))

/-- Which calls of a kind to the store fail. -/
def readStoreFault? (method : String) : Json → Option StoreFault
  | .bool true => some ⟨method, none⟩
  | value => value.signedWord?.map fun id => ⟨method, some id⟩

/-- A script. -/
def readScript (value : Json) : Except DecodeError Script := do
  let client := member value "client"
  return {
    endlessPages := flag client "always_next"
    delays := (members client "delay_ms").filterMap fun (key, delay) => delay.word?.map (key, ·.toNat)
    stops := (members client "cancel_on").filterMap fun (key, who) => who.text?.map (key, ·)
    faults := (members client "fail").map fun (key, fault) => (key, readRemoteError key fault)
    looks := ← (members client "epg_polls").mapM fun (id, looks) => readLooks id looks
    tools := ← (members value "prober").mapM fun (url, tool) => do return (url, ← readTool tool)
    storeFaults := (members value "store_fail").filterMap fun (method, fault) =>
      readStoreFault? method fault }

/-- What the remote has. -/
def readResources (value : Json) : Except DecodeError Resources := do
  let client := member value "client"
  let listed {α : Type} (decode : Decoder α) (name : String) : Except DecodeError (List α) :=
    (items client name).mapM decode
  return ⟨← listed Channel.decode "channels", ← listed Stream.decode "streams",
    ← listed Account.decode "accounts", ← listed GuideSource.decode "epg"⟩

/-- A duty of working through a batch. -/
def readBatch (value : Json) : Duty :=
  .batch (text value "id") (.ofMillis (nat value "step_ms"))
    { items := halfWord value "items"
      failEvery := halfWord value "fail_every"
      skipEvery := halfWord value "skip_every"
      breakAt := halfWord value "panic_at"
      isBad := flag value "bad" }

end StreamWatch.Rehearsal
