/-
**When a task starts by itself.**

A task starts only when asked to, or every so many seconds, or once a day at a time of day in universal
time, or as a cron expression says.

* `Timing.next?`: the first start after a point in time;
* `Timing.check`: what is wrong with a timing that can never start anything.
-/

import StreamWatch.Cron.Text
import StreamWatch.Json.Decode

namespace StreamWatch

open Json

/-- When a task starts by itself. -/
inductive Timing where
  /-- never -/
  | manual
  /-- so many seconds after its last start -/
  | interval (seconds : UInt64)
  /-- once a day at an hour and a minute, as in `03:00` -/
  | daily (time : String)
  /-- as a cron expression says -/
  | cron (expression : String)
deriving DecidableEq, Inhabited, Repr

namespace Timing

/-- Why a timing can never start a task. -/
inductive Fault where
  | zeroInterval
  | badTime (time : String) (fault : ClockFault)
  | badExpression (error : Cron.CronError)
deriving DecidableEq, Repr

/-- What is wrong, in words. -/
def Fault.message : Fault → String
  | zeroInterval => "interval_seconds must be greater than zero"
  | badTime time fault =>
    let reason := fault.message
    s!"Invalid daily time '{time}' (expected HH:MM): {reason}"
  | badExpression error => error.message

/-- Accepts a timing under which a task can start. -/
def check : Timing → Except Fault Unit
  | manual => .ok ⟨⟩
  | interval seconds => if seconds = 0 then .error .zeroInterval else .ok ⟨⟩
  | daily time => ((TimeOfDay.parse time).map fun _ => ⟨⟩).mapError (.badTime time)
  | cron expression => ((Cron.parse expression).map fun _ => ⟨⟩).mapError .badExpression

/-- The next time a clock shows a time of day after a point in time. -/
def nextDaily? (timeOfDay : Nat) (base : Instant) : Option Instant :=
  let today := Instant.ofDay base.day timeOfDay
  if base < today then some today else today.addSeconds? 86400

/-- The first start after a point in time. -/
def next? (timing : Timing) (base : Instant) : Option Instant :=
  match timing with
  | manual => none
  | interval seconds => if seconds = 0 then none else base.addSeconds? seconds.toNat
  | daily time => (TimeOfDay.parse time).toOption.bind (nextDaily? · base)
  | cron expression => (Cron.nextAfter expression base).toOption.bind id

/-- Whether a task of this timing starts only when asked to. -/
def isManual : Timing → Bool
  | manual => true
  | _ => false

/-- The kind of a timing, as documents name it. -/
def kind : Timing → String
  | manual => "manual"
  | interval _ => "interval"
  | daily _ => "daily"
  | cron _ => "cron"

/-- How the rest of a timing is read when its kind is known. -/
def fieldsOf? (kind : String) : Option (Fields Timing) :=
  match kind with
  | "manual" => some (pure .manual)
  | "interval" => some (.interval <$> .required "interval_seconds" .word)
  | "daily" => some (.daily <$> .required "time" .string)
  | "cron" => some (.cron <$> .required "expression" .string)
  | _ => none

/-- The member that tells the kind of a timing. -/
def kindMember : String := "schedule_type"

/-- The fields of a kind, which has to be a known one. -/
def fieldsOfKind (kind : Json) : Except DecodeError (Fields Timing) := do
  let name ← Decoder.string kind
  match fieldsOf? name with
  | some fields => pure fields
  | none => throw (.unknownVariant name)

/-- A timing read from a document value: an object that tells the kind, or a list that begins with it. -/
def decode : Decoder Timing
  | .object members =>
    match members.lookup kindMember with
    | none => .error (.missing kindMember)
    | some kind => do (← fieldsOfKind kind).decode (.object members)
  | .list (kind :: items) => do (← fieldsOfKind kind).decode (.list items)
  | .list [] => .error (.missing kindMember)
  | _ => .error (.mistyped "an object")

/-- The members that stand for a timing, in the order of a settings file. -/
def members (timing : Timing) : List (String × Json) :=
  (kindMember, .str timing.kind) :: match timing with
  | manual => []
  | interval seconds => [("interval_seconds", .ofNat seconds.toNat)]
  | daily time => [("time", .str time)]
  | cron expression => [("expression", .str expression)]

/-- A timing as a document value. -/
def toJson (timing : Timing) : Json := .ofMembers timing.members

end Timing
end StreamWatch
