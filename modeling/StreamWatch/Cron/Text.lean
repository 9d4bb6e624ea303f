/-
**Cron expressions as people write them.**

A text of five words is an expression without its first field; the second is then zero.
-/

import StreamWatch.Cron.Schedule
import StreamWatch.Text.Blank

namespace StreamWatch.Cron

open StreamWatch.Text

/-- A text is no cron expression. -/
structure CronError where
  text : String
deriving DecidableEq, Repr

/-- What is wrong, in words. -/
def CronError.message (error : CronError) : String :=
  let text := error.text
  s!"Invalid cron expression '{text}'"

/-- The text with a field for the second. -/
def normalize (text : String) : String :=
  let words := trim text.toList
  if wordCount words = 5 then "0 " ++ String.ofList words else String.ofList words

/-- The schedule a text stands for as it is. -/
def schedule? (text : String) : Option Schedule :=
  (Expression.parse? text.toList).bind (·.schedule?)

/-- The schedule a text stands for, which may leave the second out. -/
def parse (text : String) : Except CronError Schedule :=
  match schedule? (normalize text) with
  | some schedule => .ok schedule
  | none => .error ⟨text⟩

/-- The first point in time after another that a text schedules. -/
def nextAfter (text : String) (after : Instant) : Except CronError (Option Instant) :=
  (parse text).map (·.next? after)

end StreamWatch.Cron
