/-
**Programs that wait for nothing but time to go by, many at a time.**

A clock counts milliseconds and moves only while everyone waits. A strand goes on until it sleeps, and goes on
again when its alarm is due. A bundle carries strands on together, so many at a time: when one ends, the next
begins. Among strands that can go on, the one that could first goes first.

* `Strand.advance`: a strand up to its next sleep;
* `Bundle.resume`: a bundle up to the point where all its strands sleep.
-/

import StreamWatch.Program

namespace StreamWatch.Rehearsal

/-- What a strand asks. -/
inductive Pause where
  | sleep (length : Duration)
  /-- the nanoseconds since the clock was started -/
  | clock

/-- The answer to what a strand asks. -/
abbrev Pause.Reply : Pause → Type
  | sleep _ => Unit
  | clock => Nat

/-- A program that waits for nothing but time to go by. It holds nothing and watches nothing. -/
abbrev Strand (σ ρ : Type) := Program σ Pause Pause.Reply ρ

/-- The nanoseconds of a millisecond. -/
def nanosPerMilli : Nat := 1000000

/-- The milliseconds of a length of time, a part of one counting as a whole one. -/
def millis (length : Duration) : Nat := (length.toNanos + (nanosPerMilli - 1)) / nanosPerMilli

/-- A point in time at which someone goes on. Alarms are numbered in the order in which they were set. -/
structure Alarm where
  due : Nat
  number : Nat
deriving DecidableEq, Inhabited, Repr

/-- What everyone shares: a state, the clock, and how many alarms were set. -/
structure Floor (σ : Type) where
  state : σ
  now : Nat := 0
  alarms : Nat := 0

namespace Floor

variable {σ : Type}

/-- The floor with the state changed. -/
def change (f : σ → σ) (floor : Floor σ) : Floor σ := { floor with state := f floor.state }

/-- The nanoseconds since the clock was started. -/
def clock (floor : Floor σ) : Nat := floor.now * nanosPerMilli

/-- An alarm at a point in time, and the floor with it counted. -/
def setAlarm (due : Nat) (floor : Floor σ) : Alarm × Floor σ :=
  (⟨due, floor.alarms⟩, { floor with alarms := floor.alarms + 1 })

end Floor

variable {σ ρ : Type}

/-- Where a strand stands when it goes no further. -/
inductive Halt (σ ρ : Type) where
  | ended (result : ρ)
  | asleep (millis : Nat) (next : Strand σ ρ)
  | broken

/-- A strand up to its next sleep. A sleep of no length is none. -/
def Strand.advance : Strand σ ρ → Floor σ → Halt σ ρ × Floor σ
  | .done result, floor => (.ended result, floor)
  | .act change next, floor => advance (next floor.state) (floor.change change)
  | .ask .clock next, floor => advance (next floor.clock) floor
  | .ask (.sleep length) next, floor =>
    if millis length = 0 then advance (next ()) floor else (.asleep (millis length) (next ()), floor)
  | .hold _ next, floor => advance next floor
  | .letGo next, floor => advance next floor
  | .watch _ _ next, floor => advance next floor
  | .unwatch next, floor => advance next floor
  | .breakOff, floor => (.broken, floor)

/-- Strands that are carried on together. -/
structure Bundle (σ ρ : Type) where
  /-- how many go on at a time -/
  limit : Nat
  /-- those that have not begun -/
  waiting : List (Strand σ ρ)
  /-- those that can go on, the first first -/
  ready : List (Strand σ ρ) := []
  asleep : List (Alarm × Strand σ ρ) := []
  /-- the results of those that have ended, in the order of their ends -/
  results : List ρ := []

namespace Bundle

/-- Lets as many strands begin as there is room for. -/
def fill (bundle : Bundle σ ρ) : Bundle σ ρ :=
  let room := bundle.limit - (bundle.ready.length + bundle.asleep.length)
  { bundle with
    waiting := bundle.waiting.drop room
    ready := bundle.ready ++ bundle.waiting.take room }

/-- Whether every strand has ended. -/
def isOver (bundle : Bundle σ ρ) : Bool :=
  bundle.waiting.isEmpty && bundle.ready.isEmpty && bundle.asleep.isEmpty

/-- Wakes the strands whose alarms are due. -/
def wake (now : Nat) (bundle : Bundle σ ρ) : Bundle σ ρ :=
  let (due, asleep) := bundle.asleep.partition fun (alarm, _) => alarm.due ≤ now
  { bundle with ready := bundle.ready ++ due.map (·.2), asleep }

/-- Carries on strands until all of them sleep, so many turns at most. Nothing is left of a bundle of which a
strand broke off. -/
def carryOn : (turns : Nat) → Bundle σ ρ → Floor σ → Option (Bundle σ ρ) × Floor σ
  | 0, bundle, floor => (some bundle, floor)
  | turns + 1, bundle, floor =>
    let bundle := bundle.fill
    match bundle.ready with
    | [] => (some bundle, floor)
    | strand :: ready =>
      let bundle := { bundle with ready }
      match Strand.advance strand floor with
      | (.ended result, floor) =>
        carryOn turns { bundle with results := bundle.results ++ [result] } floor
      | (.asleep millis next, floor) =>
        let (alarm, floor) := floor.setAlarm (floor.now + millis)
        carryOn turns { bundle with asleep := bundle.asleep ++ [(alarm, next)] } floor
      | (.broken, floor) => (none, floor)

/-- The bundle after its strands went on as far as they can. Each strand has one turn at most. -/
def resume (bundle : Bundle σ ρ) (floor : Floor σ) : Option (Bundle σ ρ) × Floor σ :=
  let bundle := bundle.wake floor.now
  carryOn (bundle.waiting.length + bundle.ready.length) bundle floor

end Bundle
end StreamWatch.Rehearsal
