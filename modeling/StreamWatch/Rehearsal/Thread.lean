/-
**Threads: programs that wait, launch others and carry bundles on.**

A thread goes on until it has to wait. What it holds is let go when it ends or breaks off. While it watches, an
action is carried out beside it: at its first wait, and then after every period.

* `Thread.turn`: a thread up to its next wait, with the action beside it.
-/

import StreamWatch.Rehearsal.Strand

namespace StreamWatch.Rehearsal

/-- What a thread asks. -/
inductive Wait (σ Job ρ : Type) where
  /-- to wait until something holds of the state, or no longer than so long; the answer tells whether it held -/
  | condition (isOver : σ → Bool) (limit : Option Duration)
  /-- the nanoseconds since the clock was started -/
  | clock
  /-- the results of strands carried on together, so many at a time -/
  | together (limit : Nat) (strands : List (Strand σ ρ))
  /-- a job to be done by a thread of its own -/
  | launch (job : Job)

/-- The answer to what a thread asks. -/
abbrev Wait.Reply {σ Job ρ : Type} : Wait σ Job ρ → Type
  | condition .. => Bool
  | clock => Nat
  | together .. => List ρ
  | launch _ => Unit

/-- A program that waits, launches others and carries bundles on. -/
abbrev Play (σ Job ρ α : Type) := Program σ (Wait σ Job ρ) Wait.Reply α

/-- An action that is carried out beside a thread. -/
structure Watch (σ : Type) where
  period : Nat
  action : σ → σ
  due : Nat
  alarm : Option Alarm := none

/-- What a thread has beside its program. -/
structure Belongings (σ : Type) where
  /-- what to do when it ends, the latest first -/
  held : List (σ → σ) := []
  watch : Option (Watch σ) := none

/-- What a thread waits for. -/
inductive Stand (σ Job ρ α : Type) where
  /-- for its first turn -/
  | fresh (play : Play σ Job ρ α)
  | waiting (isOver : σ → Bool) (alarm : Option Alarm) (next : Bool → Play σ Job ρ α)
  | together (bundle : Bundle σ ρ) (next : List ρ → Play σ Job ρ α)

/-- A thread between two turns. -/
structure Thread (σ Job ρ α : Type) where
  stand : Stand σ Job ρ α
  belongings : Belongings σ := {}

/-- What a turn of a thread leads to. -/
inductive Outcome (σ Job ρ α : Type) where
  | ended (result : α)
  | broken
  | waits (thread : Thread σ Job ρ α)

/-- What a thread finds and leaves behind in a turn: what everyone shares, and the jobs launched in the turn. -/
structure Scene (σ Job : Type) extends Floor σ where
  launched : List Job := []

variable {σ Job ρ α : Type}

namespace Scene

/-- The scene with another floor. -/
def onFloor (scene : Scene σ Job) (floor : Floor σ) : Scene σ Job := { floor with launched := scene.launched }

/-- The scene with the state changed. -/
def change (f : σ → σ) (scene : Scene σ Job) : Scene σ Job := scene.onFloor (scene.toFloor.change f)

/-- The scene with all that was held let go. -/
def letGo (held : List (σ → σ)) (scene : Scene σ Job) : Scene σ Job :=
  held.foldl (fun scene release => scene.change release) scene

end Scene

/-- Waits for a bundle that is not over. -/
def Bundle.stand (bundle : Bundle σ ρ) (next : List ρ → Play σ Job ρ α) (belongings : Belongings σ) :
    Outcome σ Job ρ α := .waits ⟨.together bundle next, belongings⟩

/-- A program up to its next wait. -/
def Play.advance : Play σ Job ρ α → Belongings σ → Scene σ Job → Outcome σ Job ρ α × Scene σ Job
  | .done result, own, scene => (.ended result, scene.letGo own.held)
  | .act change next, own, scene => advance (next scene.state) own (scene.change change)
  | .ask .clock next, own, scene => advance (next scene.clock) own scene
  | .ask (.launch job) next, own, scene =>
    advance (next ()) own { scene with launched := scene.launched ++ [job] }
  | .ask (.condition isOver limit) next, own, scene =>
    if isOver scene.state then advance (next true) own scene
    else
      match limit with
      | none => (.waits ⟨.waiting isOver none next, own⟩, scene)
      | some length =>
        if millis length = 0 then advance (next false) own scene
        else
          let (alarm, floor) := scene.toFloor.setAlarm (scene.now + millis length)
          (.waits ⟨.waiting isOver (some alarm) next, own⟩, scene.onFloor floor)
  | .ask (.together limit strands) next, own, scene =>
    match Bundle.resume { limit, waiting := strands } scene.toFloor with
    | (none, floor) => (.broken, (scene.onFloor floor).letGo own.held)
    | (some bundle, floor) =>
      if bundle.isOver then advance (next bundle.results) own (scene.onFloor floor)
      else (bundle.stand next own, scene.onFloor floor)
  | .hold release next, own, scene => advance next { own with held := release :: own.held } scene
  | .letGo next, own, scene =>
    advance next { own with held := own.held.drop 1 } (scene.letGo (own.held.take 1))
  | .watch period action next, own, scene =>
    advance next { own with watch := some { period := millis period, action, due := scene.now } } scene
  | .unwatch next, own, scene => advance next { own with watch := none } scene
  | .breakOff, own, scene => (.broken, scene.letGo own.held)

namespace Thread

/-- A thread up to its next wait. -/
def resume (thread : Thread σ Job ρ α) (scene : Scene σ Job) : Outcome σ Job ρ α × Scene σ Job :=
  let own := thread.belongings
  match thread.stand with
  | .fresh play => Play.advance play own scene
  | .waiting isOver alarm next =>
    if isOver scene.state then Play.advance (next true) own scene
    else if alarm.any (·.due ≤ scene.now) then Play.advance (next false) own scene
    else (.waits thread, scene)
  | .together bundle next =>
    match bundle.resume scene.toFloor with
    | (none, floor) => (.broken, (scene.onFloor floor).letGo own.held)
    | (some bundle, floor) =>
      if bundle.isOver then Play.advance (next bundle.results) own (scene.onFloor floor)
      else (bundle.stand next own, scene.onFloor floor)

/-- The thread with the alarm set for the next action beside it. -/
def setWatchAlarm (thread : Thread σ Job ρ α) (scene : Scene σ Job) : Thread σ Job ρ α × Scene σ Job :=
  match thread.belongings.watch with
  | some { period, action, due, alarm := none } =>
    let (alarm, floor) := scene.toFloor.setAlarm due
    ({ thread with belongings := { thread.belongings with
        watch := some { period, action, due, alarm := some alarm } } },
     scene.onFloor floor)
  | _ => (thread, scene)

/-- A waiting thread after the action beside it, if that is due. -/
def act (thread : Thread σ Job ρ α) (scene : Scene σ Job) : Option (Thread σ Job ρ α × Scene σ Job) :=
  match thread.belongings.watch with
  | some watch =>
    if watch.due ≤ scene.now then
      some ({ thread with belongings := { thread.belongings with
          watch := some { watch with due := watch.due + watch.period, alarm := none } } },
        scene.change watch.action)
    else none
  | none => none

/-- A thread up to its next wait, with the action beside it. After that action it is looked at once more. -/
def turn (thread : Thread σ Job ρ α) (scene : Scene σ Job) : Outcome σ Job ρ α × Scene σ Job :=
  let settle : Outcome σ Job ρ α × Scene σ Job → Outcome σ Job ρ α × Scene σ Job
    | (.waits thread, scene) => let (thread, scene) := thread.setWatchAlarm scene; (.waits thread, scene)
    | other => other
  match thread.resume scene with
  | (.waits thread, scene) =>
    match thread.act scene with
    | some (thread, scene) => settle (thread.resume scene)
    | none => settle (.waits thread, scene)
  | other => other

/-- The alarms on which the thread goes on. -/
def alarms (thread : Thread σ Job ρ α) : List Alarm :=
  (thread.belongings.watch.bind (·.alarm)).toList ++
    match thread.stand with
    | .fresh _ => []
    | .waiting _ alarm _ => alarm.toList
    | .together bundle _ => bundle.asleep.map (·.1)

/-- Whether the thread waits for something that holds. -/
def canGoOn (thread : Thread σ Job ρ α) (state : σ) : Bool :=
  match thread.stand with
  | .waiting isOver _ _ => isOver state
  | _ => false

end Thread
end StreamWatch.Rehearsal
