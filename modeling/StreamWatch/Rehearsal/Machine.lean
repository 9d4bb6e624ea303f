/-
**Threads that take turns.**

Threads that can go on stand in a line, and the first of the line has its turn. A launched thread joins the line
at its end, and so does one when what it waits for comes to hold. When the line is empty the clock moves on to the
earliest alarm, and the threads whose alarms are due join the line in the order in which those were set.

* `Machine.step`: one turn, or one move of the clock;
* `Machine.run`: steps until the thread that was there first has ended.
-/

import StreamWatch.Rehearsal.Thread

namespace StreamWatch.Rehearsal

/-- Threads by their numbers, those that can go on in a line, and what they share. -/
structure Machine (σ Job ρ α : Type) where
  floor : Floor σ
  threads : List (Nat × Thread σ Job ρ α)
  line : List Nat
  /-- the number of the next thread -/
  next : Nat

/-- What a step leads to. -/
inductive Progression (σ Job ρ α : Type) where
  | goesOn (machine : Machine σ Job ρ α)
  | ended (result : α)
  /-- everyone waits for what never comes -/
  | stuck

namespace Machine

variable {σ Job ρ α : Type}

/-- A machine with one thread that has not begun. -/
def ofPlay (state : σ) (play : Play σ Job ρ (Option α)) : Machine σ Job ρ (Option α) :=
  ⟨{ state }, [(0, ⟨.fresh play, {}⟩)], [0], 1⟩

/-- Adds the threads of launched jobs. -/
def launch (body : Job → Play σ Job ρ α) (machine : Machine σ Job ρ α) : List Job → Machine σ Job ρ α
  | [] => machine
  | job :: rest =>
    launch body
      { machine with
        threads := machine.threads ++ [(machine.next, ⟨.fresh (body job), {}⟩)]
        line := machine.line ++ [machine.next]
        next := machine.next + 1 } rest

/-- Lets the threads join the line for which what they wait for has come to hold. -/
def notify (machine : Machine σ Job ρ α) : Machine σ Job ρ α :=
  let woken := machine.threads.filter fun (number, thread) =>
    thread.canGoOn machine.floor.state && !machine.line.contains number
  { machine with line := machine.line ++ woken.map (·.1) }

/-- The machine after a turn of a thread. -/
def afterTurn (body : Job → Play σ Job ρ α) (machine : Machine σ Job ρ α) (number : Nat) (line : List Nat)
    (left : Option (Thread σ Job ρ α)) (scene : Scene σ Job) : Machine σ Job ρ α :=
  let threads := machine.threads.filterMap fun (other, thread) =>
    if other = number then left.map (number, ·) else some (other, thread)
  (launch body { machine with floor := scene.toFloor, threads, line } scene.launched).notify

/-- The alarms of all threads, with the numbers of these. -/
def alarms (machine : Machine σ Job ρ α) : List (Alarm × Nat) :=
  machine.threads.flatMap fun (number, thread) => thread.alarms.map fun alarm => (alarm, number)

/-- The earliest point in time of some alarms. -/
def earliest? (alarms : List (Alarm × Nat)) : Option Nat := (alarms.map (·.1.due)).min?

/-- The threads whose alarms are due, in the order in which the alarms were set. -/
def wakened (now : Nat) (alarms : List (Alarm × Nat)) : List Nat :=
  let due := (alarms.filter (·.1.due ≤ now)).mergeSort fun a b => a.1.number ≤ b.1.number
  (due.map (·.2)).eraseDups

/-- One turn, or one move of the clock. -/
def step (body : Job → Play σ Job ρ (Option α)) (machine : Machine σ Job ρ (Option α)) :
    Progression σ Job ρ (Option α) :=
  match machine.line with
  | [] =>
    match earliest? machine.alarms with
    | none => .stuck
    | some now =>
      .goesOn
        { machine with
          floor := { machine.floor with now }
          line := wakened now machine.alarms }
  | number :: line =>
    match machine.threads.lookup number with
    | none => .goesOn { machine with line }
    | some thread =>
      match thread.turn { machine.floor with } with
      | (.ended (some result), _) => .ended (some result)
      | (.ended none, scene) => .goesOn (machine.afterTurn body number line none scene)
      | (.broken, scene) => .goesOn (machine.afterTurn body number line none scene)
      | (.waits thread, scene) => .goesOn (machine.afterTurn body number line (some thread) scene)

/-- The result of the first thread that ends with one, after so many steps at most. -/
def run (body : Job → Play σ Job ρ (Option α)) : (steps : Nat) → Machine σ Job ρ (Option α) → Option α
  | 0, _ => none
  | steps + 1, machine =>
    match machine.step body with
    | .goesOn machine => run body steps machine
    | .ended result => result
    | .stuck => none

end Machine
end StreamWatch.Rehearsal
