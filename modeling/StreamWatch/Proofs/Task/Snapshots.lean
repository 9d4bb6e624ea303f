/-
**Snapshots of the tasks that go through items.**

A cleanup goes through channels and a refresh through guide sources. Each of them sets the progress back first, tells
how many items there are once it knows, and counts every item it is done with.

* `TaskCell.anyone`: all that may happen to a task from outside;
* `tells_through`: going through items, each of which counts as one;
* `Cleanup.tells_run`, `GuideRefresh.tells_run`: both write the progress as they should, whatever is listed and
  whenever they are asked to stop.
-/

import StreamWatch.Proofs.Task.Rounds
import StreamWatch.Proofs.Task.Telling
import StreamWatch.Task.Cleanup

namespace StreamWatch

open Program

namespace TaskCell

/-- What others do to the cell of a task: they may ask the task to stop, and leave the progress alone. -/
def Spares (cell later : TaskCell) : Prop := later.progress = cell.progress

/-- Whatever a task asks takes its time, and is answered with anything or not at all. -/
def anyone : Outside TaskCell Ask Ask.Reply where
  Course := Unit
  begins _ _ := ⟨⟩
  goesOn _ _ cell _ later := cell.Spares later
  answers _ _ _ cell _ after := cell.Spares after

theorem honest_anyone : Honest anyone Spares progress where
  others := id
  bears {question isCounting p} consistent _ := by
    refine ⟨fun _ cell => cell.progress = p, fun same => same, ?_, fun under same => same.trans under, ?_,
      fun _ same => same⟩
    · rintro - cell rfl
      cases question with
      | probeStreams => exact ⟨consistent, .refl _⟩
      | remote | store | probe | sample | sleep | clock | wallClock => rfl
    · rintro _ _ cell later rfl same
      refine ⟨same, ?_⟩
      rw [show later.progress = cell.progress from same]
      exact .refl _

end TaskCell

/-- **A task that goes through items** has room for all of them when it has room for each, whenever it is asked to
stop. -/
theorem tells_through {ι Log : Type} {item : Log → ι → Work TaskCell Log}
    {through : Log → List ι → Work TaskCell (Bool × Log)} (goes : GoesThrough item through)
    (each : ∀ log first left (p : Progress), p.HasRoom (left + 1) → (item log first).Tells TaskCell.progress
      (fun _ isCounting p => isCounting = true ∧ p.HasRoom left) true p)
    (log : Log) (items : List ι) {p : Progress} (room : p.HasRoom items.length) :
    (through log items).Tells TaskCell.progress (fun _ isCounting p => isCounting = true ∧ p.HasRoom 0) true p := by
  induction items generalizing log p with
  | nil =>
    rw [goes.nil]
    exact ⟨rfl, room⟩
  | cons first rest ih =>
    rw [goes.cons]
    refine tells_look fun isStopped => ?_
    cases isStopped with
    | true => exact ⟨rfl, room.counted, room.isConsistent.within⟩
    | false =>
      refine tells_bind (each log first rest.length p room) ?_
      rintro log isCounting p ⟨rfl, room⟩
      exact ih log room

/-! ### Taking struck streams out of channels -/

namespace Cleanup

variable {p : Progress}

theorem tells_runChannel (struck : List Int) (log : CleanupLog) (channel : Channel) (left : Nat) (p : Progress)
    (room : p.HasRoom (left + 1)) :
    (runChannel struck log channel).Tells TaskCell.progress
      (fun _ isCounting p => isCounting = true ∧ p.HasRoom left) true p := by
  refine tells_told room (fun _ => ⟨_, _, rfl⟩) fun p room _ => tells_quiet (isQuiet_remote _) fun reply => ?_
  cases reply with
  | ok => exact tells_count rfl room (fun _ => rfl) fun p room => ⟨rfl, room⟩
  | error error => exact tells_count rfl room (fun _ => rfl) fun p room => ⟨rfl, room⟩

theorem isQuiet_resetRemoved (log : CleanupLog) : IsQuiet TaskCell.progress (resetRemoved log) := by
  unfold resetRemoved
  split
  · trivial
  · refine isQuiet_bind (isQuiet_get trivial) fun reply => ?_
    cases reply <;> trivial

theorem tells_idle (message : String) (room : p.HasRoom 0) :
    (idle message).Tells TaskCell.progress (fun _ isCounting _ => isCounting = true) true p :=
  tells_told room (fun _ => ⟨_, _, rfl⟩) fun _ _ _ => tells_look fun _ => rfl

theorem tells_runStruck (size : UInt32) (struck : List Int) (room : p.HasRoom 0) (none : p.total = 0) :
    (runStruck size struck).Tells TaskCell.progress (fun _ isCounting _ => isCounting = true) true p := by
  refine tells_told room (fun _ => ⟨_, _, rfl⟩) fun p room same => ?_
  refine tells_quiet (isQuiet_walkFrom (fun _ => isQuiet_remote _) _ _ _) fun reply => ?_
  cases reply with
  | error error => rfl
  | ok channels =>
    refine tells_total room (same.trans none) (fun _ => ⟨_, rfl⟩) fun p room => ?_
    refine tells_bind (tells_through (goesThrough struck) (tells_runChannel struck) {} _ room) ?_
    rintro ⟨isStopped, log⟩ isCounting p ⟨rfl, room⟩
    refine tells_quiet (isQuiet_resetRemoved log) fun log => ?_
    cases isStopped with
    | true => exact tells_look fun _ => rfl
    | false => exact tells_told room (fun _ => ⟨_, _, rfl⟩) fun _ _ _ => tells_look fun _ => rfl

/-- **A cleanup writes the progress as it should.** -/
theorem tells_run (settings : CleanupSettings) (size : UInt32) (p : Progress) :
    (run settings size).Tells TaskCell.progress (fun _ isCounting _ => isCounting = true) false p := by
  refine tells_reset (fun _ => rfl) fun p room none => ?_
  show Program.Tells _ _ (if settings.threshold = 0 then _ else _) true p
  split
  · exact tells_bind (tells_idle _ room) fun _ _ _ counting => counting
  · refine tells_quiet (isQuiet_get trivial) fun reply => ?_
    cases reply with
    | error error => rfl
    | ok records =>
      cases records with
      | nil => exact tells_idle _ room
      | cons record rest => exact tells_runStruck size _ room none

end Cleanup

/-! ### Refreshing guide sources -/

namespace GuideRefresh

variable {p : Progress} {settings : RefreshSettings}

theorem isQuiet_watch (source : GuideSource) (since looks : Nat) :
    IsQuiet TaskCell.progress (watch settings source since looks) := by
  induction looks with
  | zero => trivial
  | succ looks ih =>
    refine isQuiet_bind (isQuiet_get trivial) fun now => ?_
    show Program.IsQuiet _ (if _ then _ else _)
    split
    · trivial
    · refine isQuiet_bind (isQuiet_get trivial) fun _ => isQuiet_bind (isQuiet_remote _) fun reply => ?_
      cases reply with
      | error error => exact ih
      | ok current =>
        refine isQuiet_bind (isQuiet_get trivial) fun now => ?_
        cases verdict? settings source.updatedAt current (now - since) with
        | some verdict => trivial
        | none => exact ih

theorem isQuiet_refresh (source : GuideSource) : IsQuiet TaskCell.progress (refresh settings source) := by
  refine isQuiet_bind (isQuiet_remote _) fun reply => ?_
  cases reply with
  | error error => trivial
  | ok => exact isQuiet_bind (isQuiet_get trivial) fun _ => isQuiet_watch source _ _

theorem tells_runSource (log : GuideLog) (source : GuideSource) (left : Nat) (p : Progress)
    (room : p.HasRoom (left + 1)) :
    (runSource settings log source).Tells TaskCell.progress
      (fun _ isCounting p => isCounting = true ∧ p.HasRoom left) true p := by
  unfold runSource
  split
  · exact tells_count rfl room (fun _ => rfl) fun p room => ⟨rfl, room⟩
  · refine tells_told room (fun _ => ⟨_, _, rfl⟩) fun p room _ => tells_quiet (isQuiet_refresh source) fun reply => ?_
    cases reply with
    | ok verdict => exact tells_count rfl room (fun _ => rfl) fun p room => ⟨rfl, room⟩
    | error fault => exact tells_count rfl room (fun _ => rfl) fun p room => ⟨rfl, room⟩

/-- **A refresh of guide sources writes the progress as it should.** -/
theorem tells_run (settings : RefreshSettings) (p : Progress) :
    (run settings).Tells TaskCell.progress (fun _ isCounting _ => isCounting = true) false p := by
  refine tells_reset (fun _ => rfl) fun p room none => ?_
  cases settings.check with
  | error message => rfl
  | ok =>
    refine tells_quiet (isQuiet_remote _) fun reply => ?_
    cases reply with
    | error error => rfl
    | ok sources =>
      refine tells_total room none (fun _ => ⟨_, rfl⟩) fun p room => ?_
      refine tells_bind (tells_through (goesThrough settings) tells_runSource {} sources room) ?_
      rintro ⟨isStopped, log⟩ isCounting p ⟨rfl, room⟩
      cases isStopped with
      | true => exact tells_look fun _ => rfl
      | false => exact tells_told room (fun _ => ⟨_, _, rfl⟩) fun _ _ _ => tells_look fun _ => rfl

end GuideRefresh
end StreamWatch
