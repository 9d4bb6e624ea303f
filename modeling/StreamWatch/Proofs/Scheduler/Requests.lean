/-
**What the scheduler makes of a request.**

A request is refused or answered with the scheduler after it. Each kind of request has one statement
of what it does when it is not refused, and nothing else is used of it afterwards.

* `start_eq_ok_iff`, `eq_of_register`, `eq_of_setTiming`, `eq_of_setEnabled`, `takeResult_eq_ok`:
  when a request is not refused, and what is kept then;
* `start_of_running`, `checkRunning_of_not_running`: the two refusals that keep executions of a task
  apart;
* `Quiet`: most requests neither start nor end an execution, nor change the result that an execution
  left behind.
-/

import StreamWatch.Scheduler.Table

namespace StreamWatch.Scheduler

variable {scheduler after : Scheduler} {id : String}

/-! ### Looking at entries -/

/-- The state of a task, if it is registered. -/
def stateOf (scheduler : Scheduler) (id : String) : Option TaskState :=
  (scheduler.entries.get? id).map (·.state)

theorem stateOf_eq_some_iff {state : TaskState} :
    scheduler.stateOf id = some state ↔
      ∃ entry, scheduler.entries.get? id = some entry ∧ entry.state = state :=
  Option.map_eq_some_iff

theorem stateOf_of_entry {entry : Entry} (found : scheduler.entries.get? id = some entry) :
    scheduler.stateOf id = some entry.state := by
  rw [stateOf, found]
  rfl

theorem entry_eq_ok_iff {entry : Entry} :
    scheduler.entry id = .ok entry ↔ scheduler.entries.get? id = some entry := by
  unfold Scheduler.entry
  split
  · next other found =>
    rw [found]
    exact ⟨fun same => by cases same; rfl, fun same => by cases same; rfl⟩
  · next missing => rw [missing]; exact ⟨nofun, nofun⟩

theorem entry_of_found {entry : Entry} (found : scheduler.entries.get? id = some entry) :
    scheduler.entry id = .ok entry :=
  entry_eq_ok_iff.mpr found

@[simp] theorem get?_write_self (scheduler : Scheduler) (id : String) (entry : Entry) :
    (scheduler.write id entry).entries.get? id = some entry :=
  SortedMap.get?_insert_self scheduler.entries id entry

theorem get?_write_of_ne {other : String} (differ : other ≠ id) (entry : Entry) :
    (scheduler.write id entry).entries.get? other = scheduler.entries.get? other :=
  SortedMap.get?_insert_of_ne scheduler.entries differ entry

theorem stateOf_write_of_ne {other : String} (differ : other ≠ id) (entry : Entry) :
    (scheduler.write id entry).stateOf other = scheduler.stateOf other := by
  rw [stateOf, get?_write_of_ne differ, stateOf]

/-! ### Requests that are not refused -/

/-- A request that looks an entry up first goes on with the entry that is there. -/
theorem found_of_bind_eq_ok {α : Type} {next : Entry → Except SchedulingError α} {value : α}
    (granted : scheduler.entry id >>= next = .ok value) :
    ∃ entry, scheduler.entries.get? id = some entry ∧ next entry = .ok value := by
  cases looked : scheduler.entry id with
  | error error =>
    rw [looked] at granted
    exact nomatch granted
  | ok entry =>
    rw [looked] at granted
    exact ⟨entry, entry_eq_ok_iff.mp looked, granted⟩

/-- A request that checks a timing first goes on when the timing is accepted. -/
theorem next_of_checkTiming_eq_ok {α : Type} {timing : Timing}
    {next : Unit → Except SchedulingError α} {value : α}
    (granted : checkTiming id timing >>= next = .ok value) : next () = .ok value := by
  cases checked : checkTiming id timing with
  | error error =>
    rw [checked] at granted
    exact nomatch granted
  | ok _ =>
    rw [checked] at granted
    exact granted

/-- A task starts when it is registered and not running. Its entry is then the one before, but
running. -/
theorem start_eq_ok_iff {now : Instant} :
    scheduler.start now id = .ok after ↔
      ∃ entry, scheduler.entries.get? id = some entry ∧ entry.state ≠ .running ∧
        after = scheduler.write id { entry with state := .running, lastRun := some now } := by
  constructor
  · intro granted
    obtain ⟨entry, found, granted⟩ := found_of_bind_eq_ok granted
    by_cases running : entry.state = .running
    · rw [if_pos running] at granted
      exact nomatch granted
    · rw [if_neg running] at granted
      cases granted
      exact ⟨entry, found, running, rfl⟩
  · rintro ⟨entry, found, notRunning, rfl⟩
    rw [start, entry_of_found found]
    exact if_neg notRunning

/-- A task that is running is not started. -/
theorem start_of_running {now : Instant} (running : scheduler.stateOf id = some .running) :
    scheduler.start now id = .error (.alreadyRunning id) := by
  obtain ⟨entry, found, state⟩ := stateOf_eq_some_iff.mp running
  rw [start, entry_of_found found]
  exact if_pos state

/-- A registered task that is not running is not asked to stop. -/
theorem checkRunning_of_not_running {entry : Entry} (found : scheduler.entries.get? id = some entry)
    (notRunning : entry.state ≠ .running) : scheduler.checkRunning id = .error (.notRunning id) := by
  rw [checkRunning, entry_of_found found]
  exact if_neg notRunning

theorem eq_of_register {now : Instant} {timing : Timing} {isEnabled : Bool}
    (granted : scheduler.register now id timing isEnabled = .ok after) :
    scheduler.entries.get? id = none ∧
      after = scheduler.write id { timing, isEnabled, registeredAt := now } := by
  have granted := next_of_checkTiming_eq_ok granted
  by_cases known : scheduler.entries.contains id = true
  · rw [if_pos known] at granted
    exact nomatch granted
  · rw [if_neg known] at granted
    cases granted
    exact ⟨by simpa [SortedMap.contains] using known, rfl⟩

theorem eq_of_setTiming {timing : Timing} (granted : scheduler.setTiming id timing = .ok after) :
    ∃ entry, scheduler.entries.get? id = some entry ∧
      after = scheduler.write id { entry with timing } := by
  obtain ⟨entry, found, granted⟩ := found_of_bind_eq_ok (next_of_checkTiming_eq_ok granted)
  cases granted
  exact ⟨entry, found, rfl⟩

theorem eq_of_setEnabled {isEnabled : Bool} (granted : scheduler.setEnabled id isEnabled = .ok after) :
    ∃ entry, scheduler.entries.get? id = some entry ∧
      after = scheduler.write id { entry with isEnabled } := by
  obtain ⟨entry, found, granted⟩ := found_of_bind_eq_ok granted
  cases granted
  exact ⟨entry, found, rfl⟩

/-- The result of a task that has ended is taken with its task going back to where it began. Of any
other task there is no result, and nothing changes. -/
theorem takeResult_eq_ok {result : Option TaskResult}
    (granted : scheduler.takeResult id = .ok (result, after)) :
    ∃ entry, scheduler.entries.get? id = some entry ∧
      if entry.state.isFinished then
        result = entry.lastResult ∧ after = scheduler.write id { entry with state := .idle }
      else result = none ∧ after = scheduler := by
  obtain ⟨entry, found, granted⟩ := found_of_bind_eq_ok granted
  refine ⟨entry, found, ?_⟩
  by_cases ended : entry.state.isFinished = true
  · rw [if_pos ended] at granted ⊢
    cases granted
    exact ⟨rfl, rfl⟩
  · rw [if_neg ended] at granted ⊢
    cases granted
    exact ⟨rfl, rfl⟩

/-! ### Requests that start and end nothing -/

/-- **Nothing starts and nothing ends** from one scheduler to the other: no message was sent, the
same tasks are running, and a task that has ended was so before, with the same result. -/
structure Quiet (before after : Scheduler) : Prop where
  completions : after.completions = before.completions
  running : ∀ id, after.stateOf id = some .running ↔ before.stateOf id = some .running
  finished : ∀ id entry, after.entries.get? id = some entry → entry.state.isFinished = true →
    ∃ old, before.entries.get? id = some old ∧ old.state = entry.state ∧
      old.lastResult = entry.lastResult

theorem Quiet.refl (scheduler : Scheduler) : Quiet scheduler scheduler where
  completions := rfl
  running _ := Iff.rfl
  finished _ entry found _ := ⟨entry, found, rfl, rfl⟩

/-- Writing an entry starts and ends nothing when the entry says the same about these as what was
there before. -/
theorem quiet_write {entry : Entry}
    (running : entry.state = .running ↔ scheduler.stateOf id = some .running)
    (finished : entry.state.isFinished = true → ∃ old, scheduler.entries.get? id = some old ∧
      old.state = entry.state ∧ old.lastResult = entry.lastResult) :
    Quiet scheduler (scheduler.write id entry) where
  completions := rfl
  running other := by
    by_cases same : other = id
    · subst same
      rw [stateOf_of_entry (get?_write_self scheduler other entry), Option.some.injEq, running]
    · rw [stateOf_write_of_ne same]
  finished other written found ended := by
    by_cases same : other = id
    · subst same
      rw [get?_write_self, Option.some.injEq] at found
      subst found
      exact finished ended
    · rw [get?_write_of_ne same] at found
      exact ⟨written, found, rfl, rfl⟩

/-- A change of an entry that leaves its state and its result as they are starts and ends nothing. -/
theorem quiet_write_of_same {entry changed : Entry} (found : scheduler.entries.get? id = some entry)
    (state : changed.state = entry.state) (result : changed.lastResult = entry.lastResult) :
    Quiet scheduler (scheduler.write id changed) := by
  refine quiet_write ?_ fun _ => ⟨entry, found, state.symm, result.symm⟩
  rw [stateOf_of_entry found, Option.some.injEq, state]

theorem quiet_register {now : Instant} {timing : Timing} {isEnabled : Bool}
    (granted : scheduler.register now id timing isEnabled = .ok after) : Quiet scheduler after := by
  obtain ⟨missing, rfl⟩ := eq_of_register granted
  refine quiet_write ?_ nofun
  rw [stateOf, missing]
  exact ⟨nofun, nofun⟩

theorem quiet_setTiming {timing : Timing} (granted : scheduler.setTiming id timing = .ok after) :
    Quiet scheduler after := by
  obtain ⟨entry, found, rfl⟩ := eq_of_setTiming granted
  exact quiet_write_of_same found rfl rfl

theorem quiet_setEnabled {isEnabled : Bool} (granted : scheduler.setEnabled id isEnabled = .ok after) :
    Quiet scheduler after := by
  obtain ⟨entry, found, rfl⟩ := eq_of_setEnabled granted
  exact quiet_write_of_same found rfl rfl

theorem quiet_takeResult {result : Option TaskResult}
    (granted : scheduler.takeResult id = .ok (result, after)) :
    Quiet scheduler after := by
  obtain ⟨entry, found, kept⟩ := takeResult_eq_ok granted
  by_cases ended : entry.state.isFinished = true
  · rw [if_pos ended] at kept
    rw [kept.2]
    refine quiet_write ?_ nofun
    rw [stateOf_of_entry found, Option.some.injEq]
    refine ⟨nofun, fun running => ?_⟩
    rw [running] at ended
    exact nomatch ended
  · rw [if_neg ended] at kept
    rw [kept.2]
    exact .refl scheduler

/-! ### The end of an execution -/

theorem get?_finish_self {entry : Entry} (result : TaskResult)
    (found : scheduler.entries.get? result.taskId = some entry) :
    (scheduler.finish result).entries.get? result.taskId =
      some { entry with state := result.finalState, lastResult := some result } := by
  rw [finish, SortedMap.get?_modify, found, Option.map_some, if_pos rfl]

theorem get?_finish_of_ne (result : TaskResult) (differ : id ≠ result.taskId) :
    (scheduler.finish result).entries.get? id = scheduler.entries.get? id := by
  simp only [finish, SortedMap.get?_modify, if_neg differ, Option.map_id']

end StreamWatch.Scheduler
