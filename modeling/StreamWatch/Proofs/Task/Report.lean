/-
**What a report tells of the work.**

The counts of a report never exceed its total. They fall short of it exactly when the task was stopped, and
when it was not, it has failed exactly when items failed and none succeeded. For every item that failed, and
for every stream that was skipped, there is a line among the details.

* `Accounts`: whether a report accounts for the work;
* `Tells`, `Tells.accounts`: a report of a progress accounts for it;
* `accounts_fatal`: so does one of nothing at all;
* `tells_report`: what the report of a probe run tells.
-/

import StreamWatch.Proofs.Engine.Summary
import StreamWatch.Task.ProbeRun

namespace StreamWatch

/-- How many items were counted of each kind. -/
def Progress.tally (p : Progress) : Tally := ⟨p.succeeded, p.failed, p.skipped⟩

namespace TaskReport

open Json

/-! ### Accounting -/

/-- How many items a report counts of each kind. -/
def tally (report : TaskReport) : Tally := ⟨report.succeeded, report.failed, report.skipped⟩

/-- The number of items a report counts. -/
def processed (report : TaskReport) : Nat := report.succeeded + report.failed + report.skipped

/-- How many lines there are about single items among the details; there is no telling where these have
anything but a list of them. -/
def lineCount? (report : TaskReport) : Option Nat :=
  match report.details.lookup "errors" with
  | none => some 0
  | some (.list lines) => some lines.length
  | some _ => none

/-- What keeps an execution from its work. -/
def hindrances : List TaskFault := [.noProber, .probeAlreadyRunning, .invalidSettings, .fetchFailed]

/-- Whether a report accounts for the work, when so many lines are to tell of it. -/
structure Accounts (lines : Nat) (report : TaskReport) : Prop where
  success : report.isSuccess = true ↔ report.error = none
  hindered : ∀ fault ∈ hindrances, report.error = some fault.code → report.total = 0 ∧ report.tally = 0
  within : report.processed ≤ report.total
  stopped : report.error = some TaskFault.cancelled.code ↔ report.processed < report.total
  failed : report.error ≠ some TaskFault.cancelled.code →
    (report.error = some TaskFault.allFailed.code ↔ report.succeeded = 0 ∧ 0 < report.failed)
  lines : report.lineCount? = some lines

/-- What keeps an execution from its work is neither a request to stop nor that every item failed. -/
theorem code_of_hinders : ∀ fault ∈ hindrances,
    fault.code ≠ TaskFault.cancelled.code ∧ fault.code ≠ TaskFault.allFailed.code := by decide

/-- A report of nothing at all accounts for it. -/
theorem accounts_fatal {fault : TaskFault} (hinders : fault ∈ hindrances) (message : String) :
    Accounts 0 (.fatal fault message) where
  success := ⟨nofun, nofun⟩
  hindered _ _ _ := ⟨rfl, rfl⟩
  within := Nat.le_refl 0
  stopped :=
    iff_of_false (fun same => (code_of_hinders fault hinders).1 (Option.some.inj same)) (Nat.lt_irrefl 0)
  failed _ := by
    refine iff_of_false (fun same => ?_) fun none => Nat.lt_irrefl 0 none.2
    exact (code_of_hinders fault hinders).2 (Option.some.inj same)
  lines := rfl

/-! ### Reports of a progress -/

/-- What a report tells of a progress, of whether the task was stopped, and in so many lines of what went
wrong. -/
structure Tells (p : Progress) (isStopped : Bool) (lines : Nat) (report : TaskReport) : Prop where
  success : report.isSuccess = (!isStopped && isSuccessOf p)
  error : report.error =
    if isStopped then some TaskFault.cancelled.code
    else if isSuccessOf p then none else some TaskFault.allFailed.code
  total : report.total = p.total
  tally : report.tally = p.tally
  lines : report.lineCount? = some lines

variable {report : TaskReport} {p : Progress} {isStopped : Bool}

theorem tells_ofProgress (p : Progress) (message : String) : Tells p false 0 (ofProgress p message) :=
  ⟨rfl, rfl, rfl, rfl, rfl⟩

theorem tells_cancelled (p : Progress) (message : String) : Tells p true 0 (cancelled p message) :=
  ⟨rfl, rfl, rfl, rfl, rfl⟩

/-- A detail of another name changes nothing in what is told. -/
theorem Tells.withDetail {lines : Nat} (tells : Tells p isStopped lines report) {name : String}
    (differ : "errors" ≠ name) (value : Json) : Tells p isStopped lines (report.withDetail name value) where
  success := tells.success
  error := tells.error
  total := tells.total
  tally := tells.tally
  lines := by
    unfold lineCount? TaskReport.withDetail
    rw [lookup_putMember_of_ne differ]
    exact tells.lines

/-- The errors of single items are as many lines. -/
theorem Tells.withErrors (tells : Tells p isStopped 0 report) (errors : List String) :
    Tells p isStopped errors.length (report.withErrors errors) := by
  cases errors with
  | nil => exact tells
  | cons first rest =>
    refine ⟨tells.success, tells.error, tells.total, tells.tally, ?_⟩
    unfold lineCount? TaskReport.withErrors TaskReport.withDetail
    simp only [List.isEmpty_cons, Bool.false_eq_true, if_false, lookup_putMember_self, List.length_map]

theorem isSuccessOf_eq_false_iff : isSuccessOf p = false ↔ p.succeeded = 0 ∧ 0 < p.failed := by
  simp [isSuccessOf, Nat.pos_iff_ne_zero]

theorem Tells.stopped_iff {lines : Nat} (tells : Tells p isStopped lines report) :
    report.error = some TaskFault.cancelled.code ↔ isStopped = true := by
  rw [tells.error]
  cases isStopped with
  | true => exact iff_of_true rfl rfl
  | false =>
    refine iff_of_false (fun same => ?_) Bool.false_ne_true
    simp only [Bool.false_eq_true, if_false] at same
    split at same
    · cases same
    · exact absurd (Option.some.inj same) (by decide)

theorem Tells.isCancelled_eq {lines : Nat} (tells : Tells p isStopped lines report) :
    report.isCancelled = isStopped := by
  rw [Bool.eq_iff_iff, ← tells.stopped_iff]
  exact beq_iff_eq

theorem Tells.processed {lines : Nat} (tells : Tells p isStopped lines report) :
    report.processed = p.processed := by
  obtain ⟨succeeded, failed, skipped⟩ := Tally.mk.inj tells.tally
  rw [TaskReport.processed, succeeded, failed, skipped, Progress.processed]

/-- **A report of a progress accounts for it**, when the task was stopped exactly where something was left
to do. -/
theorem Tells.accounts {lines : Nat} (tells : Tells p isStopped lines report)
    (within : p.processed ≤ p.total) (stopped : isStopped = true ↔ p.processed < p.total) :
    Accounts lines report where
  success := by
    rw [tells.success, tells.error]
    cases isStopped <;> cases isSuccessOf p <;> simp
  hindered fault hinders same := by
    obtain ⟨stopped, failed⟩ := code_of_hinders fault hinders
    rw [tells.error] at same
    split at same
    · exact absurd (Option.some.inj same).symm stopped
    · split at same
      · cases same
      · exact absurd (Option.some.inj same).symm failed
  within := by
    rw [tells.processed, tells.total]
    exact within
  stopped := by
    rw [tells.stopped_iff, tells.processed, tells.total]
    exact stopped
  failed going := by
    obtain ⟨succeeded, failed, -⟩ := Tally.mk.inj tells.tally
    have still : isStopped = false := Bool.eq_false_iff.mpr fun is => going (tells.stopped_iff.mpr is)
    rw [succeeded, failed, ← isSuccessOf_eq_false_iff, tells.error, still]
    cases isSuccessOf p <;> simp
  lines := tells.lines

end TaskReport

namespace ProbeTask

open TaskReport

/-- What the report of a probe run tells. -/
theorem tells_report (summary : RunSummary) :
    Tells (progressOf summary) summary.isCancelled summary.errors.length (report summary) := by
  unfold report
  refine Tells.withErrors (Tells.withDetail (Tells.withDetail ?_ (by decide) _) (by decide) _) _
  cases summary.isCancelled with
  | true => exact tells_cancelled _ _
  | false => exact tells_ofProgress _ _

/-- **The report of a probe run accounts for it**, when every stream has an outcome and none is left alone
unless the run was asked to stop. -/
theorem accounts_report {outcomes : List (Int × StreamOutcome)} {total : Nat} {cancelSeen : Bool}
    (everyone : outcomes.length = total)
    (heard : (∃ entry ∈ outcomes, entry.2 = .notStarted) → cancelSeen = true) (startedAt completedAt : Instant) :
    let summary := RunSummary.ofOutcomes total cancelSeen startedAt completedAt outcomes
    Accounts ((report summary).failed + (report summary).skipped) (report summary) := by
  intro summary
  subst everyone
  have adds : summary.Adds (outcomes.countP (·.2.isNotStarted)) :=
    RunSummary.adds_ofOutcomes cancelSeen startedAt completedAt outcomes
  have all : summary.processed + outcomes.countP (·.2.isNotStarted) = summary.total := adds.all
  have stopped : summary.isCancelled = (cancelSeen && decide (summary.processed < summary.total)) := by
    unfold summary
    rw [RunSummary.ofOutcomes_eq]
    rfl
  obtain ⟨-, failed, skipped⟩ := Tally.mk.inj (tells_report summary).tally
  have lines : summary.errors.length = (report summary).failed + (report summary).skipped := by
    rw [failed, skipped, adds.errors]
    rfl
  rw [← lines]
  refine (tells_report summary).accounts (Nat.le.intro all) ?_
  show summary.isCancelled = true ↔ summary.processed < summary.total
  rw [stopped, Bool.and_eq_true, decide_eq_true_iff, and_iff_right_iff_imp]
  intro left
  have some : 0 < outcomes.countP (·.2.isNotStarted) := by omega
  obtain ⟨entry, among, alone⟩ := List.countP_pos_iff.mp some
  exact heard ⟨entry, among, StreamOutcome.isNotStarted_iff.mp alone⟩

end ProbeTask
end StreamWatch
