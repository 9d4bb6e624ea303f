/-
**What a summary counts.**

Every outcome counts once, and what is counted does not depend on the order of the outcomes.

* `ofOutcomes_eq`: a summary in one piece;
* `adds_ofOutcomes`: how its numbers hang together;
* `ofOutcomes_perm`: the order of the outcomes plays no part;
* `sum_share`: what the counts of a progress come to that counts the same outcomes one by one.
-/

import Mathlib.Algebra.BigOperators.Group.List.Basic
import StreamWatch.Engine.Cell

namespace StreamWatch

/-- How many streams succeeded, failed and were skipped. -/
@[ext] structure Tally where
  succeeded : Nat
  failed : Nat
  skipped : Nat

namespace Tally

instance : Zero Tally := ⟨⟨0, 0, 0⟩⟩

instance : Add Tally :=
  ⟨fun a b => ⟨a.succeeded + b.succeeded, a.failed + b.failed, a.skipped + b.skipped⟩⟩

instance : AddCommMonoid Tally where
  add_assoc _ _ _ := Tally.ext (Nat.add_assoc _ _ _) (Nat.add_assoc _ _ _) (Nat.add_assoc _ _ _)
  zero_add _ := Tally.ext (Nat.zero_add _) (Nat.zero_add _) (Nat.zero_add _)
  add_zero _ := rfl
  add_comm _ _ := Tally.ext (Nat.add_comm _ _) (Nat.add_comm _ _) (Nat.add_comm _ _)
  nsmul := nsmulRec

end Tally

namespace StreamOutcome

def isSucceeded : StreamOutcome → Bool
  | succeeded _ => true
  | _ => false

def isBlack : StreamOutcome → Bool
  | succeeded isBlackScreen => isBlackScreen
  | _ => false

/-- Timeouts are failures, too. -/
def isFailed : StreamOutcome → Bool
  | failed _ | timedOut _ => true
  | _ => false

def isTimedOut : StreamOutcome → Bool
  | timedOut _ => true
  | _ => false

def isSkipped : StreamOutcome → Bool
  | skipped _ => true
  | _ => false

def isNotStarted : StreamOutcome → Bool
  | notStarted => true
  | _ => false

/-- What there is to tell of a stream that failed or was skipped. -/
def reason? : StreamOutcome → Option String
  | failed reason | timedOut reason | skipped reason => some reason
  | _ => none

theorem isNotStarted_iff {outcome : StreamOutcome} : outcome.isNotStarted = true ↔ outcome = notStarted := by
  cases outcome <;> simp [isNotStarted]

/-- Every outcome is of one of four kinds, and there is something to tell of two of them. -/
theorem one_kind (outcome : StreamOutcome) :
    (if outcome.isSucceeded then 1 else 0) + (if outcome.isFailed then 1 else 0) +
        (if outcome.isSkipped then 1 else 0) + (if outcome.isNotStarted then 1 else 0) = 1 ∧
      outcome.reason?.toList.length =
        (if outcome.isFailed then 1 else 0) + if outcome.isSkipped then 1 else 0 := by
  cases outcome <;> exact ⟨rfl, rfl⟩

/-- What an outcome adds to the counts of a progress. -/
def share (outcome : StreamOutcome) : Tally where
  succeeded := if outcome.isSucceeded then 1 else 0
  failed := if outcome.isFailed then 1 else 0
  skipped := if outcome.isSkipped then 1 else 0

end StreamOutcome

namespace RunSummary

variable {outcomes : List (Int × StreamOutcome)}

/-- The line of an outcome, if it has one. -/
def line? (entry : Int × StreamOutcome) : Option String := entry.2.reason?.map (errorLine entry.1)

theorem filterMap_line?_cons (entry : Int × StreamOutcome) (rest : List (Int × StreamOutcome)) :
    (entry :: rest).filterMap line? = (line? entry).toList ++ rest.filterMap line? := by
  rw [List.filterMap_cons]
  cases line? entry <;> rfl

theorem count_eq (summary : RunSummary) (id : Int) (outcome : StreamOutcome) :
    summary.count id outcome =
      { summary with
        succeeded := summary.succeeded + if outcome.isSucceeded then 1 else 0
        failed := summary.failed + if outcome.isFailed then 1 else 0
        timedOut := summary.timedOut + if outcome.isTimedOut then 1 else 0
        skipped := summary.skipped + if outcome.isSkipped then 1 else 0
        black := summary.black + if outcome.isBlack then 1 else 0
        errors := summary.errors ++ (line? (id, outcome)).toList } := by
  cases outcome with
  | succeeded isBlackScreen =>
    cases isBlackScreen <;> simp [count, line?, StreamOutcome.reason?] <;> decide
  | failed | timedOut | skipped => rfl
  | notStarted =>
    simp only [line?, StreamOutcome.reason?, Option.map_none, Option.toList_none, List.append_nil]
    rfl

theorem foldl_count (outcomes : List (Int × StreamOutcome)) (summary : RunSummary) :
    outcomes.foldl (fun summary (id, outcome) => summary.count id outcome) summary =
      { summary with
        succeeded := summary.succeeded + outcomes.countP (·.2.isSucceeded)
        failed := summary.failed + outcomes.countP (·.2.isFailed)
        timedOut := summary.timedOut + outcomes.countP (·.2.isTimedOut)
        skipped := summary.skipped + outcomes.countP (·.2.isSkipped)
        black := summary.black + outcomes.countP (·.2.isBlack)
        errors := summary.errors ++ outcomes.filterMap line? } := by
  induction outcomes generalizing summary with
  | nil => simp
  | cons entry rest ih =>
    obtain ⟨id, outcome⟩ := entry
    rw [List.foldl_cons, ih, filterMap_line?_cons]
    simp only [count_eq, List.countP_cons, mk.injEq, true_and, and_true, List.append_assoc]
    omega

/-- **A summary in one piece.** -/
theorem ofOutcomes_eq (total : Nat) (cancelSeen : Bool) (startedAt completedAt : Instant)
    (outcomes : List (Int × StreamOutcome)) :
    ofOutcomes total cancelSeen startedAt completedAt outcomes =
      { total
        succeeded := outcomes.countP (·.2.isSucceeded)
        failed := outcomes.countP (·.2.isFailed)
        timedOut := outcomes.countP (·.2.isTimedOut)
        skipped := outcomes.countP (·.2.isSkipped)
        black := outcomes.countP (·.2.isBlack)
        isCancelled := cancelSeen && decide (outcomes.countP (·.2.isSucceeded) +
          outcomes.countP (·.2.isFailed) + outcomes.countP (·.2.isSkipped) < total)
        errors := (outcomes.filterMap line?).mergeSort fun a b => a ≤ b
        startedAt, completedAt } := by
  simp only [ofOutcomes, foldl_count, processed, Nat.zero_add, List.nil_append]

/-- Whether the numbers of a summary hang together, when so many streams were never started. -/
structure Adds (summary : RunSummary) (unstarted : Nat) : Prop where
  all : summary.succeeded + summary.failed + summary.skipped + unstarted = summary.total
  timedOut : summary.timedOut ≤ summary.failed
  black : summary.black ≤ summary.succeeded
  errors : summary.errors.length = summary.failed + summary.skipped

theorem countP_add (outcomes : List (Int × StreamOutcome)) :
    outcomes.countP (·.2.isSucceeded) + outcomes.countP (·.2.isFailed) + outcomes.countP (·.2.isSkipped) +
        outcomes.countP (·.2.isNotStarted) = outcomes.length ∧
      (outcomes.filterMap line?).length =
        outcomes.countP (·.2.isFailed) + outcomes.countP (·.2.isSkipped) := by
  induction outcomes with
  | nil => exact ⟨rfl, rfl⟩
  | cons entry rest ih =>
    obtain ⟨all, lines⟩ := ih
    obtain ⟨one, told⟩ := entry.2.one_kind
    have line : (line? entry).toList.length = entry.2.reason?.toList.length := by
      rw [line?]
      cases entry.2.reason? <;> rfl
    rw [filterMap_line?_cons, List.length_append, line, told, lines]
    simp only [List.countP_cons, List.length_cons]
    omega

/-- **The numbers of a summary hang together**, when every stream has an outcome. -/
theorem adds_ofOutcomes (cancelSeen : Bool) (startedAt completedAt : Instant)
    (outcomes : List (Int × StreamOutcome)) :
    (ofOutcomes outcomes.length cancelSeen startedAt completedAt outcomes).Adds
      (outcomes.countP (·.2.isNotStarted)) := by
  obtain ⟨all, lines⟩ := countP_add outcomes
  rw [ofOutcomes_eq]
  refine ⟨all, ?_, ?_, ?_⟩
  · refine List.countP_mono_left fun entry _ timedOut => ?_
    cases same : entry.2 <;> simp_all [StreamOutcome.isTimedOut, StreamOutcome.isFailed]
  · refine List.countP_mono_left fun entry _ black => ?_
    cases same : entry.2 <;> simp_all [StreamOutcome.isBlack, StreamOutcome.isSucceeded]
  · rw [List.length_mergeSort]
    exact lines

/-- **The order of the outcomes plays no part.** -/
theorem ofOutcomes_perm {first second : List (Int × StreamOutcome)} (reordered : first.Perm second)
    (total : Nat) (cancelSeen : Bool) (startedAt completedAt : Instant) :
    ofOutcomes total cancelSeen startedAt completedAt first =
      ofOutcomes total cancelSeen startedAt completedAt second := by
  have lines : ((first.filterMap line?).mergeSort fun a b => a ≤ b) =
      (second.filterMap line?).mergeSort fun a b => a ≤ b := by
    have sorted : ∀ texts : List String,
        (texts.mergeSort fun a b => a ≤ b).Pairwise fun a b => decide (a ≤ b) = true :=
      List.pairwise_mergeSort (fun a b c => by simpa using String.le_trans) fun a b => by
        simpa using String.le_total a b
    refine List.Perm.eq_of_pairwise (fun a b _ _ less more => ?_) (sorted _) (sorted _) ?_
    · exact String.le_antisymm (of_decide_eq_true less) (of_decide_eq_true more)
    · exact (List.mergeSort_perm _ _).trans
        ((reordered.filterMap line?).trans (List.mergeSort_perm _ _).symm)
  rw [ofOutcomes_eq, ofOutcomes_eq, lines]
  simp only [reordered.countP_eq]

/-- How far a run has come that ended with a summary. -/
def progress (summary : RunSummary) : Progress where
  total := summary.total
  current := summary.processed
  status := if summary.isCancelled then "cancelled" else "completed"
  succeeded := summary.succeeded
  failed := summary.failed
  skipped := summary.skipped

/-- How many outcomes there are of each kind. -/
def tally (outcomes : List (Int × StreamOutcome)) : Tally where
  succeeded := outcomes.countP (·.2.isSucceeded)
  failed := outcomes.countP (·.2.isFailed)
  skipped := outcomes.countP (·.2.isSkipped)

theorem sum_share (outcomes : List (Int × StreamOutcome)) :
    (outcomes.map (·.2.share)).sum = tally outcomes := by
  induction outcomes with
  | nil => rfl
  | cons entry rest ih =>
    have added : entry.2.share + tally rest = tally (entry :: rest) := by
      unfold tally
      simp only [List.countP_cons]
      exact Tally.ext (Nat.add_comm _ _) (Nat.add_comm _ _) (Nat.add_comm _ _)
    rw [List.map_cons, List.sum_cons, ih, added]

end RunSummary
end StreamWatch
