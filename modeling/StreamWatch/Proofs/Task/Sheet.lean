/-
**What an onlooker notes of a task that goes through items.**

An item is begun when the task, which has said how many items there are, finds no request to stop, or when it asks
the remote for anything; it is finished when it is counted. The onlooker notes how many items the outside listed,
how many were begun, what each of them was counted as, and how many were begun when the task was first asked to stop.

* `Notes`, `Sheet`: what is noted, and what it is noted of;
* `Underway`: where a task stands, between two items or amid one;
* `Underway.stop`, `Underway.keeps`, `Underway.begin`, `Underway.finish`: what others and the task itself make of that.
-/

import StreamWatch.Proofs.Program.Run
import StreamWatch.Proofs.Task.Report
import StreamWatch.Task.Cleanup

namespace StreamWatch

open Program

/-! ### Counts -/

namespace Tally

/-- How many items there are of all kinds. -/
def size (tally : Tally) : Nat := tally.succeeded + tally.failed + tally.skipped

/-- What was counted since there were fewer items. -/
def since (later before : Tally) : Tally where
  succeeded := later.succeeded - before.succeeded
  failed := later.failed - before.failed
  skipped := later.skipped - before.skipped

theorem size_add (a b : Tally) : (a + b).size = a.size + b.size := by
  show (a.succeeded + b.succeeded) + (a.failed + b.failed) + (a.skipped + b.skipped) = _
  unfold size
  omega

theorem since_add_self (before share : Tally) : (before + share).since before = share :=
  Tally.ext (Nat.add_sub_cancel_left ..) (Nat.add_sub_cancel_left ..) (Nat.add_sub_cancel_left ..)

theorem size_sum {shares : List Tally} (single : ∀ share ∈ shares, share.size = 1) :
    shares.sum.size = shares.length := by
  induction shares with
  | nil => rfl
  | cons first rest ih =>
    rw [List.sum_cons, size_add, single first List.mem_cons_self,
      ih fun share among => single share (List.mem_cons_of_mem _ among), List.length_cons, Nat.add_comm]

end Tally

theorem Progress.size_tally (p : Progress) : p.tally.size = p.processed := rfl

/-! ### Notes -/

/-- What an onlooker notes of an execution that goes through items. -/
structure Notes where
  /-- the streams the store told to be struck -/
  struck : List Int := []
  /-- how many items the remote listed -/
  items : Nat := 0
  /-- whether the task has said how many there are -/
  isListed : Bool := false
  /-- how many were begun -/
  begun : Nat := 0
  /-- whether the last one begun is still to be finished -/
  isAmid : Bool := false
  /-- what each of those was counted as that were finished -/
  shares : List Tally := []
  /-- how many were begun when the task was first asked to stop -/
  stopped : Option Nat := none
  /-- whether the store could not forget runs of failures -/
  resetFailed : Bool := false

namespace Notes

/-- With one more item begun, unless one is. -/
def begin (notes : Notes) : Notes :=
  if notes.isAmid then notes else { notes with begun := notes.begun + 1, isAmid := true }

/-- With an item finished, as whatever it was counted. -/
def finish (share : Tally) (notes : Notes) : Notes :=
  { notes.begin with isAmid := false, shares := notes.shares ++ [share] }

/-- With a request to stop. -/
def stop (notes : Notes) : Notes := { notes with stopped := notes.stopped.or (some notes.begun) }

/-- Once the task has acted, with its cell before and after that. -/
def acted (before after : TaskCell) (notes : Notes) : Notes :=
  if before.progress.processed < after.progress.processed then
    notes.finish (after.progress.tally.since before.progress.tally)
  else if notes.isListed then
    if before.isCancelled ∨ before.progress.total ≤ before.progress.processed then notes else notes.begin
  else { notes with isListed := decide (before.progress.total = 0 ∧ 0 < after.progress.total) }

/-- With what the remote listed. -/
def listing : (call : RemoteCall) → call.Reply → Notes → Notes
  | .channels .., .ok page, notes =>
    { notes with items := notes.items + (Cleanup.affected notes.struck page.results).length }
  | .channels .., .error _, notes => { notes with items := 0 }
  | .guideSources, .ok sources, notes => { notes with items := sources.length }
  | _, _, notes => notes

/-- Once the outside has answered. -/
def heard : (ask : Ask) → ask.Reply → Notes → Notes
  | .remote call, reply, notes => (if notes.isListed then notes.begin else notes).listing call reply
  | .store (.listStruck _), .ok records, notes => { notes with struck := records.map (·.streamId) }
  | .store (.reset _), .error _, notes => { notes with resetFailed := true }
  | _, _, notes => notes

end Notes

/-! ### Sheets -/

/-- The cell of a task, and what was noted of its execution. -/
structure Sheet where
  cell : TaskCell
  notes : Notes := {}

namespace Sheet

/-- The sheet after the task has written its cell. -/
def put (cell : TaskCell) (sheet : Sheet) : Sheet := ⟨cell, sheet.notes.acted sheet.cell cell⟩

/-- The sheet after a request to stop. -/
def stop (sheet : Sheet) : Sheet := ⟨sheet.cell.cancel, sheet.notes.stop⟩

/-- The sheet after an answer. -/
def heard (ask : Ask) (reply : ask.Reply) (sheet : Sheet) : Sheet := ⟨sheet.cell, sheet.notes.heard ask reply⟩

end Sheet

/-- A program of the task, over the sheet. -/
def onSheet {α : Type} (work : Work TaskCell α) : Work Sheet α := work.zoom Sheet.cell Sheet.put

/-- Whatever is asked is answered, with anything, and others ask the task to stop. -/
def anyone : Surroundings Sheet Ask Ask.Reply where
  answers ask sheet reply after := ∃ value, reply = some value ∧ after = sheet.heard ask value
  others sheet after := after = sheet.stop

/-! ### Where a task stands -/

/-- Whether requests to stop are known to the task, and no item was begun after the first of them. -/
structure Heedful (sheet : Sheet) : Prop where
  known : sheet.cell.isCancelled = sheet.notes.stopped.isSome
  inTime : ∀ begun, sheet.notes.stopped = some begun → begun = sheet.notes.begun

/-- Whether nothing was noted of an execution yet but requests to stop. -/
structure Unbegun (sheet : Sheet) : Prop extends Heedful sheet where
  listed : sheet.notes.items = 0
  opened : sheet.notes.isListed = false
  started : sheet.notes.begun = 0
  amid : sheet.notes.isAmid = false
  shares : sheet.notes.shares = []
  resetFailed : sheet.notes.resetFailed = false

/-- **Where a task stands** for which so many items were listed, of which it has said some number, and has left so
many to begin. -/
structure Underway (items total left : Nat) (isAmid : Bool) (sheet : Sheet) : Prop extends Heedful sheet where
  listed : sheet.notes.items = items
  opened : sheet.notes.isListed = decide (0 < total)
  said : sheet.cell.progress.total = total
  amid : sheet.notes.isAmid = isAmid
  counted : sheet.cell.progress.tally = sheet.notes.shares.sum
  single : ∀ share ∈ sheet.notes.shares, share.size = 1
  started : sheet.notes.begun = sheet.notes.shares.length + isAmid.toNat
  rest : sheet.notes.begun + left = total

section
variable {items total left : Nat} {isAmid : Bool} {sheet : Sheet}

theorem Heedful.stop (heedful : Heedful sheet) : Heedful sheet.stop where
  known := by
    show true = (sheet.notes.stopped.or (some sheet.notes.begun)).isSome
    cases sheet.notes.stopped <;> rfl
  inTime begun noted := by
    cases before : sheet.notes.stopped with
    | none =>
      have noted : sheet.notes.stopped.or (some sheet.notes.begun) = some begun := noted
      rw [before] at noted
      exact (Option.some.inj noted).symm
    | some first =>
      have noted : sheet.notes.stopped.or (some sheet.notes.begun) = some begun := noted
      rw [before] at noted
      cases noted
      exact heedful.inTime _ before

theorem Unbegun.stop (unbegun : Unbegun sheet) : Unbegun sheet.stop :=
  { unbegun with toHeedful := unbegun.toHeedful.stop }

theorem Underway.stop (underway : Underway items total left isAmid sheet) :
    Underway items total left isAmid sheet.stop :=
  { underway with toHeedful := underway.toHeedful.stop }

theorem stable_unbegun : Stable anyone Unbegun := by
  rintro sheet after rfl unbegun
  exact unbegun.stop

/-- The items that were counted are those that were finished. -/
theorem Underway.processed (underway : Underway items total left isAmid sheet) :
    sheet.cell.progress.processed + isAmid.toNat + left = total := by
  rw [← Progress.size_tally, underway.counted, Tally.size_sum underway.single, ← underway.started]
  exact underway.rest

/-- Before a task has begun to count it may look at its cell, whatever is left there. -/
theorem Unbegun.look (unbegun : Unbegun sheet) : sheet.put sheet.cell = sheet := by
  have unsaid : ¬ (sheet.cell.progress.total = 0 ∧ 0 < sheet.cell.progress.total) := by
    rintro ⟨none, some⟩
    rw [none] at some
    exact Nat.lt_irrefl 0 some
  have same : sheet.notes.acted sheet.cell sheet.cell = sheet.notes := by
    rw [Notes.acted, if_neg (Nat.lt_irrefl _), unbegun.opened, if_neg Bool.false_ne_true, decide_eq_false unsaid,
      ← unbegun.opened]
  show Sheet.mk sheet.cell _ = sheet
  rw [same]

/-- A task that begins to count stands between the items, of which it knows none. -/
theorem Unbegun.start (unbegun : Unbegun sheet) (status : String) :
    Underway 0 0 0 false (sheet.put (sheet.cell.start status)) := by
  have same : sheet.notes.acted sheet.cell (sheet.cell.start status) = sheet.notes := by
    have stale : ¬ sheet.cell.progress.processed < (sheet.cell.start status).progress.processed := Nat.not_lt_zero _
    rw [Notes.acted, if_neg stale, unbegun.opened, if_neg Bool.false_ne_true]
    have unsaid : ¬ (sheet.cell.progress.total = 0 ∧ 0 < (sheet.cell.start status).progress.total) :=
      fun both => Nat.lt_irrefl 0 both.2
    rw [decide_eq_false unsaid, ← unbegun.opened]
  have heedful : Heedful ⟨sheet.cell.start status, sheet.notes⟩ := ⟨unbegun.known, unbegun.inTime⟩
  unfold Sheet.put
  rw [same]
  refine ⟨heedful, unbegun.listed, unbegun.opened, rfl, unbegun.amid, ?_, ?_, ?_, unbegun.started⟩
  · rw [unbegun.shares]
    rfl
  · rw [unbegun.shares]
    exact nofun
  · rw [unbegun.started, unbegun.shares]
    rfl

/-- Whether a cell tells the same counts as another, and of the same requests to stop. -/
structure SameCounts (cell other : TaskCell) : Prop where
  isCancelled : cell.isCancelled = other.isCancelled
  total : cell.progress.total = other.progress.total
  tally : cell.progress.tally = other.progress.tally

/-- **What a task writes besides its counts begins no item** while one is under way, once the task was asked to
stop, and when none is left. -/
theorem Underway.keeps (underway : Underway items total left isAmid sheet)
    (idle : isAmid = true ∨ sheet.cell.isCancelled = true ∨ left = 0) {cell : TaskCell}
    (same : SameCounts cell sheet.cell) : Underway items total left isAmid (sheet.put cell) := by
  have notes : sheet.notes.acted sheet.cell cell = sheet.notes := by
    have uncounted : ¬ sheet.cell.progress.processed < cell.progress.processed := by
      rw [← Progress.size_tally, ← Progress.size_tally, same.tally]
      exact Nat.lt_irrefl _
    rw [Notes.acted, if_neg uncounted, underway.opened]
    by_cases some : 0 < total
    · rw [decide_eq_true some, if_pos rfl]
      split
      · rfl
      · next goesOn =>
        rw [not_or, underway.said] at goesOn
        have amid : isAmid = true := by
          rcases idle with amid | asked | none
          · exact amid
          · exact absurd asked goesOn.1
          · cases isAmid with
            | true => rfl
            | false =>
              have all := underway.processed
              rw [none] at all
              exact absurd (Nat.le_of_eq all.symm) goesOn.2
        rw [Notes.begin, if_pos (underway.amid.trans amid)]
    · rw [decide_eq_false some, if_neg Bool.false_ne_true]
      have unsaid : ¬ (sheet.cell.progress.total = 0 ∧ 0 < cell.progress.total) := by
        rw [same.total, underway.said]
        exact fun both => some both.2
      rw [decide_eq_false unsaid, ← underway.opened.trans (decide_eq_false some)]
  have heedful : Heedful ⟨cell, sheet.notes⟩ := ⟨same.isCancelled.trans underway.known, underway.inTime⟩
  unfold Sheet.put
  rw [notes]
  exact { underway with
    toHeedful := heedful
    said := same.total.trans underway.said
    counted := same.tally.trans underway.counted }

/-- A task that says how many items were listed has all of them left. -/
theorem Underway.list (underway : Underway items 0 0 false sheet) (update : ProgressUpdate)
    (tells : update.total = some items) : Underway items items items false (sheet.put (sheet.cell.update update)) := by
  have total : (sheet.cell.update update).progress.total = items := by
    show update.total.getD _ = items
    rw [tells]
    rfl
  have notes : sheet.notes.acted sheet.cell (sheet.cell.update update) =
      { sheet.notes with isListed := decide (0 < items) } := by
    have uncounted : ¬ sheet.cell.progress.processed < (sheet.cell.update update).progress.processed := Nat.lt_irrefl _
    rw [Notes.acted, if_neg uncounted, underway.opened, if_neg (by decide), underway.said, total]
    simp only [true_and]
  have heedful : Heedful ⟨sheet.cell.update update, { sheet.notes with isListed := decide (0 < items) }⟩ :=
    ⟨underway.known, underway.inTime⟩
  have none : sheet.notes.begun = 0 := underway.rest
  unfold Sheet.put
  rw [notes]
  refine ⟨heedful, underway.listed, rfl, total, underway.amid, underway.counted, underway.single, underway.started, ?_⟩
  show sheet.notes.begun + items = items
  rw [none, Nat.zero_add]

/-- **An item is begun** where the task finds no request to stop, with items left. -/
theorem Underway.begin (underway : Underway items total (left + 1) false sheet)
    (goesOn : sheet.cell.isCancelled = false) : Underway items total left true (sheet.put sheet.cell) := by
  have processed := underway.processed
  have some : 0 < total := by omega
  have notes : sheet.notes.acted sheet.cell sheet.cell =
      { sheet.notes with begun := sheet.notes.begun + 1, isAmid := true } := by
    have more : ¬ (sheet.cell.isCancelled = true ∨ sheet.cell.progress.total ≤ sheet.cell.progress.processed) := by
      rw [goesOn, underway.said, ← processed]
      simp only [Bool.false_eq_true, Bool.toNat_false, false_or]
      omega
    rw [Notes.acted, if_neg (Nat.lt_irrefl _), underway.opened, decide_eq_true some, if_pos rfl, if_neg more,
      Notes.begin, underway.amid, if_neg Bool.false_ne_true]
  have heedful : Heedful ⟨sheet.cell, { sheet.notes with begun := sheet.notes.begun + 1, isAmid := true }⟩ := by
    refine ⟨underway.known, fun begun noted => ?_⟩
    have unasked : sheet.notes.stopped.isSome = false := underway.known.symm.trans goesOn
    have noted : sheet.notes.stopped = Option.some begun := noted
    rw [noted] at unasked
    cases unasked
  have before : sheet.notes.begun = sheet.notes.shares.length := underway.started
  have rest : sheet.notes.begun + (left + 1) = total := underway.rest
  unfold Sheet.put
  rw [notes]
  refine ⟨heedful, underway.listed, underway.opened, underway.said, rfl, underway.counted, underway.single, ?_, ?_⟩
  · show sheet.notes.begun + 1 = sheet.notes.shares.length + 1
    rw [before]
  · show sheet.notes.begun + 1 + left = total
    omega

/-- **An item is finished** when it is counted. -/
theorem Underway.finish (underway : Underway items total left true sheet) {succeeded failed skipped : Nat}
    (one : succeeded + failed + skipped = 1) :
    Underway items total left false (sheet.put (sheet.cell.count succeeded failed skipped)) := by
  let share : Tally := ⟨succeeded, failed, skipped⟩
  have single : share.size = 1 := one
  have tally : (sheet.cell.count succeeded failed skipped).progress.tally = sheet.cell.progress.tally + share := rfl
  have notes : sheet.notes.acted sheet.cell (sheet.cell.count succeeded failed skipped) =
      { sheet.notes with isAmid := false, shares := sheet.notes.shares ++ [share] } := by
    have grows : sheet.cell.progress.processed <
        (sheet.cell.count succeeded failed skipped).progress.processed := by
      rw [← Progress.size_tally, ← Progress.size_tally, tally, Tally.size_add, single]
      exact Nat.lt_succ_self _
    rw [Notes.acted, if_pos grows, tally, Tally.since_add_self, Notes.finish, Notes.begin, if_pos underway.amid]
  have heedful : Heedful ⟨sheet.cell.count succeeded failed skipped,
      { sheet.notes with isAmid := false, shares := sheet.notes.shares ++ [share] }⟩ :=
    ⟨underway.known, underway.inTime⟩
  unfold Sheet.put
  rw [notes]
  refine ⟨heedful, underway.listed, underway.opened, underway.said, rfl, ?_, fun other among => ?_, ?_, underway.rest⟩
  · show sheet.cell.progress.tally + share = (sheet.notes.shares ++ [share]).sum
    rw [List.sum_append, List.sum_singleton, underway.counted]
  · rcases List.mem_append.mp among with earlier | last
    · exact underway.single other earlier
    · rw [List.mem_singleton.mp last, single]
  · show sheet.notes.begun = (sheet.notes.shares ++ [share]).length
    rw [underway.started, List.length_append]
    rfl

/-- What the outside answers amid an item, to anything but a call for a listing. -/
theorem Underway.heard (underway : Underway items total left true sheet) {call : RemoteCall} {reply : call.Reply}
    (unlisted : sheet.notes.listing call reply = sheet.notes) :
    Underway items total left true (sheet.heard (.remote call) reply) := by
  have same : sheet.heard (.remote call) reply = sheet := by
    have begun : (if sheet.notes.isListed = true then sheet.notes.begin else sheet.notes) = sheet.notes := by
      rw [Notes.begin, if_pos underway.amid, ite_self]
    show Sheet.mk sheet.cell ((if _ then _ else _ : Notes).listing call reply) = sheet
    rw [begun, unlisted]
  rw [same]
  exact underway

end
end StreamWatch
