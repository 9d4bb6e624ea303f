/-
**Calls to a table that overlap.**

A record takes two moments: the row of the stream is read, and when the record ends, a row is written.
Any other call is over in one moment. The moments of any number of calls follow each other in any
order that keeps those of each call in order, and calls may still be under way at the end.

What a record has read may be out of date when it writes. Then the calls that ended in between are
lost, as calls on the whole: a row is never a mixture of several.

* `Traffic.pass`: what a moment does;
* `Kept`, `exists_kept`: a row is what some of the calls make of it one after the other, and a call that
  is not among them overlapped with another of the same stream;
* `Apart`, `Faithful`: a stream whose calls do not overlap loses none, whatever the others do;
* `Outcome`, `outcome_after`: both, and the answers too where no calls of one stream overlap;
* `not_forall_serial`: two failures at a time count as one, and the longest run of failures stays as
  it is.
-/

import Mathlib.Data.List.Induction
import StreamWatch.Proofs.Store.Halves

set_option linter.unusedSectionVars false

namespace StreamWatch

/-! ### Moments -/

/-- A moment of a call: it reads the row of its stream, or it ends. -/
inductive Moment (ι : Type) where
  | reads (k : ι)
  | ends (k : ι)
deriving DecidableEq

namespace Moment

variable {ι : Type}

/-- The call a moment is of. -/
def call : Moment ι → ι
  | reads k | ends k => k

/-- The moments of a call in their order. -/
def course (k : ι) (call : StoreCall) : List (Moment ι) :=
  match call.recorded? with
  | some _ => [reads k, ends k]
  | none => [ends k]

/-- The calls that have ended, in the order of their ends. -/
def ended (moments : List (Moment ι)) : List ι :=
  moments.filterMap fun moment => match moment with
    | ends k => some k
    | reads _ => none

theorem ended_append (first second : List (Moment ι)) :
    ended (first ++ second) = ended first ++ ended second := List.filterMap_append

theorem mem_ended {moments : List (Moment ι)} {k : ι} : k ∈ ended moments ↔ ends k ∈ moments := by
  rw [ended, List.mem_filterMap]
  constructor
  · rintro ⟨moment, member, same⟩
    cases moment with
    | reads => exact nomatch same
    | ends other =>
      cases same
      exact member
  · exact fun member => ⟨ends k, member, rfl⟩

/-- A call ends while another is between reading and writing. -/
def EndsWithin (moments : List (Moment ι)) (k other : ι) : Prop :=
  ∃ before during after, moments = before ++ reads other :: during ++ ends other :: after ∧ ends k ∈ during

theorem EndsWithin.append {moments : List (Moment ι)} {k other : ι} (within : EndsWithin moments k other)
    (more : List (Moment ι)) : EndsWithin (moments ++ more) k other := by
  obtain ⟨before, during, after, rfl, member⟩ := within
  exact ⟨before, during, after ++ more, by simp, member⟩

end Moment

open Moment

/-- The table after some calls one after the other. -/
def Table.serially (table : Table) (calls : List (Instant × StoreCall)) : Table :=
  calls.foldl (fun table call => (table.answer call.1 call.2).2) table

theorem Table.serially_concat (table : Table) (calls : List (Instant × StoreCall))
    (call : Instant × StoreCall) :
    table.serially (calls ++ [call]) = ((table.serially calls).answer call.1 call.2).2 := by
  rw [serially, List.foldl_append]
  rfl

theorem StoreCall.replies_concat (table : Table) (calls : List (Instant × StoreCall))
    (call : Instant × StoreCall) :
    replies Table.answer table (calls ++ [call]) =
      replies Table.answer table calls ++ [⟨call.2, ((table.serially calls).answer call.1 call.2).1⟩] := by
  induction calls generalizing table with
  | nil => rfl
  | cons first rest ih =>
    rw [List.cons_append, replies, replies, ih]
    rfl

/-- A table, what each call has read from it last, and what was answered, in the order of the ends. -/
structure Traffic (ι : Type) where
  table : Table
  read : ι → Except StoreError (Option StreamStats) := fun _ => .ok none
  told : List ((call : StoreCall) × call.Reply) := []

namespace Traffic

variable {ι : Type} [DecidableEq ι] (calls : ι → Instant × StoreCall)

/-- The traffic after a moment. -/
def pass (traffic : Traffic ι) : Moment ι → Traffic ι
  | .reads k =>
    match (calls k).2.recorded? with
    | some id => { traffic with read := Function.update traffic.read k (traffic.table.find id) }
    | none => traffic
  | .ends k =>
    let concluded := traffic.table.conclude (calls k).1 (traffic.read k) (calls k).2
    { traffic with table := concluded.2, told := traffic.told ++ [⟨(calls k).2, concluded.1⟩] }

/-- The traffic after some moments. -/
def after (table : Table) (moments : List (Moment ι)) : Traffic ι := moments.foldl (pass calls) { table }

/-- The moments of each call come in their order; calls may be under way. -/
def Interleaves (moments : List (Moment ι)) : Prop :=
  ∀ k, moments.filter (·.call = k) <+: course k (calls k).2

variable {calls} {table : Table} {moments : List (Moment ι)}

theorem after_concat (table : Table) (moments : List (Moment ι)) (moment : Moment ι) :
    after calls table (moments ++ [moment]) = (after calls table moments).pass calls moment := by
  rw [after, List.foldl_append]
  rfl

theorem Interleaves.of_append {first second : List (Moment ι)} (proper : Interleaves calls (first ++ second)) :
    Interleaves calls first := fun k => by
  refine List.IsPrefix.trans ?_ (proper k)
  rw [List.filter_append]
  exact List.prefix_append _ _

/-! ### What a call has read -/

/-- What a call has read, a table has held. -/
def Sound (traffic : Traffic ι) (calls : ι → Instant × StoreCall) : Prop :=
  ∀ k id, (calls k).2.recorded? = some id → ∃ earlier : Table, traffic.read k = earlier.find id

theorem sound_after (table : Table) (moments : List (Moment ι)) : (after calls table moments).Sound calls := by
  induction moments using List.reverseRecOn with
  | nil => exact fun k id recorded => ⟨.empty, rfl⟩
  | append_singleton moments moment ih =>
    rw [after_concat]
    cases moment with
    | ends k => exact ih
    | reads k =>
      rw [pass]
      split
      · next id recorded =>
        intro other otherId otherRecorded
        by_cases same : other = k
        · subst same
          cases recorded.symm.trans otherRecorded
          exact ⟨_, Function.update_self ..⟩
        · obtain ⟨earlier, read⟩ := ih other otherId otherRecorded
          exact ⟨earlier, (Function.update_of_ne same ..).trans read⟩
      · exact ih

/-- A moment of another call leaves what a call has read. -/
theorem read_pass (traffic : Traffic ι) {moment : Moment ι} {k : ι} (differ : moment.call ≠ k) :
    (traffic.pass calls moment).read k = traffic.read k := by
  cases moment with
  | ends other => rfl
  | reads other =>
    rw [pass]
    split
    · exact Function.update_of_ne (Ne.symm differ) ..
    · rfl

theorem eq_singleton_of_append {α : Type} {before rest : List α} {first last : α}
    (split : before ++ last :: rest = [first, last]) (differ : last ≠ first) : before = [first] := by
  match before, split with
  | [], split => exact absurd (List.cons.inj split).1 differ
  | [other], split => rw [(List.cons.inj split).1]
  | _ :: _ :: _, split => simp at split

/-- A record that ends has read its row once. -/
theorem reads_of_ends {before : List (Moment ι)} {k : ι} {id : Int}
    (proper : Interleaves calls (before ++ [.ends k])) (recorded : (calls k).2.recorded? = some id) :
    before.filter (·.call = k) = [.reads k] := by
  obtain ⟨rest, own⟩ := proper k
  rw [course, recorded, List.filter_append, List.filter_cons, if_pos (by simp [Moment.call]),
    List.append_assoc] at own
  exact eq_singleton_of_append own nofun

theorem exists_reads {before : List (Moment ι)} {k : ι} {id : Int}
    (proper : Interleaves calls (before ++ [.ends k])) (recorded : (calls k).2.recorded? = some id) :
    ∃ first during, before = first ++ .reads k :: during :=
  List.append_of_mem (List.mem_filter.mp (reads_of_ends proper recorded ▸ List.mem_cons_self)).1

/-- When a record ends, what it has read is what was there when it read. -/
theorem read_at_end {first during : List (Moment ι)} {k : ι} {id : Int}
    (proper : Interleaves calls (first ++ .reads k :: during ++ [.ends k]))
    (recorded : (calls k).2.recorded? = some id) (table : Table) :
    (after calls table (first ++ .reads k :: during)).read k = (after calls table first).table.find id := by
  have others : ∀ moment ∈ during, moment.call ≠ k := by
    intro moment among same
    have counted := congrArg List.length (reads_of_ends proper recorded)
    have here : moment ∈ during.filter (·.call = k) := List.mem_filter.mpr ⟨among, decide_eq_true same⟩
    have some := List.length_pos_of_mem here
    have own : decide ((Moment.reads k).call = k) = true := by simp [Moment.call]
    rw [List.filter_append, List.filter_cons, if_pos own, List.length_append] at counted
    simp only [List.length_cons, List.length_nil] at counted
    omega
  clear proper
  induction during using List.reverseRecOn with
  | nil =>
    rw [after_concat, pass, recorded]
    exact Function.update_self ..
  | append_singleton during moment ih =>
    rw [← List.cons_append, ← List.append_assoc, after_concat,
      read_pass _ (others moment (List.mem_append_right _ List.mem_cons_self))]
    exact ih fun other among => others other (List.mem_append_left _ among)

/-! ### Calls that nothing comes between -/

/-- A moment that ends no call of a stream leaves its row. -/
theorem get?_pass {traffic : Traffic ι} (sound : traffic.Sound calls) {moment : Moment ι} {id : Int}
    (others : ∀ k, moment = .ends k → (calls k).2.names id = false) :
    (traffic.pass calls moment).table.get? id = traffic.table.get? id := by
  cases moment with
  | reads k =>
    rw [pass]
    split <;> rfl
  | ends k =>
    have others := others k rfl
    show (traffic.table.conclude _ (traffic.read k) (calls k).2).2.get? id = _
    cases recorded : (calls k).2.recorded? with
    | none => rw [Table.conclude_of_not_recorded recorded, Table.get?_answer_of_not_names others]
    | some other =>
      obtain ⟨earlier, read⟩ := sound k other recorded
      have differ : id ≠ other := fun same => by
        rw [StoreCall.names_of_recorded (same ▸ recorded)] at others
        exact nomatch others
      rw [read]
      rcases Table.conclude_cases traffic.table earlier _ recorded with same | ⟨row, same, -⟩
      · rw [same]
      · rw [same, SortedMap.get?_insert_of_ne traffic.table differ row]

theorem get?_after_append (table : Table) (first : List (Moment ι)) {second : List (Moment ι)} {id : Int}
    (others : ∀ k, .ends k ∈ second → (calls k).2.names id = false) :
    (after calls table (first ++ second)).table.get? id = (after calls table first).table.get? id := by
  induction second using List.reverseRecOn with
  | nil => rw [List.append_nil]
  | append_singleton second moment ih =>
    rw [← List.append_assoc, after_concat, get?_pass (sound_after table _) fun k is =>
      others k (is ▸ List.mem_append_right _ List.mem_cons_self)]
    exact ih fun k among => others k (List.mem_append_left _ among)

/-- No call of a stream has ended since a call of the stream has read its row. -/
def Undisturbed (calls : ι → Instant × StoreCall) (before : List (Moment ι)) (k : ι) : Prop :=
  ∀ id, (calls k).2.recorded? = some id → ∀ first during, before = first ++ .reads k :: during →
    ∀ other, .ends other ∈ during → (calls other).2.names id = false

/-- **A call that nothing comes between is over in one moment**, its last. -/
theorem after_ends {before : List (Moment ι)} {k : ι} (proper : Interleaves calls (before ++ [.ends k]))
    (undisturbed : Undisturbed calls before k) (table : Table) :
    let answered := (after calls table before).table.answer (calls k).1 (calls k).2
    after calls table (before ++ [.ends k]) =
      { after calls table before with
        table := answered.2, told := (after calls table before).told ++ [⟨(calls k).2, answered.1⟩] } := by
  have same : (after calls table before).table.conclude (calls k).1 ((after calls table before).read k)
      (calls k).2 = (after calls table before).table.answer (calls k).1 (calls k).2 := by
    cases recorded : (calls k).2.recorded? with
    | none => exact Table.conclude_of_not_recorded recorded _
    | some id =>
      obtain ⟨first, during, rfl⟩ := exists_reads proper recorded
      have still : (after calls table (first ++ .reads k :: during)).table.get? id =
          (after calls table first).table.get? id := by
        refine get?_after_append table first fun other member => ?_
        rcases List.mem_cons.mp member with is | among
        · exact nomatch is
        · exact undisturbed id recorded first during rfl other among
      rw [read_at_end proper recorded, ← Table.find_congr still]
      exact Table.conclude_find recorded
  rw [after_concat, pass]
  simp only [same]

/-! ### What is left of calls that overlap -/

/-- **What is left of the calls of a stream**: its row is what some of the calls that have ended make of
it one after the other, in the order of their ends; and a call of the stream that is not among them
overlapped with another one. -/
structure Kept (calls : ι → Instant × StoreCall) (table : Table) (moments : List (Moment ι)) (id : Int)
    (kept : List ι) : Prop where
  among : kept.Sublist (ended moments)
  row : (after calls table moments).table.get? id = (table.serially (kept.map calls)).get? id
  lost : ∀ k ∈ ended moments, (calls k).2.names id = true → k ∉ kept →
    ∃ other, (calls other).2.names id = true ∧ (EndsWithin moments k other ∨ EndsWithin moments other k)

variable {id : Int}

theorem Kept.mono_lost {before : List (Moment ι)} {kept : List ι} (left : Kept calls table before id kept)
    (moment : Moment ι) {k : ι} (member : k ∈ ended before) (named : (calls k).2.names id = true)
    (missing : k ∉ kept) :
    ∃ other, (calls other).2.names id = true ∧
      (EndsWithin (before ++ [moment]) k other ∨ EndsWithin (before ++ [moment]) other k) := by
  obtain ⟨other, otherNamed, overlap⟩ := left.lost k member named missing
  exact ⟨other, otherNamed, overlap.imp (·.append _) (·.append _)⟩

/-- What is left after a call that nothing comes between. -/
theorem Kept.ends {before : List (Moment ι)} {k : ι} {kept : List ι} (left : Kept calls table before id kept)
    (proper : Interleaves calls (before ++ [.ends k])) (undisturbed : Undisturbed calls before k) :
    Kept calls table (before ++ [.ends k]) id (kept ++ [k]) where
  among := by
    rw [ended_append]
    exact left.among.append_right [k]
  row := by
    rw [after_ends proper undisturbed, List.map_append, List.map_singleton, Table.serially_concat]
    exact Table.get?_answer_congr left.row _ _
  lost other member named missing := by
    rw [List.mem_append, not_or, List.mem_singleton] at missing
    rw [ended_append] at member
    rcases List.mem_append.mp member with before | now
    · exact left.mono_lost _ before named missing.1
    · exact absurd (List.mem_singleton.mp now) missing.2

/-- What is left stays so at a moment that leaves the row, unless it is the end of a call of the stream
that overlapped with another. -/
theorem Kept.pass {before : List (Moment ι)} {moment : Moment ι} {kept : List ι}
    (left : Kept calls table before id kept)
    (row : (after calls table (before ++ [moment])).table.get? id = (after calls table before).table.get? id)
    (lost : ∀ k, moment = .ends k → (calls k).2.names id = true →
      ∃ other, (calls other).2.names id = true ∧ EndsWithin (before ++ [moment]) other k) :
    Kept calls table (before ++ [moment]) id kept where
  among := by
    rw [ended_append]
    exact left.among.trans (List.sublist_append_left _ _)
  row := row.trans left.row
  lost k member named missing := by
    rw [ended_append] at member
    rcases List.mem_append.mp member with before | now
    · exact left.mono_lost _ before named missing
    · obtain ⟨other, otherNamed, within⟩ := lost k (List.mem_singleton.mp (mem_ended.mp now)).symm named
      exact ⟨other, otherNamed, .inr within⟩

/-- A record that writes a row it has read before brings back what was left by then. -/
theorem Kept.writes {first during : List (Moment ι)} {k : ι} {kept : List ι}
    (left : Kept calls table first id kept) (row : Row) (named : (calls k).2.names id = true)
    (written : (after calls table (first ++ .reads k :: during ++ [.ends k])).table.get? id = some row)
    (alike : ∀ other : Table, other.get? id = (after calls table first).table.get? id →
      (other.answer (calls k).1 (calls k).2).2.get? id = some row) :
    Kept calls table (first ++ .reads k :: during ++ [.ends k]) id (kept ++ [k]) where
  among := by
    rw [ended_append, ended_append]
    exact (left.among.trans (List.sublist_append_left _ _)).append_right [k]
  row := by
    rw [written, List.map_append, List.map_singleton, Table.serially_concat]
    exact (alike _ left.row.symm).symm
  lost other member otherNamed missing := by
    rw [List.mem_append, not_or, List.mem_singleton] at missing
    rw [ended_append, ended_append] at member
    rcases List.mem_append.mp member with before | now
    · rcases List.mem_append.mp before with early | between
      · obtain ⟨third, thirdNamed, overlap⟩ := left.lost other early otherNamed missing.1
        rw [List.append_assoc]
        exact ⟨third, thirdNamed, overlap.imp (·.append _) (·.append _)⟩
      · refine ⟨k, named, .inl ⟨first, during, [], by rw [List.append_assoc, List.cons_append], ?_⟩⟩
        exact (List.mem_cons.mp (mem_ended.mp between)).resolve_left nofun
    · exact absurd (List.mem_singleton.mp now) missing.2

/-- What is left after one more moment. -/
theorem exists_kept_concat {before : List (Moment ι)} {moment : Moment ι}
    (proper : Interleaves calls (before ++ [moment]))
    (earlier : ∀ seen, seen <+: before → ∃ kept, Kept calls table seen id kept) :
    ∃ kept, Kept calls table (before ++ [moment]) id kept := by
  obtain ⟨kept, left⟩ := earlier before (List.prefix_refl _)
  have sound : (after calls table before).Sound calls := sound_after table before
  cases moment with
  | reads k =>
    refine ⟨kept, left.pass ?_ (by rintro other ⟨⟩)⟩
    rw [after_concat, get?_pass sound (by rintro other ⟨⟩)]
  | ends k =>
    cases named : (calls k).2.names id with
    | false =>
      refine ⟨kept, left.pass ?_ fun other is otherNamed => ?_⟩
      · rw [after_concat, get?_pass sound fun other is => by cases is; exact named]
      · cases is
        exact nomatch named.symm.trans otherNamed
    | true =>
      by_cases undisturbed : Undisturbed calls before k
      · exact ⟨kept ++ [k], left.ends proper undisturbed⟩
      · simp only [Undisturbed, Classical.not_forall] at undisturbed
        obtain ⟨own, recorded, first, during, rfl, other, member, otherNamed⟩ := undisturbed
        obtain rfl : own = id := Decidable.byContradiction fun differ =>
          nomatch named.symm.trans (StoreCall.names_of_recorded_of_ne recorded differ)
        -- a row that was read is out of date: it is written all the same, or this call comes to nothing
        have passed : after calls table (first ++ .reads k :: during ++ [.ends k]) = _ := after_concat ..
        rw [pass, read_at_end proper recorded] at passed
        rcases Table.conclude_cases (after calls table (first ++ .reads k :: during)).table
          (after calls table first).table (calls k).1 recorded with same | ⟨row, same, alike⟩
        · refine ⟨kept, left.pass ?_ fun last is _ => ?_⟩
          · rw [passed, same]
          · cases is
            exact ⟨other, Bool.not_eq_false _ ▸ otherNamed, first, during, [], by simp, member⟩
        · obtain ⟨kept, left⟩ := earlier first (List.prefix_append _ _)
          refine ⟨kept ++ [k], left.writes row named ?_ fun table same => ?_⟩
          · rw [passed, same, SortedMap.get?_insert_self]
          · rw [alike table same, SortedMap.get?_insert_self]

theorem exists_kept (table : Table) {moments : List (Moment ι)} (proper : Interleaves calls moments) (id : Int) :
    ∃ kept, Kept calls table moments id kept := by
  suffices all : ∀ seen, seen <+: moments → ∃ kept, Kept calls table seen id kept from
    all moments (List.prefix_refl _)
  induction moments using List.reverseRecOn with
  | nil =>
    intro seen none
    rw [List.prefix_nil.mp none]
    exact ⟨[], .slnil, rfl, nofun⟩
  | append_singleton before moment ih =>
    intro seen part
    rcases List.prefix_concat_iff.mp part with rfl | part
    · exact exists_kept_concat proper (ih proper.of_append)
    · exact ih proper.of_append seen part

/-! ### Streams whose calls keep apart -/

/-- No call of a stream ends while a record of the stream is between reading and writing. -/
def Apart (calls : ι → Instant × StoreCall) (moments : List (Moment ι)) (id : Int) : Prop :=
  ∀ k other, (calls k).2.recorded? = some id → (calls other).2.names id = true → ¬ EndsWithin moments other k

theorem Apart.of_append {first second : List (Moment ι)} (apart : Apart calls (first ++ second) id) :
    Apart calls first id :=
  fun k other recorded named within => apart k other recorded named (within.append second)

/-- A record that ends is undisturbed where the calls of its stream keep apart. -/
theorem Apart.undisturbed {before : List (Moment ι)} {k : ι} (apart : Apart calls (before ++ [.ends k]) id)
    (recorded : (calls k).2.recorded? = some id) : Undisturbed calls before k := by
  intro own same first during split other member
  obtain rfl : own = id := Option.some.inj (same.symm.trans recorded)
  refine Bool.eq_false_iff.mpr fun named => apart k other recorded named ?_
  exact ⟨first, during, [], by rw [split, List.append_assoc, List.cons_append], member⟩

/-- The end of a call makes of the row what the call makes of it as a whole. -/
theorem Apart.row_ends {before : List (Moment ι)} {k : ι} (apart : Apart calls (before ++ [.ends k]) id)
    (proper : Interleaves calls (before ++ [.ends k])) (table : Table) :
    (after calls table (before ++ [.ends k])).table.get? id =
      ((after calls table before).table.answer (calls k).1 (calls k).2).2.get? id := by
  by_cases undisturbed : Undisturbed calls before k
  · rw [after_ends proper undisturbed]
  · have others : (calls k).2.names id = false := by
      refine Bool.eq_false_iff.mpr fun named => undisturbed fun own recorded => ?_
      obtain rfl : own = id := Decidable.byContradiction fun differ =>
        nomatch named.symm.trans (StoreCall.names_of_recorded_of_ne recorded differ)
      exact apart.undisturbed recorded own recorded
    rw [Table.get?_answer_of_not_names others, after_concat,
      get?_pass (sound_after table before) fun other is => by cases is; exact others]

/-- Reading leaves every row. -/
theorem row_reads (table : Table) (before : List (Moment ι)) (k : ι) :
    (after calls table (before ++ [.reads k])).table.get? id = (after calls table before).table.get? id := by
  rw [after_concat, get?_pass (sound_after table before) (by rintro other ⟨⟩)]

/-- A stream whose calls keep apart has the row that the calls make one after the other. -/
theorem Apart.row (apart : Apart calls moments id) (proper : Interleaves calls moments) (table : Table) :
    (after calls table moments).table.get? id = (table.serially ((ended moments).map calls)).get? id := by
  induction moments using List.reverseRecOn with
  | nil => rfl
  | append_singleton before moment ih =>
    have row := ih apart.of_append proper.of_append
    cases moment with
    | reads k =>
      have same : ended (before ++ [.reads k]) = ended before := by rw [ended_append]; exact List.append_nil _
      rw [row_reads, row, same]
    | ends k =>
      have last : ended (before ++ [.ends k]) = ended before ++ [k] := by rw [ended_append]; rfl
      rw [apart.row_ends proper, last, List.map_append, List.map_singleton, Table.serially_concat]
      exact Table.get?_answer_congr row _ _

/-- A run of failures that is over stays so while no failure ends. -/
theorem Apart.isOver {first second : List (Moment ι)} (apart : Apart calls (first ++ second) id)
    (proper : Interleaves calls (first ++ second)) {table : Table}
    (isOver : Table.IsOver id (after calls table first).table)
    (calm : ∀ k, .ends k ∈ second → (calls k).2.fails id = false) :
    Table.IsOver id (after calls table (first ++ second)).table := by
  induction second using List.reverseRecOn with
  | nil => rwa [List.append_nil]
  | append_singleton second moment ih =>
    rw [← List.append_assoc] at apart proper ⊢
    have isOver := ih apart.of_append proper.of_append fun k among => calm k (List.mem_append_left _ among)
    intro row found
    cases moment with
    | reads k =>
      rw [row_reads] at found
      exact isOver row found
    | ends k =>
      rw [apart.row_ends proper] at found
      exact Table.isOver_answer isOver (calm k (List.mem_append_right _ List.mem_cons_self)) _ row found

/-- **A stream whose calls keep apart loses none of them.** -/
structure Faithful (calls : ι → Instant × StoreCall) (table : Table) (moments : List (Moment ι)) (id : Int) :
    Prop where
  /-- its row is what all calls make of it one after the other, in the order of their ends -/
  row : (after calls table moments).table.get? id = (table.serially ((ended moments).map calls)).get? id
  /-- every failure extends the run of failures by one, up to the largest that has a place in the table,
  and is answered with it -/
  failed : ∀ before k rest status error, moments = before ++ .ends k :: rest →
    (calls k).2 = .recordFailure id status error →
    ∀ known, (after calls table before).table.find id = .ok known →
    ∃ stats, stats.consecutiveFailures.toNat = min (Table.streakOf known + 1) Row.maxStreak ∧
      (after calls table (before ++ [.ends k])).table.find id = .ok (some stats) ∧
      (after calls table (before ++ [.ends k])).told =
        (after calls table before).told ++ [⟨.recordFailure id status error, .ok stats⟩]
  /-- a run of failures that was reset is over until the next failure -/
  reset : ∀ before k rest ids, moments = before ++ .ends k :: rest → (calls k).2 = .reset ids → id ∈ ids →
    (∀ other, .ends other ∈ rest → (calls other).2.fails id = false) →
    Table.IsOver id (after calls table moments).table
  /-- the first record of the stream is not refused by the database -/
  first : ∀ before k rest, moments = before ++ .ends k :: rest → (calls k).2.recorded? = some id →
    (after calls table before).table.get? id = none →
    ∃ reply, reply ≠ .error .database ∧
      (after calls table (before ++ [.ends k])).told =
        (after calls table before).told ++ [⟨(calls k).2, reply⟩]

theorem Apart.faithful (apart : Apart calls moments id) (proper : Interleaves calls moments) (table : Table) :
    Faithful calls table moments id := by
  have atEnd {before rest : List (Moment ι)} {k : ι} (split : moments = before ++ .ends k :: rest) :
      Interleaves calls (before ++ [.ends k]) ∧ Apart calls (before ++ [.ends k]) id := by
    rw [List.append_cons] at split
    rw [split] at apart proper
    exact ⟨proper.of_append, apart.of_append⟩
  refine ⟨apart.row proper table, fun before k rest status error split is known read => ?_,
    fun before k rest ids split is named calm => ?_, fun before k rest split recorded missing => ?_⟩
  · obtain ⟨properEnd, apartEnd⟩ := atEnd split
    have recorded : (calls k).2.recorded? = some id := by rw [is]; rfl
    rw [after_ends properEnd (apartEnd.undisturbed recorded)]
    obtain ⟨stats, told, found, longer⟩ := Table.answer_recordFailure read (calls k).1 status error
    have answered (call : StoreCall) (is : call = .recordFailure id status error) :
        (⟨call, ((after calls table before).table.answer (calls k).1 call).1⟩ :
          (call : StoreCall) × call.Reply) = ⟨.recordFailure id status error, .ok stats⟩ := by
      subst is
      rw [told]
    refine ⟨stats, longer, ?_, congrArg (_ ++ [·]) (answered _ is)⟩
    rw [is]
    exact found
  · obtain ⟨properEnd, apartEnd⟩ := atEnd split
    rw [List.append_cons] at split
    rw [split] at apart proper ⊢
    refine apart.isOver proper (fun row found => ?_) calm
    rw [apartEnd.row_ends properEnd, is] at found
    exact Table.isOver_reset named _ _ row found
  · obtain ⟨properEnd, apartEnd⟩ := atEnd split
    rw [after_ends properEnd (apartEnd.undisturbed recorded)]
    exact ⟨_, Table.answer_ne_database recorded missing _, rfl⟩

/-- Calls of which no two of one stream overlap are answered as they are one after the other. -/
theorem serial_of_apart (apart : ∀ id, Apart calls moments id) (proper : Interleaves calls moments)
    (table : Table) :
    (after calls table moments).table = table.serially ((ended moments).map calls) ∧
      (after calls table moments).told = StoreCall.replies Table.answer table ((ended moments).map calls) := by
  have same {moments : List (Moment ι)} (apart : ∀ id, Apart calls moments id)
      (proper : Interleaves calls moments) :
      (after calls table moments).table = table.serially ((ended moments).map calls) :=
    SortedMap.ext_get? fun id => (apart id).row proper table
  refine ⟨same apart proper, ?_⟩
  induction moments using List.reverseRecOn with
  | nil => rfl
  | append_singleton before moment ih =>
    have earlier (id : Int) : Apart calls before id := (apart id).of_append
    have told := ih earlier proper.of_append
    cases moment with
    | reads k =>
      have ends : ended (before ++ [.reads k]) = ended before := by rw [ended_append]; exact List.append_nil _
      rw [after_concat, pass, ends, ← told]
      split <;> rfl
    | ends k =>
      have last : ended (before ++ [.ends k]) = ended before ++ [k] := by rw [ended_append]; rfl
      have undisturbed : Undisturbed calls before k := fun own recorded =>
        (apart own).undisturbed recorded own recorded
      rw [after_ends proper undisturbed, last, List.map_append, List.map_singleton,
        StoreCall.replies_concat, ← told, ← same earlier proper.of_append]

/-- **What comes of calls that overlap.** -/
structure Outcome (calls : ι → Instant × StoreCall) (table : Table) (moments : List (Moment ι)) : Prop where
  /-- every row is what some of the calls make of it, and those that are lost overlapped -/
  kept : ∀ id, ∃ kept, Kept calls table moments id kept
  /-- a stream whose calls keep apart loses none -/
  faithful : ∀ id, Apart calls moments id → Faithful calls table moments id
  /-- if the calls of every stream do, table and answers are those of the calls one after the other -/
  serial : (∀ id, Apart calls moments id) →
    (after calls table moments).table = table.serially ((ended moments).map calls) ∧
    (after calls table moments).told = StoreCall.replies Table.answer table ((ended moments).map calls)

/-- **Calls lose nothing to calls of other streams**, whatever the order of their moments. Of calls of
one stream that overlap, some may be lost as a whole. -/
theorem outcome_after (proper : Interleaves calls moments) (table : Table) : Outcome calls table moments where
  kept := exists_kept table proper
  faithful _ apart := apart.faithful proper table
  serial apart := serial_of_apart apart proper table

/-- Two probes of streams 7 and 3 at a time, and a reset between their ends. -/
def beside : Fin 3 → Instant × StoreCall := fun k =>
  (.ofParts 100 0, match k with
    | 0 => .recordFailure 7 .failed none
    | 1 => .recordFailure 3 .timeout none
    | 2 => .reset [7])

def besideMoments : List (Moment (Fin 3)) := [.reads 0, .reads 1, .ends 0, .ends 2, .ends 1]

theorem interleaves_beside : Interleaves beside besideMoments := by
  unfold Interleaves
  decide

/-- The reset and the failure that end between the moments of the other failure are of another stream. -/
theorem apart_beside (id : Int) : Apart beside besideMoments id := by
  intro k other recorded named
  rintro ⟨before, during, rest, split, member⟩
  simp only [besideMoments, List.append_assoc, List.cons_append, List.cons_eq_append_iff,
    List.cons.injEq, reads.injEq, reduceCtorEq, false_and, and_false, List.append_eq_nil_iff, and_self,
    List.nil_eq, exists_const, or_self, or_false, ↓existsAndEq, true_and] at split
  rcases split with ⟨-, rfl, split⟩ | ⟨-, rfl, split⟩
  · -- stream 7, with nothing but a reading in between
    obtain ⟨rfl, -⟩ : during = [.reads 1] ∧ rest = [.ends 2, .ends 1] := by
      simpa [List.append_eq_cons_iff, List.cons_eq_append_iff] using split
    simp at member
  · cases recorded
    obtain ⟨rfl, -⟩ : during = [.ends 0, .ends 2] ∧ rest = [] := by
      simpa [List.append_eq_cons_iff, List.cons_eq_append_iff] using split
    rcases List.mem_cons.mp member with same | last
    · cases same
      simp [beside, StoreCall.names, StoreCall.probes, StoreCall.endsRun] at named
    · cases List.mem_singleton.mp last
      simp [beside, StoreCall.names, StoreCall.probes, StoreCall.endsRun] at named

/-- **Probes beside each other and a reset**: each stream has what its own calls made of it. -/
theorem outcome_beside : Interleaves beside besideMoments ∧ (∀ id, Apart beside besideMoments id) ∧
    Outcome beside .empty besideMoments ∧
    ((after beside .empty besideMoments).table.get? 7).map (·.streak) = some (.integer 0) ∧
    ((after beside .empty besideMoments).table.get? 3).map (·.streak) = some (.integer 1) :=
  ⟨interleaves_beside, apart_beside, outcome_after interleaves_beside .empty, by decide, by decide⟩

/-- Two failures of one stream at a time. -/
def twice : Bool → Instant × StoreCall := fun _ => (.ofParts 100 0, .recordFailure 7 .failed none)

def twiceMoments : List (Moment Bool) := [.reads false, .reads true, .ends false, .ends true]

theorem interleaves_twice : Interleaves twice twiceMoments := by
  unfold Interleaves
  decide

/-- **Not every order of moments is as good as an order of the calls**, and not every failure extends a
run of failures: of two failures at a time one is lost, and refused by the database if they are the
first of the stream; and the longest run of failures stays as it is. -/
theorem not_forall_serial :
    (¬ ∀ moments, Interleaves twice moments → ∃ order : List Bool, order.Perm (ended moments) ∧
      (after twice .empty moments).table = Table.serially .empty (order.map twice)) ∧
    (after twice .empty twiceMoments).told.getLast? =
      some ⟨.recordFailure 7 .failed none, .error .database⟩ ∧
    ¬ ∀ (table : Table) (known : StreamStats), table.find 7 = .ok (some known) →
      ∃ stats, (table.answer default (.recordFailure 7 .failed none)).1 = .ok stats ∧
        stats.consecutiveFailures.toNat = known.consecutiveFailures.toNat + 1 := by
  refine ⟨fun all => ?_, rfl, fun all => ?_⟩
  · obtain ⟨order, perm, same⟩ := all twiceMoments interleaves_twice
    obtain ⟨first, second, rfl⟩ := List.length_eq_two.mp perm.length_eq
    have same : (after twice .empty twiceMoments).table =
        Table.serially .empty [twice true, twice true] := same
    have streak := congrArg (fun table : Table => (table.get? 7).map (·.streak)) same
    exact absurd streak (by decide)
  · let row := Row.rowOf { StreamStats.blank 7 .failed default with consecutiveFailures := 2147483647 }
    obtain ⟨stats, told, longer⟩ := all (SortedMap.insert .empty 7 row) _ rfl
    cases told
    exact absurd longer (by decide)

end Traffic
end StreamWatch
