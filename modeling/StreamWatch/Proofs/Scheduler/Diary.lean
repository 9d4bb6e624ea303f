/-
**When tasks are started.**

A diary is a scheduler together with the marks an onlooker makes beside it: one when a task is
registered and one whenever a task starts, with the time that was stamped on it. Between the marks,
executions end and tasks are allowed to start by themselves or no longer. A check looks for the tasks
that are due at a time and starts them one after the other, each with a stamp of its own; the look and
the starts are one turn.

* `Checked`: what a check starts, and what it leaves alone (`checked_check`);
* `Orderly`: the invariant that ties the marks to the scheduler (`orderly_after`);
* `Punctual`, `punctual_after`: what it says about any turns under a clock that does not go back: every
  check starts what its timing calls for since its last mark, no point at which a timing fires is served
  twice, and one that passes while the task is running is served by the first check afterwards.
-/

import Mathlib.Data.List.Induction
import StreamWatch.Proofs.Scheduler.Requests
import StreamWatch.Proofs.Task.Timing

namespace StreamWatch

/-! ### Diaries -/

/-- What a mark is made for. -/
inductive Cause where
  /-- the task was registered -/
  | registered
  /-- the task started when it was asked to -/
  | asked
  /-- the task started because a check found it due at a time -/
  | due (now : Instant)
deriving DecidableEq

/-- That a task was registered, or that it started. -/
structure Mark where
  task : String
  time : Instant
  cause : Cause
deriving DecidableEq

/-- The time of the last mark of a task. -/
def Mark.last? (marks : List Mark) (id : String) : Option Instant :=
  ((marks.filter (·.task = id)).getLast?).map (·.time)

/-- A scheduler, and the marks an onlooker makes beside it. -/
structure Diary where
  scheduler : Scheduler := {}
  marks : List Mark := []

/-- What is done to a scheduler. -/
inductive Turn where
  | register (now : Instant) (id : String) (timing : Timing) (isEnabled : Bool)
  /-- a check for the tasks that are due at a time, each of which starts with a stamp -/
  | check (now : Instant) (stampOf : String → Instant)
  | trigger (stamp : Instant) (id : String)
  /-- an execution ends -/
  | finish (result : TaskResult)
  | setEnabled (id : String) (isEnabled : Bool)

/-- The times that a turn shows: the time of a check, and every stamp. -/
def Turn.Shows : Turn → Instant → Prop
  | register now _ _ _, t => t = now
  | check now stampOf, t => t = now ∨ ∃ id, t = stampOf id
  | trigger stamp _, t => t = stamp
  | finish _, _ => False
  | setEnabled _ _, _ => False

/-- Whether a turn may start a task. -/
def Turn.MayStart : Turn → String → Prop
  | check _ _, _ => True
  | trigger _ other, id => other = id
  | register .., _ | finish _, _ | setEnabled _ _, _ => False

/-- Whether a turn ends an execution of a task. -/
def Turn.Ends : Turn → String → Prop
  | finish result, id => result.taskId = id
  | register .., _ | check _ _, _ | trigger _ _, _ | setEnabled _ _, _ => False

/-- The stamps of a turn, which the clock shows while it is taken. -/
def Turn.Stamps : Turn → Instant → Prop
  | check _ stampOf, t => ∃ id, t = stampOf id
  | turn, t => turn.Shows t

/-- **The clock does not go back**: from one turn to the next, nor from the time of a check to the
stamps of the tasks it starts. -/
structure Timely (turns : List Turn) : Prop where
  plain : ∀ turn ∈ turns, ∀ t, turn.Stamps t → t.IsPlain
  ordered : turns.Pairwise fun earlier later => ∀ s t, earlier.Shows s → later.Shows t → s ≤ t
  stamped : ∀ now stampOf, .check now stampOf ∈ turns → ∀ id, now ≤ stampOf id

theorem Timely.of_append {before rest : List Turn} (timely : Timely (before ++ rest)) : Timely before :=
  ⟨fun turn among => timely.plain turn (List.mem_append_left _ among),
    (List.pairwise_append.mp timely.ordered).1,
    fun now stampOf among => timely.stamped now stampOf (List.mem_append_left _ among)⟩

namespace Diary

open Scheduler

/-- The diary after a request that may be refused, with the marks to make if it is not. -/
def request (diary : Diary) (marks : List Mark) : Except SchedulingError Scheduler → Diary
  | .ok scheduler => ⟨scheduler, diary.marks ++ marks⟩
  | .error _ => diary

/-- The diary after an attempt to start a task. -/
def start (diary : Diary) (stamp : Instant) (id : String) (cause : Cause) : Diary :=
  diary.request [⟨id, stamp, cause⟩] (diary.scheduler.start stamp id)

/-- The diary after attempts to start the tasks that a check has found. -/
def startEach (diary : Diary) (now : Instant) (stampOf : String → Instant) (found : List String) : Diary :=
  found.foldl (fun diary id => diary.start (stampOf id) id (.due now)) diary

/-- The diary after a turn. -/
def perform (diary : Diary) : Turn → Diary
  | .register now id timing isEnabled =>
    diary.request [⟨id, now, .registered⟩] (diary.scheduler.register now id timing isEnabled)
  | .check now stampOf => diary.startEach now stampOf (diary.scheduler.due now)
  | .trigger stamp id => diary.start stamp id .asked
  | .finish result => { diary with scheduler := diary.scheduler.finish result }
  | .setEnabled id isEnabled => diary.request [] (diary.scheduler.setEnabled id isEnabled)

/-- The diary after some turns. -/
def after (turns : List Turn) : Diary := turns.foldl perform {}

theorem after_append (before turns : List Turn) :
    after (before ++ turns) = turns.foldl perform (after before) := List.foldl_append

theorem after_concat (turns : List Turn) (turn : Turn) :
    after (turns ++ [turn]) = (after turns).perform turn := by
  rw [after_append, List.foldl_cons, List.foldl_nil]

/-! ### The last mark of a task -/

open Mark (last?)

theorem last?_concat_self (marks : List Mark) (mark : Mark) :
    last? (marks ++ [mark]) mark.task = some mark.time := by
  simp [last?]

theorem last?_concat_of_ne (marks : List Mark) {mark : Mark} {id : String} (differ : mark.task ≠ id) :
    last? (marks ++ [mark]) id = last? marks id := by
  simp [last?, differ]

/-- The marks of a task have times in order, one after the other. -/
def InOrder (marks : List Mark) : Prop :=
  marks.Pairwise fun earlier later => earlier.task = later.task → earlier.time ≤ later.time

/-- The last mark of a task is a mark, and no mark of the task is later. -/
theorem last?_spec {marks : List Mark} (ordered : InOrder marks) {id : String} {time : Instant}
    (last : last? marks id = some time) :
    (∃ mark ∈ marks, mark.task = id ∧ mark.time = time) ∧
      ∀ mark ∈ marks, mark.task = id → mark.time ≤ time := by
  obtain ⟨newest, found, rfl⟩ := Option.map_eq_some_iff.mp last
  obtain ⟨older, split⟩ := List.getLast?_eq_some_iff.mp found
  have among {mark : Mark} : mark ∈ marks ∧ mark.task = id ↔ mark ∈ older ++ [newest] := by
    rw [← split, List.mem_filter, decide_eq_true_eq]
  obtain ⟨member, task⟩ := among.mpr (List.mem_append_right _ List.mem_cons_self)
  refine ⟨⟨newest, member, task, rfl⟩, fun mark there same => ?_⟩
  rcases List.mem_append.mp (among.mp ⟨there, same⟩) with earlier | itself
  · have pairs := ordered.filter (·.task = id)
    rw [split] at pairs
    exact (List.pairwise_append.mp pairs).2.2 mark earlier newest List.mem_cons_self (same.trans task.symm)
  · rw [List.mem_singleton.mp itself]
    exact Instant.le_refl _

/-! ### What is due, and what a start does -/

theorem isDue_iff {entry : Entry} {now : Instant} (ranged : entry.base.inRange = true) :
    entry.isDue now = true ↔
      entry.isEnabled = true ∧ entry.state ≠ .running ∧ entry.timing.FiresBy entry.base now := by
  rw [Entry.isDue, Entry.next?, Bool.and_eq_true, bne_iff_ne]
  by_cases enabled : entry.isEnabled = true
  · rw [if_pos enabled, (Timing.isFirst_next? entry.timing ranged).any_le_iff]
    exact ⟨fun due => ⟨enabled, due⟩, fun due => due.2⟩
  · rw [if_neg enabled]
    exact iff_of_false (fun due => nomatch due.2) fun due => enabled due.1

theorem mem_due {scheduler : Scheduler} {now : Instant} {id : String} :
    id ∈ scheduler.due now ↔
      ∃ entry, scheduler.entries.get? id = some entry ∧ entry.isDue now = true := by
  simp only [due, SortedMap.mem_keys, SortedMap.get?_filter, Option.filter_eq_some_iff]

variable {diary : Diary}

/-- A start of a task that is not running is granted. -/
theorem start_of_idle {id : String} {entry : Entry} (found : diary.scheduler.entries.get? id = some entry)
    (idle : entry.state ≠ .running) (stamp : Instant) (cause : Cause) :
    diary.start stamp id cause =
      ⟨diary.scheduler.write id { entry with state := .running, lastRun := some stamp },
        diary.marks ++ [⟨id, stamp, cause⟩]⟩ := by
  rw [start, Scheduler.start_eq_ok_iff.mpr ⟨entry, found, idle, rfl⟩, request]

/-- A granted request to start a task is about one that is not running. -/
theorem start_cases (diary : Diary) (stamp : Instant) (id : String) (cause : Cause) :
    diary.start stamp id cause = diary ∨
      ∃ entry, diary.scheduler.entries.get? id = some entry ∧ entry.state ≠ .running ∧
        diary.start stamp id cause =
          ⟨diary.scheduler.write id { entry with state := .running, lastRun := some stamp },
            diary.marks ++ [⟨id, stamp, cause⟩]⟩ := by
  unfold start
  cases started : diary.scheduler.start stamp id with
  | error error => exact .inl rfl
  | ok scheduler =>
    obtain ⟨entry, found, idle, rfl⟩ := Scheduler.start_eq_ok_iff.mp started
    exact .inr ⟨entry, found, idle, rfl⟩

/-- The mark of a task that a check starts. -/
def found (now : Instant) (stampOf : String → Instant) (id : String) : Mark := ⟨id, stampOf id, .due now⟩

/-- **Starting tasks that are not running** makes a mark for each and changes nothing else. -/
theorem startEach_spec (now : Instant) (stampOf : String → Instant) {ids : List String}
    (distinct : ids.Nodup)
    (idle : ∀ id ∈ ids, ∃ entry, diary.scheduler.entries.get? id = some entry ∧ entry.state ≠ .running) :
    (diary.startEach now stampOf ids).marks = diary.marks ++ ids.map (found now stampOf) ∧
      (∀ id ∈ ids, ∀ entry, diary.scheduler.entries.get? id = some entry →
        (diary.startEach now stampOf ids).scheduler.entries.get? id =
          some { entry with state := .running, lastRun := some (stampOf id) }) ∧
      ∀ id, id ∉ ids →
        (diary.startEach now stampOf ids).scheduler.entries.get? id = diary.scheduler.entries.get? id := by
  induction ids generalizing diary with
  | nil => exact ⟨(List.append_nil _).symm, nofun, fun _ _ => rfl⟩
  | cons first rest ih =>
    obtain ⟨fresh, distinct⟩ := List.nodup_cons.mp distinct
    obtain ⟨entry, there, notRunning⟩ := idle first List.mem_cons_self
    have begun := start_of_idle there notRunning (stampOf first) (.due now)
    have kept {id : String} (differ : id ≠ first) :
        (diary.start (stampOf first) first (.due now)).scheduler.entries.get? id =
          diary.scheduler.entries.get? id := by
      rw [begun]
      exact get?_write_of_ne differ _
    have others {id : String} (among : id ∈ rest) : id ≠ first := fun same => fresh (same ▸ among)
    obtain ⟨marks, started, left⟩ := @ih (diary.start (stampOf first) first (.due now)) distinct
      fun id among => by
        rw [kept (others among)]
        exact idle id (List.mem_cons_of_mem _ among)
    refine ⟨?_, fun id among known thereToo => ?_, fun id outside => ?_⟩
    · rw [startEach, List.foldl_cons, ← startEach, marks, begun, List.map_cons, List.append_assoc]
      rfl
    · rw [startEach, List.foldl_cons, ← startEach]
      rcases List.mem_cons.mp among with rfl | later
      · rw [left id fresh, begun, get?_write_self, Option.some.inj (there.symm.trans thereToo)]
      · exact started id later known ((kept (others later)).trans thereToo)
    · rw [startEach, List.foldl_cons, ← startEach, left id fun among => outside (List.mem_cons_of_mem _ among)]
      exact kept fun same => outside (same ▸ List.mem_cons_self)

/-! ### What the marks say about the scheduler -/

/-- Something holds of every mark and those before it. -/
def Throughout (marks : List Mark) (property : List Mark → Mark → Prop) : Prop :=
  ∀ before mark rest, marks = before ++ mark :: rest → property before mark

theorem throughout_concat {marks : List Mark} {mark : Mark} {property : List Mark → Mark → Prop}
    (throughout : Throughout marks property) (last : property marks mark) :
    Throughout (marks ++ [mark]) property := by
  intro before other rest split
  rcases List.eq_nil_or_concat rest with rfl | ⟨rest, final, rfl⟩
  · obtain ⟨rfl, same⟩ := List.append_inj' split rfl
    cases same
    exact last
  · rw [List.concat_eq_append, ← List.cons_append, ← List.append_assoc] at split
    exact throughout before other rest (List.append_inj' split rfl).1

/-- **The marks and the scheduler agree.** -/
structure Orderly (diary : Diary) : Prop where
  /-- a task counts from its last mark -/
  based : ∀ id, last? diary.marks id = (diary.scheduler.entries.get? id).map Entry.base
  plain : ∀ mark ∈ diary.marks, mark.time.IsPlain
  ordered : InOrder diary.marks
  /-- a task that a check started was due -/
  served : Throughout diary.marks fun before mark => ∀ now, mark.cause = .due now →
    ∃ entry base, diary.scheduler.entries.get? mark.task = some entry ∧
      last? before mark.task = some base ∧ entry.timing.FiresBy base now ∧ now ≤ mark.time

theorem orderly_fresh : Orderly {} where
  based _ := rfl
  plain := nofun
  ordered := .nil
  served before mark rest split := absurd split (by simp)

/-- A registered task has a last mark, which is plain and no earlier than its other marks. -/
theorem Orderly.base_spec (orderly : diary.Orderly) {id : String} {entry : Entry}
    (found : diary.scheduler.entries.get? id = some entry) :
    last? diary.marks id = some entry.base ∧ entry.base.IsPlain ∧
      ∀ mark ∈ diary.marks, mark.task = id → mark.time ≤ entry.base := by
  have last := orderly.based id
  rw [found, Option.map_some] at last
  obtain ⟨⟨mark, member, -, time⟩, latest⟩ := last?_spec orderly.ordered last
  exact ⟨last, time ▸ orderly.plain mark member, latest⟩

/-- There are no marks of a task that is not registered. -/
theorem Orderly.not_mem_of_missing (orderly : diary.Orderly) {id : String}
    (missing : diary.scheduler.entries.get? id = none) : ∀ mark ∈ diary.marks, mark.task ≠ id := by
  intro mark member same
  have last := orderly.based id
  rw [missing, Option.map_none, last?, Option.map_eq_none_iff, List.getLast?_eq_none_iff] at last
  exact List.filter_eq_nil_iff.mp last mark member (decide_eq_true same)

/-- What a task goes by: its timing, and the point from which its next start counts. -/
def plan (entry : Entry) : Timing × Instant := (entry.timing, entry.base)

/-- The marks go on agreeing with a scheduler in which the tasks go by the same. -/
theorem Orderly.of_plans (orderly : diary.Orderly) {scheduler : Scheduler}
    (same : ∀ id, (scheduler.entries.get? id).map plan = (diary.scheduler.entries.get? id).map plan) :
    Orderly { diary with scheduler } := by
  refine { orderly with based := fun id => ?_, served := fun before mark rest split now cause => ?_ }
  · have bases := congrArg (Option.map Prod.snd) (same id)
    rw [Option.map_map, Option.map_map] at bases
    exact (orderly.based id).trans bases.symm
  · obtain ⟨entry, base, found, served⟩ := orderly.served before mark rest split now cause
    have kept := same mark.task
    rw [found, Option.map_some] at kept
    obtain ⟨later, there, plans⟩ := Option.map_eq_some_iff.mp kept
    have timing : later.timing = entry.timing := congrArg Prod.fst plans
    exact ⟨later, base, there, timing ▸ served⟩

/-- **A new mark agrees with the scheduler** when it is made for a task that then counts from it and
keeps its timing, and is no earlier than the other marks of that task; and if it is made for a check,
the task was due. -/
theorem Orderly.write (orderly : diary.Orderly) (mark : Mark) {entry : Entry}
    (based : entry.base = mark.time) (plain : mark.time.IsPlain)
    (late : ∀ other ∈ diary.marks, other.task = mark.task → other.time ≤ mark.time)
    (timing : ∀ old, diary.scheduler.entries.get? mark.task = some old → entry.timing = old.timing)
    (due : ∀ now, mark.cause = .due now → ∃ base, last? diary.marks mark.task = some base ∧
      entry.timing.FiresBy base now ∧ now ≤ mark.time) :
    Orderly ⟨diary.scheduler.write mark.task entry, diary.marks ++ [mark]⟩ where
  based id := by
    by_cases same : mark.task = id
    · subst same
      rw [last?_concat_self, get?_write_self, Option.map_some, based]
    · rw [last?_concat_of_ne _ same, get?_write_of_ne (Ne.symm same)]
      exact orderly.based id
  plain other member := by
    rcases List.mem_append.mp member with old | new
    · exact orderly.plain other old
    · exact List.mem_singleton.mp new ▸ plain
  ordered := by
    refine List.pairwise_append.mpr ⟨orderly.ordered, List.pairwise_singleton _ _, fun other old new is => ?_⟩
    rw [List.mem_singleton.mp is]
    exact late other old
  served := by
    refine throughout_concat (fun before other rest split now cause => ?_) fun now cause => ?_
    · obtain ⟨old, base, found, last, served⟩ := orderly.served before other rest split now cause
      by_cases same : other.task = mark.task
      · rw [same] at found last ⊢
        exact ⟨entry, base, get?_write_self _ _ _, last, timing old found ▸ served⟩
      · exact ⟨old, base, (get?_write_of_ne same _).trans found, last, served⟩
    · obtain ⟨base, last, served⟩ := due now cause
      exact ⟨entry, base, get?_write_self _ _ _, last, served⟩

/-! ### Turns -/

theorem mem_of_request {marks : List Mark} {reply : Except SchedulingError Scheduler} {mark : Mark}
    (member : mark ∈ (diary.request marks reply).marks) : mark ∈ diary.marks ∨ mark ∈ marks := by
  cases reply with
  | error error => exact .inl member
  | ok scheduler => exact List.mem_append.mp member

/-- The marks that a turn makes have times that it shows. -/
theorem shown_perform {turn : Turn} {mark : Mark} (member : mark ∈ (diary.perform turn).marks) :
    mark ∈ diary.marks ∨ turn.Shows mark.time := by
  cases turn with
  | register now id timing isEnabled =>
    refine (mem_of_request member).imp_right fun new => ?_
    rw [List.mem_singleton.mp new]
    exact (rfl : now = now)
  | check now stampOf =>
    simp only [perform, startEach] at member
    generalize diary.scheduler.due now = ids at member
    induction ids generalizing diary with
    | nil => exact .inl member
    | cons id rest ih =>
      rcases ih member with before | shows
      · refine (mem_of_request before).imp_right fun new => .inr ⟨id, ?_⟩
        rw [List.mem_singleton.mp new]
      · exact .inr shows
  | trigger stamp id =>
    refine (mem_of_request member).imp_right fun new => ?_
    rw [List.mem_singleton.mp new]
    exact (rfl : stamp = stamp)
  | finish result => exact .inl member
  | setEnabled id isEnabled => exact (mem_of_request member).imp_right nofun

/-- The time of a mark was shown by a turn. -/
theorem shown_after (turns : List Turn) : ∀ mark ∈ (after turns).marks, ∃ turn ∈ turns, turn.Shows mark.time := by
  induction turns using List.reverseRecOn with
  | nil => exact nofun
  | append_singleton turns turn ih =>
    intro mark member
    rw [after_concat] at member
    rcases shown_perform member with before | now
    · obtain ⟨earlier, among, shows⟩ := ih mark before
      exact ⟨earlier, List.mem_append_left _ among, shows⟩
    · exact ⟨turn, List.mem_append_right _ List.mem_cons_self, now⟩

/-- A start keeps the marks in agreement when its stamp is not before the point from which the task
counts, and a check makes it only of a task that is due. -/
theorem Orderly.start (orderly : diary.Orderly) {stamp : Instant} {id : String} {cause : Cause}
    (plain : stamp.IsPlain)
    (late : ∀ entry, diary.scheduler.entries.get? id = some entry → entry.base ≤ stamp)
    (due : ∀ now, cause = .due now → ∀ entry, diary.scheduler.entries.get? id = some entry →
      entry.timing.FiresBy entry.base now ∧ now ≤ stamp) :
    (diary.start stamp id cause).Orderly := by
  rcases start_cases diary stamp id cause with same | ⟨entry, found, -, same⟩
  · rw [same]
    exact orderly
  · rw [same]
    obtain ⟨last, -, latest⟩ := orderly.base_spec found
    refine orderly.write ⟨id, stamp, cause⟩ rfl plain (fun other member task => ?_)
      (fun old there => ?_) fun now is => ⟨entry.base, last, due now is entry found⟩
    · exact Instant.le_trans (latest other member task) (late entry found)
    · rw [Option.some.inj (found.symm.trans there)]

/-- The starts of a check keep the marks in agreement. -/
theorem Orderly.startEach (orderly : diary.Orderly) {now : Instant} {stampOf : String → Instant}
    {ids : List String} (distinct : ids.Nodup) (plain : ∀ id, (stampOf id).IsPlain)
    (stamped : ∀ id, now ≤ stampOf id)
    (due : ∀ id ∈ ids, ∀ entry, diary.scheduler.entries.get? id = some entry →
      entry.timing.FiresBy entry.base now) :
    (diary.startEach now stampOf ids).Orderly := by
  induction ids generalizing diary with
  | nil => exact orderly
  | cons first rest ih =>
    obtain ⟨fresh, distinct⟩ := List.nodup_cons.mp distinct
    have firstDue := due first List.mem_cons_self
    refine ih (orderly.start (plain first) (fun entry found => ?_) fun now' is entry found => ?_) distinct
      fun id among entry found => ?_
    · obtain ⟨t, fires, past⟩ := firstDue entry found
      exact Instant.le_trans (Instant.le_of_lt fires.after) (Instant.le_trans past (stamped first))
    · cases is
      exact ⟨firstDue entry found, stamped first⟩
    · -- the other tasks go on as they were
      have differ : id ≠ first := fun same => fresh (same ▸ among)
      refine due id (List.mem_cons_of_mem _ among) entry ?_
      simp only at found
      rcases start_cases diary (stampOf first) first (.due now) with same | ⟨old, -, -, same⟩
      · exact same ▸ found
      · rw [same] at found
        exact (get?_write_of_ne differ _).symm.trans found

theorem Orderly.isDue_iff (orderly : diary.Orderly) {id : String} {entry : Entry} {now : Instant}
    (found : diary.scheduler.entries.get? id = some entry) :
    entry.isDue now = true ↔
      entry.isEnabled = true ∧ entry.state ≠ .running ∧ entry.timing.FiresBy entry.base now :=
  Diary.isDue_iff (orderly.base_spec found).2.1.ranged

theorem due_nodup (scheduler : Scheduler) (now : Instant) : (scheduler.due now).Nodup :=
  SortedMap.keys_nodup _

/-- **The marks agree with the scheduler** after any turns under a clock that does not go back. -/
theorem orderly_after {turns : List Turn} (timely : Timely turns) : (after turns).Orderly := by
  induction turns using List.reverseRecOn with
  | nil => exact orderly_fresh
  | append_singleton turns turn ih =>
    have member : turn ∈ turns ++ [turn] := List.mem_append_right _ List.mem_cons_self
    obtain ⟨earlier, -, apart⟩ := List.pairwise_append.mp timely.ordered
    have orderly := ih
      ⟨fun other among => timely.plain other (List.mem_append_left _ among), earlier,
        fun now stampOf among => timely.stamped now stampOf (List.mem_append_left _ among)⟩
    rw [after_concat]
    cases turn with
    | register now id timing isEnabled =>
      simp only [perform]
      cases granted : (after turns).scheduler.register now id timing isEnabled with
      | error error => exact orderly
      | ok scheduler =>
        obtain ⟨missing, rfl⟩ := eq_of_register granted
        refine orderly.write ⟨id, now, .registered⟩ rfl (timely.plain _ member _ rfl)
          (fun other there same => absurd same (orderly.not_mem_of_missing missing other there))
          (fun old there => ?_) nofun
        exact nomatch missing.symm.trans there
    | check now stampOf =>
      refine orderly.startEach (due_nodup _ _) (fun id => timely.plain _ member _ ⟨id, rfl⟩)
        (timely.stamped now stampOf member) fun id among entry found => ?_
      obtain ⟨other, there, due⟩ := mem_due.mp among
      cases found.symm.trans there
      exact ((orderly.isDue_iff found).mp due).2.2
    | trigger stamp id =>
      refine orderly.start (timely.plain _ member _ rfl) (fun entry found => ?_) nofun
      obtain ⟨last, -, -⟩ := orderly.base_spec found
      obtain ⟨⟨mark, there, -, time⟩, -⟩ := last?_spec orderly.ordered last
      obtain ⟨turn, among, shows⟩ := shown_after turns mark there
      exact apart turn among _ List.mem_cons_self _ _ (time ▸ shows) rfl
    | finish result =>
      refine orderly.of_plans fun id => ?_
      by_cases same : id = result.taskId
      · subst same
        cases found : (after turns).scheduler.entries.get? result.taskId with
        | none =>
          rw [finish, SortedMap.get?_modify, found]
          rfl
        | some entry =>
          rw [get?_finish_self result found]
          rfl
      · rw [get?_finish_of_ne result same]
    | setEnabled id isEnabled =>
      simp only [perform]
      cases granted : (after turns).scheduler.setEnabled id isEnabled with
      | error error => exact orderly
      | ok scheduler =>
        obtain ⟨entry, found, rfl⟩ := eq_of_setEnabled granted
        rw [request, List.append_nil]
        refine orderly.of_plans fun other => ?_
        by_cases same : other = id
        · rw [same, get?_write_self, found]
          rfl
        · rw [get?_write_of_ne same]

/-! ### What a check does -/

/-- **What a check starts**: in ascending order, the tasks that may start by themselves, are not running
and whose timing fires after their last mark and by the time of the check. Each has a mark and is
running from its stamp on; all others are as they were. -/
structure Checked (diary : Diary) (now : Instant) (stampOf : String → Instant) : Prop where
  ascending : (diary.scheduler.due now).Pairwise (· < ·)
  due_iff : ∀ id, id ∈ diary.scheduler.due now ↔
    ∃ entry base, diary.scheduler.entries.get? id = some entry ∧ entry.isEnabled = true ∧
      entry.state ≠ .running ∧ last? diary.marks id = some base ∧ entry.timing.FiresBy base now
  marks : (diary.perform (.check now stampOf)).marks =
    diary.marks ++ (diary.scheduler.due now).map (found now stampOf)
  started : ∀ id ∈ diary.scheduler.due now, ∀ entry, diary.scheduler.entries.get? id = some entry →
    (diary.perform (.check now stampOf)).scheduler.entries.get? id =
      some { entry with state := .running, lastRun := some (stampOf id) }
  others : ∀ id, id ∉ diary.scheduler.due now →
    (diary.perform (.check now stampOf)).scheduler.entries.get? id = diary.scheduler.entries.get? id

/-- A task that is due is not running. -/
theorem idle_of_due {now : Instant} : ∀ id ∈ diary.scheduler.due now,
    ∃ entry, diary.scheduler.entries.get? id = some entry ∧ entry.state ≠ .running := by
  intro id among
  obtain ⟨entry, found, due⟩ := mem_due.mp among
  rw [Entry.isDue, Bool.and_eq_true, bne_iff_ne] at due
  exact ⟨entry, found, due.1⟩

theorem checked_check (orderly : diary.Orderly) (now : Instant) (stampOf : String → Instant) :
    diary.Checked now stampOf := by
  obtain ⟨marks, started, others⟩ := startEach_spec now stampOf (due_nodup diary.scheduler now)
    idle_of_due
  refine ⟨SortedMap.keys_pairwise _, fun id => ?_, marks, started, others⟩
  rw [mem_due]
  refine exists_congr fun entry => ?_
  constructor
  · rintro ⟨found, due⟩
    obtain ⟨isEnabled, idle, fires⟩ := (orderly.isDue_iff found).mp due
    exact ⟨entry.base, found, isEnabled, idle, (orderly.base_spec found).1, fires⟩
  · rintro ⟨base, found, isEnabled, idle, last, fires⟩
    cases (orderly.base_spec found).1.symm.trans last
    exact ⟨found, (orderly.isDue_iff found).mpr ⟨isEnabled, idle, fires⟩⟩

/-! ### A task that is running, and after it -/

/-- Turns that do not start a task leave what it goes by, and its state unless they end its execution. -/
theorem entry_perform {id : String} {entry : Entry} (found : diary.scheduler.entries.get? id = some entry)
    (turn : Turn) (held : entry.state = .running ∨ ¬ turn.MayStart id) :
    ∃ later, (diary.perform turn).scheduler.entries.get? id = some later ∧ plan later = plan entry ∧
      (later.state = entry.state ∨ turn.Ends id ∧ later.state ≠ .running) := by
  cases turn with
  | register now other timing isEnabled =>
    refine ⟨entry, ?_, rfl, .inl rfl⟩
    simp only [perform]
    cases granted : diary.scheduler.register now other timing isEnabled with
    | error error => exact found
    | ok scheduler =>
      obtain ⟨missing, rfl⟩ := eq_of_register granted
      have differ : id ≠ other := fun same => by
        rw [same, missing] at found
        exact nomatch found
      exact (get?_write_of_ne differ _).trans found
  | check now stampOf =>
    have running : entry.state = .running := held.resolve_right (not_not_intro trivial)
    refine ⟨entry, ?_, rfl, .inl rfl⟩
    have outside : id ∉ diary.scheduler.due now := fun among => by
      obtain ⟨other, there, idle⟩ := idle_of_due id among
      cases found.symm.trans there
      exact idle running
    exact ((startEach_spec now stampOf (due_nodup _ _) idle_of_due).2.2 id outside).trans found
  | trigger stamp other =>
    refine ⟨entry, ?_, rfl, .inl rfl⟩
    simp only [perform]
    rcases start_cases diary stamp other .asked with same | ⟨old, there, idle, same⟩
    · rw [same]
      exact found
    · rw [same]
      refine (get?_write_of_ne (fun is => ?_) _).trans found
      subst is
      cases found.symm.trans there
      exact held.elim idle fun free => free rfl
  | finish result =>
    by_cases same : id = result.taskId
    · subst same
      exact ⟨_, get?_finish_self result found, rfl, .inr ⟨rfl, result.finalState_ne_running⟩⟩
    · exact ⟨entry, (get?_finish_of_ne result same).trans found, rfl, .inl rfl⟩
  | setEnabled other isEnabled =>
    simp only [perform]
    cases granted : diary.scheduler.setEnabled other isEnabled with
    | error error => exact ⟨entry, found, rfl, .inl rfl⟩
    | ok scheduler =>
      obtain ⟨old, there, rfl⟩ := eq_of_setEnabled granted
      by_cases same : id = other
      · subst same
        cases found.symm.trans there
        exact ⟨_, get?_write_self _ _ _, rfl, .inl rfl⟩
      · exact ⟨entry, (get?_write_of_ne same _).trans found, rfl, .inl rfl⟩

/-- A task is running until its execution ends. -/
theorem entry_of_running {id : String} {entry : Entry}
    (found : diary.scheduler.entries.get? id = some entry) (running : entry.state = .running)
    {turns : List Turn} (goesOn : ∀ turn ∈ turns, ¬ turn.Ends id) :
    ∃ later, (turns.foldl perform diary).scheduler.entries.get? id = some later ∧
      plan later = plan entry ∧ later.state = .running := by
  induction turns generalizing diary entry with
  | nil => exact ⟨entry, found, rfl, running⟩
  | cons turn rest ih =>
    obtain ⟨next, there, same, state⟩ := entry_perform found turn (.inl running)
    have still : next.state = .running := by
      rcases state with as | ended
      · exact as.trans running
      · exact absurd ended.1 (goesOn turn List.mem_cons_self)
    obtain ⟨later, kept, plans, lasts⟩ := ih there still fun other among =>
      goesOn other (List.mem_cons_of_mem _ among)
    exact ⟨later, kept, plans.trans same, lasts⟩

/-- A task that is not running stays so until a check or a request starts it. -/
theorem entry_of_idle {id : String} {entry : Entry}
    (found : diary.scheduler.entries.get? id = some entry) (idle : entry.state ≠ .running)
    {turns : List Turn} (quiet : ∀ turn ∈ turns, ¬ turn.MayStart id) :
    ∃ later, (turns.foldl perform diary).scheduler.entries.get? id = some later ∧
      plan later = plan entry ∧ later.state ≠ .running := by
  induction turns generalizing diary entry with
  | nil => exact ⟨entry, found, rfl, idle⟩
  | cons turn rest ih =>
    obtain ⟨next, there, same, state⟩ := entry_perform found turn (.inr (quiet turn List.mem_cons_self))
    have still : next.state ≠ .running := by
      rcases state with as | ended
      · exact as ▸ idle
      · exact ended.2
    obtain ⟨later, kept, plans, lasts⟩ := ih there still fun other among =>
      quiet other (List.mem_cons_of_mem _ among)
    exact ⟨later, kept, plans.trans same, lasts⟩

/-- A task goes by the same from a start to the first start after the end of its execution. -/
theorem entry_of_finished {before waiting idle : List Turn} {result : TaskResult} {entry : Entry}
    (found : (after before).scheduler.entries.get? result.taskId = some entry)
    (running : entry.state = .running) (goesOn : ∀ turn ∈ waiting, ¬ turn.Ends result.taskId)
    (quiet : ∀ turn ∈ idle, ¬ turn.MayStart result.taskId) :
    ∃ later, (after (before ++ waiting ++ .finish result :: idle)).scheduler.entries.get? result.taskId =
      some later ∧ plan later = plan entry ∧ later.state ≠ .running := by
  obtain ⟨mid, midThere, midPlan, -⟩ := entry_of_running found running goesOn
  have ended : ((waiting.foldl perform (after before)).perform (.finish result)).scheduler.entries.get?
      result.taskId = _ := get?_finish_self result midThere
  obtain ⟨later, there, laterPlan, notRunning⟩ :=
    entry_of_idle ended result.finalState_ne_running quiet
  rw [after_append, after_append, List.foldl_cons]
  exact ⟨later, there, laterPlan.trans midPlan, notRunning⟩

/-! ### Any turns -/

/-- **A mark serves a point** at which a timing fires when it was made by a check at that time or later,
and the mark of the task before it is from before the point. -/
def Serves (timing : Timing) (before : List Mark) (mark : Mark) (t : Instant) : Prop :=
  ∃ now base, mark.cause = .due now ∧ last? before mark.task = some base ∧ timing.Fires base t ∧ t ≤ now

/-- **Tasks start when their timings call for it**, and not more often. -/
structure Punctual (turns : List Turn) : Prop where
  /-- what every check starts and leaves alone -/
  checks : ∀ before now stampOf rest, turns = before ++ .check now stampOf :: rest →
    (after before).Checked now stampOf
  /-- between a start by a check and any mark of the task before it the timing fires, counted from that
  mark; and intervals elapse as a whole -/
  spaced : Throughout (after turns).marks fun before mark => ∀ now, mark.cause = .due now →
    ∃ entry, (after turns).scheduler.entries.get? mark.task = some entry ∧ now ≤ mark.time ∧
      ∀ earlier ∈ before, earlier.task = mark.task →
        entry.timing.FiresBy earlier.time now ∧
        ∀ seconds, entry.timing = .interval seconds →
          earlier.time.toNanos + (seconds.toNat * nanosPerSecond : Nat) ≤ mark.time.toNanos
  /-- no point at which a timing fires is served twice -/
  once : Throughout (after turns).marks fun before mark => ∀ first earlier between,
    before = first ++ earlier :: between → earlier.task = mark.task →
    ∀ timing t, ¬ (Serves timing first earlier t ∧ Serves timing before mark t)
  /-- what passes while a task is running is served by the first check after the end of its execution,
  if the task may then start by itself and nobody has started it before -/
  caughtUp : ∀ before waiting result idle now stampOf rest,
    turns = before ++ waiting ++ .finish result :: idle ++ .check now stampOf :: rest →
    ∀ entry, (after before).scheduler.entries.get? result.taskId = some entry → entry.state = .running →
    (∀ turn ∈ waiting, ¬ turn.Ends result.taskId) → (∀ turn ∈ idle, ¬ turn.MayStart result.taskId) →
    ∀ later, (after (before ++ waiting ++ .finish result :: idle)).scheduler.entries.get? result.taskId =
      some later → later.isEnabled = true →
    ∀ t, entry.timing.Fires entry.base t → t ≤ now →
      result.taskId ∈ (after (before ++ waiting ++ .finish result :: idle)).scheduler.due now ∧
      Serves entry.timing (after (before ++ waiting ++ .finish result :: idle)).marks
        (found now stampOf result.taskId) t

/-- Marks of a task before a mark are not later than the last of them. -/
theorem Orderly.le_last (orderly : diary.Orderly) {before rest : List Mark} {mark : Mark}
    (split : diary.marks = before ++ mark :: rest) {id : String} {base : Instant}
    (last : last? before id = some base) :
    base.IsPlain ∧ ∀ earlier ∈ before, earlier.task = id → earlier.time ≤ base := by
  have ordered := orderly.ordered
  rw [split] at ordered
  obtain ⟨⟨newest, member, -, rfl⟩, latest⟩ := last?_spec (List.pairwise_append.mp ordered).1 last
  exact ⟨orderly.plain newest (split ▸ List.mem_append_left _ member), latest⟩

/-- **Under a clock that does not go back, tasks start when their timings call for it**, whatever is
done to the scheduler and in whatever order. -/
theorem punctual_after {turns : List Turn} (timely : Timely turns) : Punctual turns := by
  have orderly := orderly_after timely
  refine ⟨fun before now stampOf rest split => ?_, fun before mark rest split now cause => ?_,
    fun before mark rest split first earlier between earlierSplit same timing t => ?_,
    fun before waiting result idle now stampOf rest split entry found running goesOn quiet later there
      isEnabled t fires past => ?_⟩
  · exact checked_check (orderly_after (split ▸ timely).of_append) now stampOf
  · obtain ⟨entry, base, found, last, fires, stamped⟩ := orderly.served before mark rest split now cause
    obtain ⟨basePlain, latest⟩ := orderly.le_last split last
    have markPlain := orderly.plain mark (split ▸ List.mem_append_right _ List.mem_cons_self)
    refine ⟨entry, found, stamped, fun earlier among same => ?_⟩
    have plain := orderly.plain earlier (split ▸ List.mem_append_left _ among)
    have fires := fires.earlier plain basePlain (latest earlier among same)
    refine ⟨fires, fun seconds timing => ?_⟩
    rw [timing] at fires
    exact fires.interval_elapsed plain markPlain stamped
  · rintro ⟨⟨now, base, cause, last, fires, past⟩, ⟨now', base', cause', last', fires', past'⟩⟩
    subst earlierSplit
    have split' : (after turns).marks = first ++ earlier :: (between ++ mark :: rest) := by
      rw [split, List.append_assoc, List.cons_append]
    obtain ⟨-, -, -, -, -, stamped⟩ := orderly.served first earlier _ split' now cause
    have latest := (orderly.le_last split last').2 earlier
      (List.mem_append_right _ List.mem_cons_self) same
    have early : t ≤ base' := Instant.le_trans past (Instant.le_trans stamped latest)
    exact Instant.not_lt.mpr early fires'.after
  · subst split
    have orderly := orderly_after timely.of_append
    obtain ⟨last, lastThere, plans, notRunning⟩ := entry_of_finished found running goesOn quiet
    obtain rfl : last = later := Option.some.inj (lastThere.symm.trans there)
    have timing : last.timing = entry.timing := congrArg Prod.fst plans
    have base : last.base = entry.base := congrArg Prod.snd plans
    rw [← base] at fires
    refine ⟨mem_due.mpr ⟨last, there, (orderly.isDue_iff there).mpr ⟨isEnabled, notRunning, ?_⟩⟩, ?_⟩
    · exact ⟨t, timing ▸ fires, past⟩
    · exact ⟨now, last.base, rfl, (orderly.base_spec there).1, fires, past⟩

/-- A task that starts each minute. It was started by hand, two of its starts passed while it was
running, and a check after its end started it once. -/
def everyMinute : List Turn :=
  [.register (.ofParts 0 0) "stream_probe" (.interval 60) true,
    .trigger (.ofParts 10 0) "stream_probe",
    .check (.ofParts 140 0) fun _ => .ofParts 140 0,
    .finish { TaskReport.ofProgress {} "" with
      taskId := "stream_probe", startedAt := .ofParts 10 0, completedAt := .ofParts 150 0 },
    .check (.ofParts 160 0) fun _ => .ofParts 161 0]

theorem timely_everyMinute : Timely everyMinute := by
  have plain (seconds : Nat) (ranged : (Instant.ofParts seconds 0).inRange = true) :
      (Instant.ofParts seconds 0).IsPlain := ⟨ranged, by simp [Instant.ofParts, nanosPerSecond]⟩
  refine ⟨?_, ?_, ?_⟩
  · simp only [everyMinute, List.forall_mem_cons, Turn.Stamps, Turn.Shows, exists_const, forall_eq]
    exact ⟨plain 0 rfl, plain 10 rfl, plain 140 rfl, by rintro _ ⟨⟩, plain 161 rfl, by rintro _ ⟨⟩⟩
  · simp only [everyMinute, List.pairwise_cons, List.forall_mem_cons, Turn.Shows, exists_const, or_self,
      forall_eq_apply_imp_iff, forall_eq, or_imp, forall_and, false_implies, implies_true, and_true,
      List.not_mem_nil, List.Pairwise.nil]
    decide
  · intro now stampOf among
    simp only [everyMinute, List.mem_cons, List.not_mem_nil, reduceCtorEq, Turn.check.injEq, false_or,
      or_false] at among
    rcases among with ⟨rfl, rfl⟩ | ⟨rfl, rfl⟩
    · exact fun _ => Instant.le_refl _
    · have stamped : Instant.ofParts 160 0 ≤ Instant.ofParts 161 0 := by decide
      exact fun _ => stamped

/-- **The two starts that passed are made up for by one.** -/
theorem punctual_everyMinute : Timely everyMinute ∧
    (after everyMinute).marks =
      [⟨"stream_probe", .ofParts 0 0, .registered⟩, ⟨"stream_probe", .ofParts 10 0, .asked⟩,
        ⟨"stream_probe", .ofParts 161 0, .due (.ofParts 160 0)⟩] ∧
    Punctual everyMinute :=
  ⟨timely_everyMinute, by decide +kernel, punctual_after timely_everyMinute⟩

end Diary
end StreamWatch
