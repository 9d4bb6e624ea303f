/-
**Looking at a source until its refresh has finished.**

Nothing but the clock ends the looks at a source that never tells that it has finished. Each look comes one
pause after the one before, or later when an answer is slow, so that only so many fit into the longest wait.
The bound on the looks that the watch carries along is never what ends it.

* `Circumstances.elapsed`: the time at which so many looks have been answered;
* `Tells`: what the answer to a look tells;
* `Ends`, `ends_of_watch`: how a watch ends, however long the answers take;
* `refresh_polls`: what becomes of the refresh of a source.
-/

import StreamWatch.Task.GuideRefresh
import Mathlib.Algebra.Order.Floor.Div
import Mathlib.Tactic.Ring

namespace StreamWatch.GuideRefresh

/-- The outside of a refresh. -/
structure Site where
  now : Nat
  /-- the sources that were asked to refresh -/
  requested : List Int := []
  /-- the sources that were looked at -/
  looked : List Int := []

/-- What there is around a refresh. -/
structure Circumstances where
  /-- whether the refresh is granted -/
  granted : Except RemoteError Unit
  /-- what a look shows after so many others -/
  shows : Nat → Except RemoteError GuideSource
  /-- how long it takes to answer the request -/
  requestDelay : Nat := 0
  /-- how much longer than it should a pause takes after so many looks -/
  excess : Nat → Nat
  /-- how long a look takes after so many others -/
  delay : Nat → Nat

namespace Circumstances

variable (around : Circumstances)

/-- How the outside answers. -/
def answer : (question : Ask) → Site → Option question.Reply × Site
  | .remote (.refreshGuideSource id), site =>
    (some around.granted,
      { site with now := site.now + around.requestDelay, requested := site.requested ++ [id] })
  | .remote (.guideSource id), site =>
    (some (around.shows site.looked.length),
      { site with now := site.now + around.delay site.looked.length, looked := site.looked ++ [id] })
  | .sleep length, site =>
    (some ⟨⟩, { site with now := site.now + length.toNanos + around.excess site.looked.length })
  | .clock, site => (some site.now, site)
  | _, site => (none, site)

/-- No pause takes longer than it should, and every look is answered at once. -/
structure Prompt : Prop where
  excess : ∀ looks, around.excess looks = 0
  delay : ∀ looks, around.delay looks = 0

variable (settings : RefreshSettings) (source : GuideSource)

/-- The time since the refresh was granted at which so many looks have been answered. -/
def elapsed : Nat → Nat
  | 0 => 0
  | looks + 1 => elapsed looks + settings.pollInterval.toNanos + around.excess looks + around.delay looks

/-- The site after one pause and one look more. -/
def look (site : Site) : Site where
  now := site.now + settings.pollInterval.toNanos + around.excess site.looked.length + around.delay site.looked.length
  requested := site.requested
  looked := site.looked ++ [source.id]

/-- The site when so many looks have been answered. -/
def stage (start looks : Nat) : Site where
  now := start + around.requestDelay + around.elapsed settings looks
  requested := [source.id]
  looked := List.replicate looks source.id

end Circumstances

/-- Whether a source carries a time of its last update, and another one than before. -/
def Moved (source seen : GuideSource) : Prop :=
  ∃ time, seen.updatedAt = some time ∧ source.updatedAt ≠ some time

/-- What the answer to a look tells, so long after the refresh was granted. An error tells nothing. -/
inductive Tells (settings : RefreshSettings) (source : GuideSource) (elapsed : Nat) :
    Except RemoteError GuideSource → RefreshVerdict → Prop
  | updated {seen : GuideSource} (moved : Moved source seen) : Tells settings source elapsed (.ok seen) .updated
  | assumed {seen : GuideSource} (same : ¬ Moved source seen) (late : settings.assumeAfter.toNanos < elapsed) :
      Tells settings source elapsed (.ok seen) .assumed

variable {settings : RefreshSettings} {source : GuideSource} {around : Circumstances}

theorem moved_iff {seen : GuideSource} :
    Moved source seen ↔ seen.updatedAt.isSome ∧ seen.updatedAt ≠ source.updatedAt := by
  constructor
  · rintro ⟨time, carried, differ⟩
    rw [carried]
    exact ⟨rfl, fun same => differ same.symm⟩
  · rintro ⟨carries, differ⟩
    obtain ⟨time, carried⟩ := Option.isSome_iff_exists.mp carries
    exact ⟨time, carried, fun same => differ (carried.trans same.symm)⟩

/-- What the watch makes of an answer. -/
theorem tells_iff {elapsed : Nat} {answer : Except RemoteError GuideSource} {verdict : RefreshVerdict} :
    Tells settings source elapsed answer verdict ↔
      (answer.toOption.bind fun seen => verdict? settings source.updatedAt seen elapsed) = some verdict := by
  constructor
  · rintro (⟨moved⟩ | ⟨same, late⟩)
    · exact if_pos (moved_iff.mp moved)
    · exact (if_neg fun moved => same (moved_iff.mpr moved)).trans (if_pos late)
  · intro told
    cases answer with
    | error error => exact nomatch told
    | ok seen =>
      simp only [Except.toOption, Option.bind_some, verdict?, ← moved_iff] at told
      split at told
      · next moved =>
        obtain rfl := Option.some.inj told
        exact .updated (moved_iff.mpr moved)
      · next same =>
        split at told
        · next late =>
          obtain rfl := Option.some.inj told
          exact .assumed (same ∘ moved_iff.mp) late
        · exact nomatch told

/-- An answer tells one thing only. -/
theorem Tells.unique {elapsed : Nat} {answer : Except RemoteError GuideSource} {verdict other : RefreshVerdict}
    (tells : Tells settings source elapsed answer verdict) (also : Tells settings source elapsed answer other) :
    verdict = other :=
  Option.some.inj ((tells_iff.mp tells).symm.trans (tells_iff.mp also))

/-- Whether the look after so many others tells that the refresh has finished, and how. -/
def Circumstances.TellsAt (around : Circumstances) (settings : RefreshSettings) (source : GuideSource) (looks : Nat) :
    RefreshVerdict → Prop :=
  Tells settings source (around.elapsed settings (looks + 1)) (around.shows looks)

/-- How a watch ends, and after how many looks. -/
inductive Ends (settings : RefreshSettings) (source : GuideSource) (around : Circumstances) :
    Except RefreshFault RefreshVerdict → Nat → Prop
  /-- a look tells that the refresh has finished, no look before it does, and the longest wait was not over
  when it was begun -/
  | told {looks : Nat} {verdict : RefreshVerdict} (early : around.elapsed settings looks < settings.maxWait.toNanos)
      (silent : ∀ k < looks, ∀ other, ¬ around.TellsAt settings source k other)
      (tells : around.TellsAt settings source looks verdict) : Ends settings source around (.ok verdict) (looks + 1)
  /-- no look tells it, and the longest wait is over after the last one but was not before -/
  | unfinished {looks : Nat} (early : ∀ k < looks, around.elapsed settings k < settings.maxWait.toNanos)
      (silent : ∀ k < looks, ∀ other, ¬ around.TellsAt settings source k other)
      (late : settings.maxWait.toNanos ≤ around.elapsed settings looks) :
      Ends settings source around (.error (.unfinished settings.maxWait)) looks

/-! ### One look -/

section
variable {α : Type}

theorem elapsed_succ (looks : Nat) : around.elapsed settings (looks + 1) =
    around.elapsed settings looks + settings.pollInterval.toNanos + around.excess looks + around.delay looks := rfl

theorem length_looked_stage (start looks : Nat) :
    (around.stage settings source start looks).looked.length = looks := List.length_replicate

theorem look_stage (start looks : Nat) :
    around.look settings source (around.stage settings source start looks) =
      around.stage settings source start (looks + 1) := by
  simp only [Circumstances.look, length_looked_stage]
  simp only [Circumstances.stage, elapsed_succ, List.replicate_succ', Nat.add_assoc]

theorem alone_request (settings : RefreshSettings) (start : Nat) (next : Except RemoteError Unit → Work Site α) :
    (Work.remote (.refreshGuideSource source.id) >>= next).alone around.answer { now := start } =
      (next around.granted).alone around.answer (around.stage settings source start 0) := rfl

theorem alone_clock (site : Site) (next : Nat → Work Site α) :
    (Work.clock >>= next).alone around.answer site = (next site.now).alone around.answer site := rfl

theorem alone_sleep_look (site : Site) (next : Except RemoteError GuideSource → Work Site α) :
    (Work.sleep settings.pollInterval >>= fun _ => Work.remote (.guideSource source.id) >>= next).alone around.answer
        site =
      (next (around.shows site.looked.length)).alone around.answer (around.look settings source site) := rfl

end

/-- **One look of a watch**: it is not begun when the longest wait is over, and it ends the watch when it tells
something. -/
theorem alone_watch_succ (start looks more : Nat) :
    (watch settings source (start + around.requestDelay) (more + 1)).alone around.answer
        (around.stage settings source start looks) =
      if settings.maxWait.toNanos ≤ around.elapsed settings looks then
        (some (.error (.unfinished settings.maxWait)), around.stage settings source start looks)
      else
        ((around.shows looks).toOption.bind fun seen =>
            verdict? settings source.updatedAt seen (around.elapsed settings (looks + 1))).elim
          ((watch settings source (start + around.requestDelay) more).alone around.answer
            (around.stage settings source start (looks + 1)))
          fun verdict => (some (.ok verdict), around.stage settings source start (looks + 1)) := by
  have since (k : Nat) : (around.stage settings source start k).now - (start + around.requestDelay) =
      around.elapsed settings k := Nat.add_sub_cancel_left ..
  rw [watch, alone_clock, since]
  split
  · rfl
  · rw [alone_sleep_look, length_looked_stage, look_stage]
    cases shown : around.shows looks with
    | error error => rfl
    | ok seen =>
      rw [alone_clock, since]
      show _ = (verdict? settings source.updatedAt seen (around.elapsed settings (looks + 1))).elim _ _
      cases verdict? settings source.updatedAt seen (around.elapsed settings (looks + 1)) with
      | none => rfl
      | some verdict => rfl

/-! ### All looks -/

/-- So many looks take that many pauses at least. -/
theorem mul_le_elapsed (looks : Nat) :
    settings.pollInterval.toNanos * looks ≤ around.elapsed settings looks := by
  induction looks with
  | zero => exact Nat.le_refl 0
  | succ looks ih =>
    rw [Nat.mul_succ, elapsed_succ]
    omega

/-- When nothing is slow they take no longer. -/
theorem elapsed_of_prompt (prompt : around.Prompt) (looks : Nat) :
    around.elapsed settings looks = looks * settings.pollInterval.toNanos := by
  induction looks with
  | zero => rw [Nat.zero_mul, Circumstances.elapsed]
  | succ looks ih =>
    rw [elapsed_succ, ih, prompt.excess, prompt.delay]
    ring

/-- A look that may be the last one the watch is allowed is never begun in time. -/
theorem late_of_maxLooks (positive : 0 < settings.pollInterval.toNanos) {looks : Nat}
    (all : maxLooks settings ≤ looks) : settings.maxWait.toNanos ≤ around.elapsed settings looks :=
  calc settings.maxWait.toNanos
    _ ≤ settings.pollInterval.toNanos * maxLooks settings := (Nat.lt_mul_div_succ _ positive).le
    _ ≤ settings.pollInterval.toNanos * looks := Nat.mul_le_mul_left _ all
    _ ≤ around.elapsed settings looks := mul_le_elapsed looks

/-- **How a watch ends** that has looked so many times in vain and is allowed enough looks more. -/
theorem ends_of_watch (positive : 0 < settings.pollInterval.toNanos) (start : Nat) {looks more : Nat}
    (enough : maxLooks settings ≤ looks + more)
    (early : ∀ k < looks, around.elapsed settings k < settings.maxWait.toNanos)
    (silent : ∀ k < looks, ∀ other, ¬ around.TellsAt settings source k other) :
    ∃ result total, Ends settings source around result total ∧
      (watch settings source (start + around.requestDelay) more).alone around.answer
        (around.stage settings source start looks) = (some result, around.stage settings source start total) := by
  induction more generalizing looks with
  -- the longest wait is over by then, so that it is not the bound on the looks that decides
  | zero => exact ⟨_, looks, .unfinished early silent (late_of_maxLooks positive enough), rfl⟩
  | succ more ih =>
    rw [alone_watch_succ]
    split
    · next late => exact ⟨_, looks, .unfinished early silent late, rfl⟩
    · next inTime =>
      have inTime := Nat.lt_of_not_le inTime
      cases told : (around.shows looks).toOption.bind fun seen =>
          verdict? settings source.updatedAt seen (around.elapsed settings (looks + 1)) with
      | some verdict => exact ⟨_, looks + 1, .told inTime silent (tells_iff.mpr told), rfl⟩
      | none =>
        refine ih (by omega) (Nat.forall_lt_succ_right.mpr ⟨early, inTime⟩) ?_
        refine Nat.forall_lt_succ_right.mpr ⟨silent, fun other tells => ?_⟩
        exact nomatch told.symm.trans (tells_iff.mp tells)

theorem elapsed_mono {looks more : Nat} (fewer : looks ≤ more) :
    around.elapsed settings looks ≤ around.elapsed settings more := by
  induction fewer with
  | refl => exact Nat.le_refl _
  | step _ ih =>
    rw [elapsed_succ]
    omega

/-- A look that is begun in time is one of those that fit into the longest wait. -/
theorem lt_ceilDiv_of_early (positive : 0 < settings.pollInterval.toNanos) {looks : Nat}
    (early : around.elapsed settings looks < settings.maxWait.toNanos) :
    looks < settings.maxWait.toNanos ⌈/⌉ settings.pollInterval.toNanos := by
  refine lt_of_not_ge fun all => ?_
  have fits := (ceilDiv_le_iff_le_mul positive).mp all
  exact absurd ((fits.trans (mul_le_elapsed looks)).trans_lt early) (lt_irrefl _)

/-- When nothing is slow, all that fit are begun in time. -/
theorem early_iff_lt_ceilDiv (positive : 0 < settings.pollInterval.toNanos) (prompt : around.Prompt) {looks : Nat} :
    around.elapsed settings looks < settings.maxWait.toNanos ↔
      looks < settings.maxWait.toNanos ⌈/⌉ settings.pollInterval.toNanos := by
  rw [← not_le, ← not_le, ceilDiv_le_iff_le_mul positive, elapsed_of_prompt prompt, Nat.mul_comm]

namespace Ends

variable {result : Except RefreshFault RefreshVerdict} {looks : Nat}

/-- Only so many looks fit into the longest wait. -/
theorem looks_le (ends : Ends settings source around result looks) (positive : 0 < settings.pollInterval.toNanos) :
    looks ≤ settings.maxWait.toNanos ⌈/⌉ settings.pollInterval.toNanos := by
  cases ends with
  | told early => exact lt_ceilDiv_of_early positive early
  | unfinished early =>
    cases looks with
    | zero => exact Nat.zero_le _
    | succ looks => exact lt_ceilDiv_of_early positive (early looks (Nat.lt_succ_self looks))

/-- The first look that tells something ends the watch, if it is begun in time. -/
theorem of_first (ends : Ends settings source around result looks) {k : Nat} {verdict : RefreshVerdict}
    (early : around.elapsed settings k < settings.maxWait.toNanos) (tells : around.TellsAt settings source k verdict)
    (first : ∀ j < k, ∀ other, ¬ around.TellsAt settings source j other) : result = .ok verdict ∧ looks = k + 1 := by
  cases ends with
  | @told j other _ silent tellsToo =>
    obtain before | rfl | after := Nat.lt_trichotomy j k
    · exact absurd tellsToo (first j before other)
    · exact ⟨congrArg Except.ok (tellsToo.unique tells), rfl⟩
    · exact absurd tells (silent k after verdict)
  | unfinished _ silent late =>
    obtain after | before := Nat.lt_or_ge k looks
    · exact absurd tells (silent k after verdict)
    · exact absurd (late.trans (elapsed_mono before)) (Nat.not_le.mpr early)

/-- A watch that nothing is told ends when the longest wait is over. -/
theorem of_none (ends : Ends settings source around result looks)
    (none : ∀ k, around.elapsed settings k < settings.maxWait.toNanos →
      ∀ other, ¬ around.TellsAt settings source k other) :
    result = .error (.unfinished settings.maxWait) ∧
      ∀ k, around.elapsed settings k < settings.maxWait.toNanos ↔ k < looks := by
  cases ends with
  | told early _ tells => exact absurd tells (none _ early _)
  | unfinished early _ late =>
    refine ⟨rfl, fun k => ⟨fun inTime => ?_, early k⟩⟩
    exact lt_of_not_ge fun more => absurd (late.trans (elapsed_mono more)) (Nat.not_le.mpr inTime)

end Ends

/-! ### The refresh of a source -/

/-- **What becomes of the refresh of a source.** -/
structure Polls (settings : RefreshSettings) (source : GuideSource) (around : Circumstances)
    (ended : Option (Except RefreshFault RefreshVerdict) × Site) : Prop where
  /-- it is asked for once -/
  requested : ended.2.requested = [source.id]
  /-- however long anything takes, no other source is looked at, and this one no more often than fits into the
  longest wait -/
  looked : ∃ looks ≤ settings.maxWait.toNanos ⌈/⌉ settings.pollInterval.toNanos,
    ended.2.looked = List.replicate looks source.id
  /-- it is not looked at when the refresh is not granted -/
  refused : ∀ error, around.granted = .error error →
    ended.1 = some (.error (.refused error)) ∧ ended.2.looked = []
  /-- else the watch over it ends -/
  ends : around.granted = .ok ⟨⟩ → ∃ result, ended.1 = some result ∧
    Ends settings source around result ended.2.looked.length
  /-- when nothing is slow, the first look that tells something is the last one -/
  told : around.granted = .ok ⟨⟩ → around.Prompt →
    ∀ k < settings.maxWait.toNanos ⌈/⌉ settings.pollInterval.toNanos, ∀ verdict,
    Tells settings source ((k + 1) * settings.pollInterval.toNanos) (around.shows k) verdict →
    (∀ j < k, ∀ other, ¬ Tells settings source ((j + 1) * settings.pollInterval.toNanos) (around.shows j) other) →
    ended.1 = some (.ok verdict) ∧ ended.2.looked.length = k + 1
  /-- and when none does, it fails after all that fit -/
  unfinished : around.granted = .ok ⟨⟩ → around.Prompt →
    (∀ k < settings.maxWait.toNanos ⌈/⌉ settings.pollInterval.toNanos, ∀ verdict,
      ¬ Tells settings source ((k + 1) * settings.pollInterval.toNanos) (around.shows k) verdict) →
    ended.1 = some (.error (.unfinished settings.maxWait)) ∧
      ended.2.looked.length = settings.maxWait.toNanos ⌈/⌉ settings.pollInterval.toNanos

/-- Settings that pass their check have a pause. -/
theorem pollInterval_pos (checked : settings.check = .ok ⟨⟩) : 0 < settings.pollInterval.toNanos := by
  refine Nat.pos_of_ne_zero fun zero => ?_
  have isZero : settings.pollInterval.isZero = true := beq_iff_eq.mpr zero
  rw [RefreshSettings.check, if_pos isZero] at checked
  exact nomatch checked

/-- When nothing is slow, a look tells what it does by its number. -/
theorem tellsAt_of_prompt (prompt : around.Prompt) {looks : Nat} {verdict : RefreshVerdict} :
    around.TellsAt settings source looks verdict ↔
      Tells settings source ((looks + 1) * settings.pollInterval.toNanos) (around.shows looks) verdict := by
  rw [Circumstances.TellsAt, elapsed_of_prompt prompt]

/-- A refresh that is not granted ends at once. -/
theorem alone_refresh_of_refused {error : RemoteError} (refused : around.granted = .error error) (start : Nat) :
    (refresh settings source).alone around.answer { now := start } =
      (some (.error (.refused error)), around.stage settings source start 0) := by
  rw [refresh, alone_request settings, refused]
  rfl

/-- A refresh that is granted is watched from then on. -/
theorem alone_refresh_eq_watch (granted : around.granted = .ok ⟨⟩) (start : Nat) :
    (refresh settings source).alone around.answer { now := start } =
      (watch settings source (start + around.requestDelay) (maxLooks settings)).alone around.answer
        (around.stage settings source start 0) := by
  have since : (around.stage settings source start 0).now = start + around.requestDelay := Nat.add_zero _
  rw [refresh, alone_request settings, granted]
  dsimp only
  rw [alone_clock, since]

/-- **A refresh that is granted ends**, as the watch over it does. -/
theorem alone_refresh_of_granted (positive : 0 < settings.pollInterval.toNanos)
    (granted : around.granted = .ok ⟨⟩) (start : Nat) :
    ∃ result looks, Ends settings source around result looks ∧
      (refresh settings source).alone around.answer { now := start } =
        (some result, around.stage settings source start looks) := by
  obtain ⟨result, looks, ends, watched⟩ := ends_of_watch positive start
    (Nat.le_of_eq (Nat.zero_add (maxLooks settings)).symm) (fun _ => nofun) (fun _ => nofun)
  exact ⟨result, looks, ends, (alone_refresh_eq_watch granted start).trans watched⟩

theorem polls_of_refused {error : RemoteError} (refused : around.granted = .error error) (start : Nat) :
    Polls settings source around (some (.error (.refused error)), around.stage settings source start 0) where
  requested := rfl
  looked := ⟨0, Nat.zero_le _, rfl⟩
  refused other also := by
    obtain rfl := Except.error.inj (refused.symm.trans also)
    exact ⟨rfl, rfl⟩
  ends granted := nomatch refused.symm.trans granted
  told granted := nomatch refused.symm.trans granted
  unfinished granted := nomatch refused.symm.trans granted

theorem polls_of_ends (positive : 0 < settings.pollInterval.toNanos) (granted : around.granted = .ok ⟨⟩)
    (start : Nat) {result : Except RefreshFault RefreshVerdict} {looks : Nat}
    (ends : Ends settings source around result looks) :
    Polls settings source around (some result, around.stage settings source start looks) where
  requested := rfl
  looked := ⟨looks, ends.looks_le positive, rfl⟩
  refused _ refused := nomatch granted.symm.trans refused
  ends _ := ⟨result, rfl, (length_looked_stage start looks).symm ▸ ends⟩
  told _ prompt k fits verdict tells first := by
    have last := ends.of_first ((early_iff_lt_ceilDiv positive prompt).mpr fits) ((tellsAt_of_prompt prompt).mpr tells)
      fun j before other also => first j before other ((tellsAt_of_prompt prompt).mp also)
    rw [length_looked_stage]
    exact ⟨congrArg some last.1, last.2⟩
  unfinished _ prompt none := by
    obtain ⟨failed, counted⟩ := ends.of_none fun k early other tells =>
      none k ((early_iff_lt_ceilDiv positive prompt).mp early) other ((tellsAt_of_prompt prompt).mp tells)
    rw [length_looked_stage]
    refine ⟨congrArg some failed, eq_of_forall_lt_iff fun k => ?_⟩
    rw [← counted, early_iff_lt_ceilDiv positive prompt]

/-- **The refresh of a source comes to an end** after a bounded number of looks, with the verdict of the first
look that tells one. -/
theorem refresh_polls (settings : RefreshSettings) (source : GuideSource) (around : Circumstances) (start : Nat)
    (checked : settings.check = .ok ⟨⟩) :
    Polls settings source around ((refresh settings source).alone around.answer { now := start }) := by
  have positive := pollInterval_pos checked
  cases granted : around.granted with
  | error error =>
    rw [alone_refresh_of_refused granted]
    exact polls_of_refused granted start
  | ok =>
    obtain ⟨result, looks, ends, ended⟩ := alone_refresh_of_granted positive granted start
    rw [ended]
    exact polls_of_ends positive granted start ends

/-- A source that was never updated. -/
def neverUpdated : GuideSource := { id := 4, name := "Guide", kind := none, isActive := true, updatedAt := none }

/-- The first look fails, and after that nothing moves. -/
def unmoved : Circumstances where
  granted := .ok ⟨⟩
  shows looks := if looks = 0 then .error (.status 503 "busy") else .ok neverUpdated
  excess _ := 0
  delay _ := 0

/-- Under the standard settings, a refresh that never shows counts as finished at the seventh look, the first one
that is answered later than the grace. -/
theorem refresh_polls_unmoved :
    ({} : RefreshSettings).check = .ok ⟨⟩ ∧
      ((refresh {} neverUpdated).alone unmoved.answer { now := 0 }).1 = some (.ok .assumed) ∧
      ((refresh {} neverUpdated).alone unmoved.answer { now := 0 }).2.looked.length = 7 := by
  have checked : ({} : RefreshSettings).check = .ok ⟨⟩ := by decide
  have same : ¬ Moved neverUpdated neverUpdated := fun ⟨_, carried, _⟩ => nomatch carried
  have polls := refresh_polls {} neverUpdated unmoved 0 checked
  refine ⟨checked, polls.told rfl ⟨fun _ => rfl, fun _ => rfl⟩ 6 (by decide) .assumed (.assumed same (by decide)) ?_⟩
  intro looks few other tells
  cases looks with
  | zero => exact nomatch tells
  | succ looks =>
    have grace : ({} : RefreshSettings).assumeAfter.toNanos = 6 * ({} : RefreshSettings).pollInterval.toNanos := by
      decide
    obtain ⟨moved⟩ | ⟨-, late⟩ : Tells {} neverUpdated _ (.ok neverUpdated) other := tells
    · exact same moved
    · rw [grace] at late
      have seventh := Nat.lt_of_mul_lt_mul_right late
      omega

end StreamWatch.GuideRefresh
