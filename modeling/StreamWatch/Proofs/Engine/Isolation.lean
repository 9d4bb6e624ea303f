/-
**What happens to one stream of a run stays with it.**

Two runs over the same streams may differ in what the media tools tell about one of them, in whether the store
keeps that, and in whatever comes of refreshing accounts. As long as neither of them is stopped, no other stream
can tell them apart.

* `Probed.mem_outcomes_iff`, `Probed.record_eq`: what becomes of every stream when none was left alone;
* `SummedUp.errors_perm`, `SummedUp.counts_eq`: what is told of them all;
* `run_isolates`: two runs that differ in one stream.
-/

import StreamWatch.Proofs.Engine.Accounts

namespace StreamWatch.Engine

open Program

variable {around other : Circumstances} {settings : ProbingSettings} {streams : List Stream} {store : Memory}
  {summary : RunSummary} {site : Site}

/-! ### Runs that leave no stream alone -/

/-- A run that was not stopped has left no stream alone. -/
theorem SummedUp.begun (summedUp : SummedUp around settings streams store summary site)
    (goesOn : summary.isCancelled = false) (place : Nat) : (place, .notStarted) ∉ site.outcomes := by
  intro alone
  have some : 0 < site.unstarted := List.countP_pos_iff.mpr ⟨_, alone, rfl⟩
  rw [summedUp.accounted.cancelled.mpr some] at goesOn
  exact nomatch goesOn

/-- What a stream comes to when it is not left alone. -/
def fullResult (around : Circumstances) (settings : ProbingSettings) (streams : List Stream)
    (place : Fin streams.length) : Int × StreamOutcome :=
  ((streams.get place).id, outcomeOf settings (around.verdict place) (streams.get place))

/-- The lines that all streams but one have in a summary. -/
def linesBut (around : Circumstances) (settings : ProbingSettings) (streams : List Stream)
    (place : Fin streams.length) : List String :=
  (((List.finRange streams.length).erase place).map (fullResult around settings streams)).filterMap RunSummary.line?

theorem resultOf_eq_full {outcomes : List (Nat × StreamOutcome)}
    (begun : ∀ place, (place, .notStarted) ∉ outcomes) :
    resultOf around settings streams outcomes = fullResult around settings streams := by
  funext place
  rw [resultOf, if_neg (begun _), fullResult]

namespace Probed

variable {results : List (Fin streams.length × Int × StreamOutcome)}
  (probed : Probed around settings streams store results site)
  (begun : ∀ place, (place, .notStarted) ∉ site.outcomes)
include probed begun

/-- Every stream has its one outcome. -/
theorem mem_outcomes_iff (place : Fin streams.length) {outcome : StreamOutcome} :
    (place.val, outcome) ∈ site.outcomes ↔
      outcome = outcomeOf settings (around.verdict place) (streams.get place) := by
  have own {result : Fin streams.length × Int × StreamOutcome} (member : result ∈ results) :
      result.2 = fullResult around settings streams result.1 := by
    rw [probed.result_eq member, resultOf_eq_full begun]
  rw [probed.noted, List.mem_map]
  constructor
  · rintro ⟨result, member, noted⟩
    obtain ⟨same, rfl⟩ := Prod.mk.inj noted
    obtain rfl := Fin.ext same
    exact congrArg Prod.snd (own member)
  · rintro rfl
    obtain ⟨result, member, rfl⟩ := probed.exists_result place
    exact ⟨result, member, by rw [own member, fullResult]⟩

/-- What is kept of every stream. -/
theorem record_eq (distinct : (streams.map (·.id)).Nodup) (place : Fin streams.length) :
    (site.store.get? (streams.get place).id).map StreamStats.untimed =
      recordOf settings (around.verdict place) (streams.get place) (lastKnown store (streams.get place)) := by
  rw [(probed.stands place).record distinct, if_neg (begun _)]

/-- The results, with that of any one stream put first. -/
theorem results_perm_cons (place : Fin streams.length) :
    (results.map (·.2)).Perm
      (fullResult around settings streams place ::
        ((List.finRange streams.length).erase place).map (fullResult around settings streams)) := by
  have all := probed.perm
  rw [resultOf_eq_full begun] at all
  exact all.trans ((List.perm_cons_erase (List.mem_finRange place)).map _)

/-- The counts, with those of any one stream put first. -/
theorem counts_eq (place : Fin streams.length) :
    counts site = (outcomeOf settings (around.verdict place) (streams.get place)).share +
      (((List.finRange streams.length).erase place).map fun apart =>
        (fullResult around settings streams apart).2.share).sum := by
  have shares := ((probed.results_perm_cons begun place).map (·.2.share)).sum_eq
  rw [RunSummary.sum_share, ← probed.counted, List.map_cons, List.sum_cons, List.map_map] at shares
  exact shares

/-- The lines of a summary, with that of any one stream put first, if it has one. -/
theorem errors_perm (place : Fin streams.length) (cancelSeen : Bool) (startedAt completedAt : Instant) :
    (RunSummary.ofOutcomes streams.length cancelSeen startedAt completedAt (results.map (·.2))).errors.Perm
      ((RunSummary.line? (fullResult around settings streams place)).toList ++
        linesBut around settings streams place) := by
  rw [RunSummary.ofOutcomes_eq, linesBut, ← RunSummary.filterMap_line?_cons]
  exact (List.mergeSort_perm _ _).trans ((probed.results_perm_cons begun place).filterMap _)

end Probed

/-- **A probe that succeeds is a success**, also when it cannot be told whether the screen is black. -/
theorem SummedUp.lenient (summedUp : SummedUp around settings streams store summary site)
    (goesOn : summary.isCancelled = false) (distinct : (streams.map (·.id)).Nodup) {place : Fin streams.length}
    {metrics : Metrics} {error : ProbeError} (address : (address? (streams.get place)).isSome = true)
    (probe : (around.verdict place).probe = .ok metrics) (sample : (around.verdict place).sample = .error error)
    (kept : (around.verdict place).fault = none) :
    (place.val, .succeeded false) ∈ site.outcomes ∧
      ∃ stats, site.store.get? (streams.get place).id = some stats ∧
        stats.status = .success ∧ stats.metrics = metrics ∧ stats.isBlackScreen = none := by
  have begun := summedUp.begun goesOn
  obtain ⟨results, -, -, probed, -⟩ := summedUp.probed
  have unsure : (around.verdict place).black settings = none := by
    rw [Verdict.black, sample]
    exact ite_self _
  constructor
  · obtain ⟨url, given⟩ := Option.isSome_iff_exists.mp address
    rw [probed.mem_outcomes_iff begun, outcomeOf, given]
    simp only [Verdict.outcome, probe, kept, unsure]
    rfl
  · have record := probed.record_eq begun distinct place
    simp only [recordOf, address, if_true, Verdict.record, kept, Option.isNone_none, Verdict.call, probe, unsure,
      StoreCall.advance] at record
    obtain ⟨stats, found, same⟩ := Option.map_eq_some_iff.mp record
    exact ⟨stats, found, congrArg (·.status) same, congrArg (·.metrics) same, congrArg (·.isBlackScreen) same⟩

/-! ### Two runs -/

/-- **Two runs over the same streams cannot be told apart** by what becomes of any stream but one. -/
structure Isolated (around other : Circumstances) (settings : ProbingSettings) (streams : List Stream)
    (place : Fin streams.length) (first second : RunSummary) (last later : Site) : Prop where
  /-- any other stream comes to the same -/
  outcome : ∀ apart : Fin streams.length, apart ≠ place → ∀ outcome,
    (apart.val, outcome) ∈ last.outcomes ↔ (apart.val, outcome) ∈ later.outcomes
  /-- and what is kept of it is the same, but for the times -/
  record : ∀ id, id ≠ (streams.get place).id →
    (last.store.get? id).map StreamStats.untimed = (later.store.get? id).map StreamStats.untimed
  /-- the lines about streams are the same, but for that of the one stream, if it has one -/
  errors : first.errors.Perm
      ((RunSummary.line? (fullResult around settings streams place)).toList ++ linesBut around settings streams place) ∧
    second.errors.Perm
      ((RunSummary.line? (fullResult other settings streams place)).toList ++ linesBut around settings streams place)
  /-- the counts differ in what the one stream adds to them -/
  counts : counts last + (outcomeOf settings (other.verdict place) (streams.get place)).share =
    counts later + (outcomeOf settings (around.verdict place) (streams.get place)).share
  /-- the media tools are asked of the same streams -/
  probed : ∀ any : Fin streams.length, any.val ∈ last.probed ↔ any.val ∈ later.probed

section
variable {place : Fin streams.length}
  (agree : ∀ apart : Fin streams.length, apart ≠ place → around.verdict apart = other.verdict apart)
include agree

theorem fullResult_congr {apart : Fin streams.length} (among : apart ∈ (List.finRange streams.length).erase place) :
    fullResult around settings streams apart = fullResult other settings streams apart := by
  rw [fullResult, fullResult, agree apart ((List.nodup_finRange _).mem_erase_iff.mp among).1]

theorem linesBut_congr : linesBut around settings streams place = linesBut other settings streams place := by
  rw [linesBut, linesBut, List.map_congr_left fun apart => fullResult_congr agree]

variable {first second : RunSummary} {last later : Site}

/-- Two runs that were summed up, and that differ in one stream. -/
theorem SummedUp.isolated (one : SummedUp around settings streams store first last)
    (two : SummedUp other settings streams store second later) (goesOn : first.isCancelled = false)
    (goesOnToo : second.isCancelled = false) (distinct : (streams.map (·.id)).Nodup) :
    Isolated around other settings streams place first second last later := by
  have begun := one.begun goesOn
  have begunToo := two.begun goesOnToo
  obtain ⟨results, startedAt, completedAt, probed, rfl⟩ := one.probed
  obtain ⟨resultsToo, startedAtToo, completedAtToo, probedToo, rfl⟩ := two.probed
  constructor
  case outcome =>
    intro apart differ outcome
    rw [probed.mem_outcomes_iff begun, probedToo.mem_outcomes_iff begunToo, agree apart differ]
  case record =>
    intro id differ
    by_cases known : id ∈ streams.map (·.id)
    · obtain ⟨stream, among, rfl⟩ := List.mem_map.mp known
      obtain ⟨apart, rfl⟩ := List.mem_iff_get.mp among
      have apartFrom : apart ≠ place := fun same => differ (congrArg (fun any => (streams.get any).id) same)
      rw [probed.record_eq begun distinct apart, probedToo.record_eq begunToo distinct apart, agree apart apartFrom]
    · rw [probed.elsewhere id known, probedToo.elsewhere id known]
  case errors =>
    refine ⟨probed.errors_perm begun place _ _ _, ?_⟩
    rw [linesBut_congr agree]
    exact probedToo.errors_perm begunToo place _ _ _
  case counts =>
    rw [probed.counts_eq begun place, probedToo.counts_eq begunToo place,
      List.map_congr_left fun apart among => congrArg (·.2.share) (fullResult_congr agree among), add_right_comm,
      add_comm (outcomeOf settings (around.verdict place) _).share, add_right_comm]
  case probed =>
    intro any
    rw [(probed.stands any).probed, (probedToo.stands any).probed]
    simp only [begun, begunToo]

end

/-- **What happens to one stream of a run stays with it.** Whatever the accounts of providers come to, and whether
they are refreshed at all: two runs over the same streams that are not stopped, and that differ in what is told of one
stream or in whether the store keeps it, are alike in all the others. A probe that succeeds is a success even when it
cannot be told whether the screen is black. -/
theorem run_isolates (around other : Circumstances) (settings : ProbingSettings) (streams : List Stream)
    (distinct : (streams.map (·.id)).Nodup) (place : Fin streams.length)
    (agree : ∀ apart : Fin streams.length, apart ≠ place → around.verdict apart = other.verdict apart)
    (store : Memory) {size nextSize : UInt32} {only onlyToo : Option (List Int)} {skipRefresh skipToo : Bool}
    (listed : around.listed only = .ok streams) (listedToo : other.listed onlyToo = .ok streams)
    {first second : RunSummary} {last later : Site}
    (one : ComesTo around settings size only skipRefresh store first last)
    (two : ComesTo other settings nextSize onlyToo skipToo store second later)
    (goesOn : first.isCancelled = false) (goesOnToo : second.isCancelled = false) :
    Isolated around other settings streams place first second last later ∧
      ∀ (any : Fin streams.length) (metrics : Metrics) (error : ProbeError),
        (address? (streams.get any)).isSome = true → (around.verdict any).probe = .ok metrics →
        (around.verdict any).sample = .error error → (around.verdict any).fault = none →
        (any.val, .succeeded false) ∈ last.outcomes ∧
          ∃ stats, last.store.get? (streams.get any).id = some stats ∧
            stats.status = .success ∧ stats.metrics = metrics ∧ stats.isBlackScreen = none := by
  obtain ⟨known, given, one⟩ := one.summedUp
  obtain rfl : streams = known := Except.ok.inj (listed.symm.trans given)
  obtain ⟨knownToo, givenToo, two⟩ := two.summedUp
  obtain rfl : streams = knownToo := Except.ok.inj (listedToo.symm.trans givenToo)
  exact ⟨one.isolated agree two goesOn goesOnToo distinct,
    fun any metrics error address probe sample kept => one.lenient goesOn distinct address probe sample kept⟩

/-! ### A run in which two things fail -/

/-- In whatever way the streams come to their ends, there is a run in which they do after the accounts could not be
listed. -/
theorem exists_comesTo_unlisted {ids : List Int} (size : UInt32) (listed : around.byIds ids = .ok streams)
    {last : Company (Fin streams.length) Site Ask Ask.Reply (Int × StreamOutcome)}
    (reached : Company.Reaches (venue around settings streams.length)
      (crew settings streams (atStart store streams.length)) last) (isOver : last.IsOver) :
    ∃ summary site, ComesTo around settings size (some ids) false store summary site ∧
      site.outcomes = last.ended.map fun result => (result.1.val, result.2.2) := by
  have told (site : Site) : answers around .wallClock site (some default) site := ⟨rfl, rfl⟩
  have unlisted (site : Site) : answers around (.remote .accounts) site (some (.error .transport)) site := ⟨rfl, rfl⟩
  refine ⟨?_, ?_, ⟨{}, [], none, ?_⟩, ?_⟩
  rotate_left 2
  · refine .head .act (.head .hold (.head .act (.head (.answered (told _)) ?_)))
    refine .head .act (.head .act (.head (.answered (unlisted _)) ?_))
    refine .head .act (.head (.answered ⟨congrArg some listed.symm, rfl⟩) ?_)
    refine .head .act (.head (.answered ⟨last, reached, isOver, rfl, rfl⟩) ?_)
    refine .head .act (.head (.answered (told _)) (.head .act (.head .act (.head .letGo ?_))))
    exact .refl
  · rfl

/-- Two streams that both have an address. -/
def addressed : List Stream := [⟨7, "A", some "http://a", none⟩, ⟨3, "B", some "http://b", none⟩]

/-- Where it cannot be told whether the second stream shows a black screen, and something is told of the first. -/
def tellsOfFirst (verdict : Verdict) : Circumstances where
  pages _ := .error .transport
  byIds _ := .ok addressed
  verdict place := if place = 0 then verdict else ⟨.ok {}, .error (.timeout 10), none⟩

/-- The first stream is well and shows a black screen. -/
def well : Verdict := ⟨.ok {}, .ok true, none⟩

/-- The first stream does not answer. -/
def silent : Verdict := ⟨.error (.timeout 30), .ok false, none⟩

def lookingForBlack : ProbingSettings := { detectBlackScreen := true }

theorem exists_end_well :
    ∃ last, Company.Reaches (venue (tellsOfFirst well) lookingForBlack addressed.length)
        (crew lookingForBlack addressed (atStart .empty addressed.length)) last ∧
      last.IsOver ∧ (last.ended.map fun result => (result.1.val, result.2.2)) =
        [(0, .succeeded true), (1, .succeeded false)] := by
  refine ⟨?_, ?_, ?_⟩
  rotate_left
  · refine .head (.begins (by decide)) (.head (.begins (by decide)) ?_)
    refine .head (.goesOn [] .act) (.head (.goesOn [] .act) (.head (.goesOn [] (.answered ⟨rfl, rfl⟩)) ?_))
    refine .head (.goesOn [] (.answered ⟨rfl, rfl⟩)) (.head (.goesOn [] (.answered ⟨default, rfl, rfl⟩)) ?_)
    refine .head (.goesOn [] .act) (.head (.ends []) ?_)
    refine .head (.goesOn [] .act) (.head (.goesOn [] .act) (.head (.goesOn [] (.answered ⟨rfl, rfl⟩)) ?_))
    refine .head (.goesOn [] (.answered ⟨rfl, rfl⟩)) (.head (.goesOn [] (.answered ⟨default, rfl, rfl⟩)) ?_)
    refine .head (.goesOn [] .act) (.head (.ends []) ?_)
    exact .refl
  · exact ⟨⟨rfl, rfl⟩, rfl⟩

theorem exists_end_silent :
    ∃ last, Company.Reaches (venue (tellsOfFirst silent) lookingForBlack addressed.length)
        (crew lookingForBlack addressed (atStart .empty addressed.length)) last ∧
      last.IsOver ∧ (last.ended.map fun result => (result.1.val, result.2.2)) =
        [(0, .timedOut "Probe timed out after 30s"), (1, .succeeded false)] := by
  refine ⟨?_, ?_, ?_⟩
  rotate_left
  · refine .head (.begins (by decide)) (.head (.begins (by decide)) ?_)
    refine .head (.goesOn [] .act) (.head (.goesOn [] .act) (.head (.goesOn [] (.answered ⟨rfl, rfl⟩)) ?_))
    refine .head (.goesOn [] (.answered ⟨default, rfl, rfl⟩)) (.head (.goesOn [] .act) (.head (.ends []) ?_))
    refine .head (.goesOn [] .act) (.head (.goesOn [] .act) (.head (.goesOn [] (.answered ⟨rfl, rfl⟩)) ?_))
    refine .head (.goesOn [] (.answered ⟨rfl, rfl⟩)) (.head (.goesOn [] (.answered ⟨default, rfl, rfl⟩)) ?_)
    refine .head (.goesOn [] .act) (.head (.ends []) ?_)
    exact .refl
  · exact ⟨⟨rfl, rfl⟩, rfl⟩

/-- A run that leaves no stream alone was not stopped. -/
theorem ComesTo.goesOn {size : UInt32} {only : Option (List Int)} {skipRefresh : Bool}
    (comes : ComesTo around settings size only skipRefresh store summary site) (begun : site.unstarted = 0) :
    summary.isCancelled = false := by
  obtain ⟨streams, -, summedUp⟩ := comes.summedUp
  refine Bool.eq_false_iff.mpr fun stopped => ?_
  have some := summedUp.accounted.cancelled.mp stopped
  rw [begun] at some
  exact nomatch some

/-- The first stream succeeds in one run and fails in another one, for which the accounts could not even be
listed. The second one succeeds in both. -/
theorem run_isolates_of_silent :
    ∃ first second last later,
      ComesTo (tellsOfFirst well) lookingForBlack 50 (some [7, 3]) true .empty first last ∧
      ComesTo (tellsOfFirst silent) lookingForBlack 50 (some [7, 3]) false .empty second later ∧
      last.outcomes = [(0, .succeeded true), (1, .succeeded false)] ∧
      later.outcomes = [(0, .timedOut "Probe timed out after 30s"), (1, .succeeded false)] ∧
      Isolated (tellsOfFirst well) (tellsOfFirst silent) lookingForBlack addressed ⟨0, by decide⟩ first second last
        later ∧
      ∃ stats, last.store.get? 3 = some stats ∧ stats.status = .success ∧ stats.isBlackScreen = none := by
  obtain ⟨_, reached, isOver, ended⟩ := exists_end_well
  obtain ⟨first, last, one, noted⟩ := exists_comesTo 50 rfl reached isOver
  obtain ⟨_, reached, isOver, endedToo⟩ := exists_end_silent
  obtain ⟨second, later, two, notedToo⟩ := exists_comesTo_unlisted 50 rfl reached isOver
  rw [ended] at noted
  rw [endedToo] at notedToo
  have agree : ∀ apart : Fin addressed.length, apart ≠ ⟨0, by decide⟩ →
      (tellsOfFirst well).verdict apart = (tellsOfFirst silent).verdict apart := by
    intro apart differ
    have later : apart.val ≠ 0 := fun same => differ (Fin.ext same)
    exact (if_neg later).trans (if_neg later).symm
  have distinct : (addressed.map (·.id)).Nodup := by decide
  have goesOn : first.isCancelled = false := one.goesOn (by rw [Site.unstarted, noted]; rfl)
  have goesOnToo : second.isCancelled = false := two.goesOn (by rw [Site.unstarted, notedToo]; rfl)
  obtain ⟨isolated, lenient⟩ := run_isolates (tellsOfFirst well) (tellsOfFirst silent) lookingForBlack addressed
    distinct ⟨0, by decide⟩ agree .empty rfl rfl one two goesOn goesOnToo
  obtain ⟨-, stats, found, status, -, unsure⟩ := lenient ⟨1, by decide⟩ {} (.timeout 10) rfl rfl rfl rfl
  exact ⟨first, second, last, later, one, two, noted, notedToo, isolated, stats, found, status, unsure⟩

end StreamWatch.Engine
