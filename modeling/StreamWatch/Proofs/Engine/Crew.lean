/-
**What the streams of a run come to.**

However the streams of a run get along beside each other, and whenever the run is asked to stop, each of
them comes to one result, and the progress has counted all of them. Which streams were left alone decides
on everything else: on the results, but for their order, and on what the store keeps, but for the times.

* `exists_end_crew`, `answered`: the streams of a run can always come to their end, so every question of
  a run has an answer;
* `probed_of_isOver`: how a run has left its streams;
* `Probed.perm`: what the results are, but for their order;
* `Probed.untimed_store_eq`: what the store keeps is the same after two runs.
-/

import StreamWatch.Proofs.Engine.Stream

namespace StreamWatch.Engine

open Program

variable {around : Circumstances} {settings : ProbingSettings} {streams : List Stream} {store : Memory}
  {site : Site}

/-! ### The streams of a run as a company -/

theorem labels_crew : (crew settings streams site).members.map (·.1) = List.finRange streams.length := by
  simp [crew, Company.members, Function.comp_def]

theorem exists_place_of_mem_crew {member : Fin streams.length × Work Site (Int × StreamOutcome)}
    (known : member ∈ (crew settings streams site).members) :
    ∃ place : Fin streams.length, member = (place, onSite (probeStream settings (streams.get place))) := by
  simp only [crew, Company.members, List.append_nil, List.map_nil, List.mem_map] at known
  obtain ⟨place, -, same⟩ := known
  exact ⟨place, same.symm⟩

/-- The streams of a run keep to their pact, whatever each of them ensures. -/
theorem keeps_crew {goal : Fin streams.length → Int × StreamOutcome → Site → Prop}
    (ensures : ∀ place : Fin streams.length, (onSite (probeStream settings (streams.get place))).Ensures
      (besides (around.verdict place) streams place) (goal place) site) :
    (crew settings streams site).Keeps (venue around settings streams.length) (Spares streams)
      (Minds streams) goal where
  distinct := by
    rw [labels_crew]
    exact List.nodup_finRange _
  ensures member known := by
    obtain ⟨place, rfl⟩ := exists_place_of_mem_crew known
    exact ensures place
  within member known := by
    obtain ⟨place, rfl⟩ := exists_place_of_mem_crew known
    exact within_probeStream settings

theorem balanced_crew : (crew settings streams site).Balanced (venue around settings streams.length)
    counts (·.2.share) (counts site) where
  distinct := by
    rw [labels_crew]
    exact List.nodup_finRange _
  paid := by
    refine ⟨fun _ => 0, fun member known => ?_, ?_⟩
    · obtain ⟨place, rfl⟩ := exists_place_of_mem_crew known
      exact pays_probeStream settings
    · simp [crew]

theorem concurrency_pos (settings : ProbingSettings) : 0 < settings.concurrency := by
  have least : concurrencyBounds.1 ≤ settings.concurrency := Nat.le_max_left _ _
  exact least

theorem concurrency_le (settings : ProbingSettings) : settings.concurrency ≤ concurrencyBounds.2 :=
  Nat.max_le.mpr ⟨by decide, Nat.min_le_right _ _⟩

/-- **The streams of a run can come to their end**, whatever there is around them. -/
theorem exists_end_crew (around : Circumstances) (settings : ProbingSettings) (streams : List Stream)
    (site : Site) :
    ∃ last, Company.Reaches (venue around settings streams.length) (crew settings streams site) last ∧
      last.IsOver := by
  have keeps : (crew settings streams site).Keeps (venue around settings streams.length) (Spares streams)
      (Minds streams) fun _ _ _ => True :=
    keeps_crew fun place => (within_probeStream settings).ensures site
  exact keeps.exists_end (pact around settings streams)
    (fun place => answered_about (around.verdict place) place) (concurrency_pos settings)

/-- Every question of a run has an answer. -/
theorem answered (around : Circumstances) (ask : Ask) (site : Site) :
    ∃ reply after, (surroundings around).answers ask site reply after := by
  cases ask with
  | remote call =>
    cases call with
    | streams | streamsByIds => exact ⟨_, _, rfl, rfl⟩
    | _ => exact ⟨some (.error .transport), site, rfl, rfl⟩
  | wallClock => exact ⟨some default, site, rfl, rfl⟩
  | probeStreams settings streams =>
    obtain ⟨last, reached, isOver⟩ := exists_end_crew around settings streams site
    exact ⟨_, _, last, reached, isOver, rfl, rfl⟩
  | store | probe | sample | sleep | clock => exact ⟨_, _, rfl, rfl⟩

/-! ### How a run leaves its streams -/

/-- What a store keeps of a stream, its time aside. -/
def lastKnown (store : Memory) (stream : Stream) : Option StreamStats :=
  (store.get? stream.id).map StreamStats.untimed

/-- Whether a run over so many streams has not counted anything yet. -/
structure Ready (store : Memory) (total : Nat) (site : Site) : Prop where
  probed : site.probed = []
  store : site.store = store
  total : site.cell.progress.total = total
  current : site.cell.progress.current = 0
  counted : counts site = 0

/-- What stays so while the streams of a run have their turns. -/
structure UnderWay (streams : List Stream) (store : Memory) (site : Site) : Prop where
  total : site.cell.progress.total = streams.length
  current : site.cell.progress.current = site.cell.progress.processed
  elsewhere : ∀ id, id ∉ streams.map (·.id) → site.store.get? id = store.get? id

/-- **How a run has left its streams**, with one result of each of them, in the order in which they
came. -/
structure Probed (around : Circumstances) (settings : ProbingSettings) (streams : List Stream)
    (store : Memory) (results : List (Fin streams.length × Int × StreamOutcome)) (site : Site) : Prop
    extends UnderWay streams store site where
  everyone : (results.map (·.1)).Perm (List.finRange streams.length)
  fates : ∀ result ∈ results, Fate settings (around.verdict result.1) streams result.1
    (lastKnown store (streams.get result.1)) result.2 site
  noted : site.outcomes = results.map fun result => (result.1.val, result.2.2)
  counted : counts site = RunSummary.tally (results.map (·.2))

theorem Ready.stands (ready : Ready store streams.length site) (place : Fin streams.length) :
    Stands streams place False (lastKnown store (streams.get place)) site where
  probed := by
    rw [ready.probed]
    exact iff_false_intro List.not_mem_nil
  record _ := by rw [ready.store, lastKnown]

theorem Ready.underWay (ready : Ready store streams.length site) : UnderWay streams store site where
  total := ready.total
  current := by
    obtain ⟨succeeded, failed, skipped⟩ := Tally.mk.inj ready.counted
    have current := ready.current
    unfold Progress.processed
    omega
  elsewhere id _ := by rw [ready.store]

theorem UnderWay.minds {place : Fin streams.length} {later : Site} (underWay : UnderWay streams store site)
    (minds : Minds streams place site later) : UnderWay streams store later where
  total := minds.total.trans underWay.total
  current := minds.current underWay.current
  elsewhere id foreign := by
    have other : id ≠ (streams.get place).id := by
      rintro rfl
      exact foreign (List.mem_map_of_mem (List.getElem_mem _))
    exact (minds.record id other).trans (underWay.elsewhere id foreign)

/-- **What the streams of a run come to together** is what each of them comes to, and the progress has
counted it. -/
theorem probed_of_isOver (ready : Ready store streams.length site)
    {last : Company (Fin streams.length) Site Ask Ask.Reply (Int × StreamOutcome)}
    (reached : Company.Reaches (venue around settings streams.length) (crew settings streams site) last)
    (isOver : last.IsOver) :
    Probed around settings streams store last.ended
      { last.state with outcomes := last.ended.map fun result => (result.1.val, result.2.2) } := by
  have fated (place : Fin streams.length) : (onSite (probeStream settings (streams.get place))).Ensures
      (besides (around.verdict place) streams place)
      (Fate settings (around.verdict place) streams place (lastKnown store (streams.get place))) site :=
    ensures_probeStream (ready.stands place) settings
  have keeps := keeps_crew fated
  have allKeep := pact around settings streams
  obtain ⟨kept, labels⟩ := keeps.reaches allKeep reached
  rw [Company.labels_of_isOver isOver, labels_crew] at labels
  -- what is not a matter of any one stream: no stream and no request to stop undoes it
  have underWay : UnderWay streams store last.state := by
    refine keeps.holds allKeep _ ?_ (fun _ _ _ minds underWay => underWay.minds minds) reached ready.underWay
    rintro state later rfl underWay
    exact ⟨underWay.total, underWay.current, underWay.elsewhere⟩
  -- what all streams add to: each has added its share when it has ended
  have counted : counts last.state = RunSummary.tally (last.ended.map (·.2)) := by
    have sums := (balanced_crew.reaches (by rintro state later rfl; rfl) reached).eq_of_isOver isOver
    rw [ready.counted, zero_add] at sums
    rw [← RunSummary.sum_share, List.map_map]
    exact sums
  refine ⟨⟨underWay.total, underWay.current, underWay.elsewhere⟩, labels, fun result member => ?_, rfl,
    counted⟩
  exact stable_fate last.state _ ⟨id, Iff.rfl, fun _ => rfl⟩ (kept.goal_of_ended member)

namespace Probed

variable {results others : List (Fin streams.length × Int × StreamOutcome)} {other : Site}

/-- A request to stop and what is told of a run undo nothing. -/
theorem putCell (probed : Probed around settings streams store results site) {cell : EngineCell}
    (stopped : site.cell.isCancelled = true → cell.isCancelled = true)
    (total : cell.progress.total = site.cell.progress.total)
    (current : cell.progress.current = site.cell.progress.current)
    (counted : counts (site.putCell cell) = counts site) :
    Probed around settings streams store results (site.putCell cell) where
  everyone := probed.everyone
  fates result member := stable_fate site _ ⟨stopped, Iff.rfl, fun _ => rfl⟩ (probed.fates result member)
  noted := probed.noted
  counted := counted.trans probed.counted
  total := total.trans probed.total
  current := by
    have before := probed.current
    obtain ⟨succeeded, failed, skipped⟩ := Tally.mk.inj counted
    simp only [Site.putCell] at succeeded failed skipped
    unfold Progress.processed at before
    show cell.progress.current = cell.progress.processed
    unfold Progress.processed
    omega
  elsewhere := probed.elsewhere

theorem stop (probed : Probed around settings streams store results site) :
    Probed around settings streams store results site.stop :=
  probed.putCell (fun _ => rfl) rfl rfl rfl

/-! ### Which streams were left alone -/

variable (probed : Probed around settings streams store results site)
include probed

theorem exists_result (place : Fin streams.length) : ∃ result ∈ results, result.1 = place :=
  List.mem_map.mp (probed.everyone.mem_iff.mpr (List.mem_finRange place))

theorem unstarted_iff {result : Fin streams.length × Int × StreamOutcome} (member : result ∈ results) :
    (result.1.val, .notStarted) ∈ site.outcomes ↔ result.2.2 = .notStarted := by
  rw [probed.noted, List.mem_map]
  constructor
  · rintro ⟨same, known, note⟩
    obtain ⟨place, unstarted⟩ := Prod.mk.injEq .. ▸ note
    have distinct : (results.map (·.1)).Nodup := probed.everyone.nodup_iff.mpr (List.nodup_finRange _)
    rw [← List.inj_on_of_nodup_map distinct known member (Fin.ext place)]
    exact unstarted
  · intro unstarted
    exact ⟨result, member, by rw [unstarted]⟩

/-- The notes tell which of its fates a stream has come to. -/
theorem fate {result : Fin streams.length × Int × StreamOutcome} (member : result ∈ results) :
    (result.1.val, .notStarted) ∈ site.outcomes ∧ result.2.2 = .notStarted ∧
        site.cell.isCancelled = true ∧
        Stands streams result.1 False (lastKnown store (streams.get result.1)) site ∨
      (result.1.val, .notStarted) ∉ site.outcomes ∧
        result.2.2 = outcomeOf settings (around.verdict result.1) (streams.get result.1) ∧
        Stands streams result.1 ((address? (streams.get result.1)).isSome = true)
          (recordOf settings (around.verdict result.1) (streams.get result.1)
            (lastKnown store (streams.get result.1))) site := by
  have left := probed.unstarted_iff member
  obtain ⟨-, ⟨unstarted, stopped, stands⟩ | ⟨started, stands⟩⟩ := probed.fates result member
  · exact .inl ⟨left.mpr unstarted, unstarted, stopped, stands⟩
  · refine .inr ⟨fun alone => ?_, started, stands⟩
    exact outcomeOf_ne_notStarted _ _ _ (started.symm.trans (left.mp alone))

/-- Where a stream stands after a run, by whether it was left alone. -/
theorem stands (place : Fin streams.length) :
    Stands streams place
      ((place.val, .notStarted) ∉ site.outcomes ∧ (address? (streams.get place)).isSome = true)
      (if (place.val, .notStarted) ∈ site.outcomes then lastKnown store (streams.get place)
        else recordOf settings (around.verdict place) (streams.get place)
          (lastKnown store (streams.get place))) site := by
  obtain ⟨result, member, rfl⟩ := probed.exists_result place
  obtain ⟨alone, -, -, stands⟩ | ⟨begun, -, stands⟩ := probed.fate member
  · rw [if_pos alone]
    exact ⟨stands.probed.trans ⟨False.elim, fun both => both.1 alone⟩, stands.record⟩
  · rw [if_neg begun]
    exact ⟨stands.probed.trans ⟨fun address => ⟨begun, address⟩, fun both => both.2⟩, stands.record⟩

end Probed

/-- What a stream comes to, by the notes on which streams were left alone. -/
def resultOf (around : Circumstances) (settings : ProbingSettings) (streams : List Stream)
    (outcomes : List (Nat × StreamOutcome)) (place : Fin streams.length) : Int × StreamOutcome :=
  ((streams.get place).id,
    if (place.val, .notStarted) ∈ outcomes then .notStarted
    else outcomeOf settings (around.verdict place) (streams.get place))

namespace Probed

variable {results others : List (Fin streams.length × Int × StreamOutcome)} {other : Site}

theorem result_eq (probed : Probed around settings streams store results site)
    {result : Fin streams.length × Int × StreamOutcome} (member : result ∈ results) :
    result.2 = resultOf around settings streams site.outcomes result.1 := by
  have own := (probed.fates result member).1
  unfold resultOf
  obtain ⟨alone, unstarted, -⟩ | ⟨begun, started, -⟩ := probed.fate member
  · rw [if_pos alone]
    exact Prod.ext own unstarted
  · rw [if_neg begun]
    exact Prod.ext own started

/-- **The results of a run** are in their order what the streams come to. -/
theorem perm (probed : Probed around settings streams store results site) :
    (results.map (·.2)).Perm
      ((List.finRange streams.length).map (resultOf around settings streams site.outcomes)) := by
  have own : results.map (·.2) =
      (results.map (·.1)).map (resultOf around settings streams site.outcomes) := by
    rw [List.map_map]
    exact List.map_congr_left fun result member => probed.result_eq member
  rw [own]
  exact probed.everyone.map _

section
variable (first : Probed around settings streams store results site)
  (second : Probed around settings streams store others other)
  (same : ∀ place : Fin streams.length,
    (place.val, .notStarted) ∈ site.outcomes ↔ (place.val, .notStarted) ∈ other.outcomes)
include first second same

theorem results_perm : (results.map (·.2)).Perm (others.map (·.2)) := by
  have alike : resultOf around settings streams site.outcomes =
      resultOf around settings streams other.outcomes := by
    funext place
    unfold resultOf
    simp only [same place]
  have one := first.perm
  rw [alike] at one
  exact one.trans second.perm.symm

/-- **What the store keeps** is the same after two runs that left the same streams alone. -/
theorem untimed_store_eq (distinct : (streams.map (·.id)).Nodup) :
    site.store.untimed = other.store.untimed := by
  refine SortedMap.ext_get? fun id => ?_
  show site.store.untimed.get? id = other.store.untimed.get? id
  rw [Memory.get?_untimed, Memory.get?_untimed]
  by_cases known : id ∈ streams.map (·.id)
  · obtain ⟨place, inside, rfl⟩ := List.mem_iff_getElem.mp known
    rw [List.length_map] at inside
    have one := (first.stands ⟨place, inside⟩).record distinct
    have two := (second.stands ⟨place, inside⟩).record distinct
    have alike := one.trans ((if_congr (same ⟨place, inside⟩) rfl rfl).trans two.symm)
    rw [List.getElem_map]
    exact alike
  · rw [first.elsewhere id known, second.elsewhere id known]

end

end Probed
end StreamWatch.Engine
