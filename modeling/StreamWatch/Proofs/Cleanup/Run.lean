/-
**A cleanup takes out the struck streams, and nothing else.**

Whatever the store holds, whichever pages, channels and calls to the store fail, and whenever the
task is asked to stop:

* `ensures_runChannel`, `ensures_runChannels`: one channel, and one after the other until the task
  is asked to stop;
* `ensures_resetRemoved`: the streams that were taken out of some channel are forgotten at the end;
* `ensures_concluded`, `ensures_run`: what a whole execution comes to.
-/

import StreamWatch.Proofs.Cleanup.Site
import StreamWatch.Proofs.Remote.Pages
import StreamWatch.Proofs.Task.Report

namespace StreamWatch.Cleanup

open Program

variable {around : Circumstances} {start site : Site} {struck : List Int} {made : List Channel}
  {bound : Nat} {log : CleanupLog}

/-! ### What the log tells -/

/-- Whether a stream was taken out of one of some channels that were to be changed. -/
def TakenOut (around : Circumstances) (struck : List Int) (made : List Channel) (id : Int) : Prop :=
  ∃ channel ∈ made, around.refusal channel.id = none ∧ id ∈ channel.streams ∧ id ∈ struck

theorem takenOut_append {channel : Channel} {id : Int} :
    TakenOut around struck (made ++ [channel]) id ↔
      TakenOut around struck made id ∨ around.refusal channel.id = none ∧ id ∈ channel.streams ∧
        id ∈ struck := by
  simp only [TakenOut, List.mem_append, List.mem_singleton, or_and_right, exists_or, exists_eq_left]

/-- Whether a log tells which streams were taken out. -/
def Tells (around : Circumstances) (struck : List Int) (made : List Channel)
    (log : CleanupLog) : Prop :=
  ∀ id, id ∈ log.removed.keys ↔ TakenOut around struck made id

theorem tells_nothing : Tells around struck [] {} := by
  intro id
  constructor
  · exact nofun
  · rintro ⟨channel, none, -⟩
    exact nomatch none

theorem mem_keys_remove (log : CleanupLog) (ids : List Int) (id : Int) :
    id ∈ (log.remove ids).removed.keys ↔ id ∈ log.removed.keys ∨ id ∈ ids := by
  show id ∈ (ids.foldl (fun removed id => removed.insert id ()) log.removed).keys ↔ _
  generalize log.removed = removed
  induction ids generalizing removed with
  | nil => simp only [List.foldl_nil, List.not_mem_nil, or_false]
  | cons first rest ih =>
    rw [List.foldl_cons, ih, SortedMap.mem_keys_insert, List.mem_cons, or_comm (a := id = first),
      or_assoc]

theorem Tells.refused (tells : Tells around struck made log) {channel : Channel} {error : RemoteError}
    (refused : around.refusal channel.id = some error) (message : String) :
    Tells around struck (made ++ [channel]) (log.fail message) := by
  intro id
  rw [takenOut_append, refused]
  simp only [reduceCtorEq, false_and, or_false]
  exact tells id

theorem Tells.granted (tells : Tells around struck made log) {channel : Channel}
    (granted : around.refusal channel.id = none) :
    Tells around struck (made ++ [channel]) (log.remove (channel.streams.filter struck.contains)) := by
  intro id
  rw [takenOut_append, mem_keys_remove, tells id, List.mem_filter, List.contains_iff_mem, granted]
  simp only [true_and]

/-! ### One channel after the other -/

/-- What the remote answers to an attempt to change a channel. -/
def verdict (around : Circumstances) (id : Int) : Except RemoteError Unit :=
  match around.refusal id with
  | some error => .error error
  | none => .ok ⟨⟩

/-- An attempt to change a channel. -/
theorem ensures_updateChannel (stand : Stand around start struck made [] bound site)
    (channel : Channel) :
    (onSite (Work.remote (.updateChannel channel.id
        ⟨channel.streams.filter fun id => !struck.contains id⟩))).Ensures
      (surroundings around)
      (fun reply later =>
        reply = verdict around channel.id ∧
          Stand around start struck (made ++ [channel]) [] (bound + 1) later)
      site := by
  refine ensures_ask stable_stand stand fun seen stand reply after answered => ?_
  unfold verdict
  cases refusal : around.refusal channel.id with
  | none =>
    simp only [surroundings, answer, refusal] at answered
    cases answered
    exact ⟨_, rfl, ensures_done ((stable_const _).and stable_stand) ⟨rfl, stand.granted refusal⟩⟩
  | some error =>
    simp only [surroundings, answer, refusal] at answered
    cases answered
    exact ⟨_, rfl, ensures_done ((stable_const _).and stable_stand) ⟨rfl, stand.refused refusal⟩⟩

/-- **One channel**: the struck streams are taken out of it, or it cannot be changed and stays as it
is. -/
theorem ensures_runChannel (stand : Stand around start struck made [] bound site)
    (tells : Tells around struck made log) (channel : Channel) :
    (onSite (runChannel struck log channel)).Ensures (surroundings around)
      (fun after later => Tells around struck (made ++ [channel]) after ∧
        Stand around start struck (made ++ [channel]) [] (bound + 1) later) site := by
  unfold runChannel
  refine ensures_change firm_stand (fun _ => rfl) stand fun later stand => ?_
  have parted : channel.streams.partition struck.contains =
      (channel.streams.filter struck.contains, channel.streams.filter fun id => !struck.contains id) :=
    List.partition_eq_filter_filter ..
  generalize channel.streams.partition struck.contains = parts at parted
  subst parted
  rw [onSite_bind]
  refine ensures_bind ((ensures_updateChannel stand channel).mono ?_)
  rintro reply later ⟨rfl, stand⟩
  unfold verdict
  cases refusal : around.refusal channel.id with
  | none =>
    refine ensures_change firm_stand (fun _ => rfl) stand fun later stand => ?_
    exact ensures_done ((stable_const _).and stable_stand) ⟨tells.granted refusal, stand⟩
  | some error =>
    refine ensures_change firm_stand (fun _ => rfl) stand fun later stand => ?_
    exact ensures_done ((stable_const _).and stable_stand) ⟨tells.refused refusal _, stand⟩

/-- What going through some channels comes to: some were begun, and they are told apart from those
that were not. -/
structure Passed (around : Circumstances) (start : Site) (struck : List Int) (due made : List Channel)
    (isStopped : Bool) (log : CleanupLog) (site : Site) : Prop where
  begun : made <+: due
  /-- without a request to stop every channel was begun -/
  all : isStopped = false → made = due
  stopped : isStopped = true → site.cell.isCancelled = true
  /-- with a request to stop from before the execution no channel was -/
  early : start.cell.isCancelled = true → made = []
  tells : Tells around struck made log
  stand : Stand around start struck made [] 1 site

theorem stable_passed {due : List Channel} {isStopped : Bool} :
    Stable (surroundings around) (Passed around start struck due made isStopped log) := by
  rintro site after rfl passed
  exact { passed with stopped := fun _ => rfl, stand := passed.stand.stop }

/-- **One channel after the other**, until the task is asked to stop. -/
theorem ensures_runChannels (rest : List Channel) (stand : Stand around start struck made [] 1 site)
    (tells : Tells around struck made log) (early : start.cell.isCancelled = true → made = []) :
    (onSite (runChannels struck log rest)).Ensures (surroundings around)
      (fun result later => ∃ begun,
        Passed around start struck (made ++ rest) begun result.1 result.2 later) site := by
  have stays (due : List Channel) (result : Bool × CleanupLog) :
      Stable (surroundings around) fun later =>
        ∃ begun, Passed around start struck due begun result.1 result.2 later := by
    rintro state later changed ⟨begun, passed⟩
    exact ⟨begun, stable_passed state later changed passed⟩
  induction rest generalizing made log site with
  | nil =>
    refine ensures_done (stays _ _) ⟨made, ?_⟩
    rw [List.append_nil]
    exact { begun := List.prefix_rfl, all := fun _ => rfl, stopped := nofun, early, tells, stand }
  | cons channel rest ih =>
    unfold runChannels
    rw [onSite_bind]
    refine ensures_bind ((ensures_lookIsCancelled stand).mono ?_)
    rintro isStopped later ⟨stopped, fresh, stand⟩
    cases isStopped with
    | true =>
      exact ensures_done (stays _ _)
        ⟨made, { begun := List.prefix_append _ _, all := nofun, stopped, early, tells, stand }⟩
    | false =>
      show (onSite (runChannel struck log channel >>= fun log =>
        runChannels struck log rest)).Ensures _ _ later
      rw [onSite_bind]
      refine ensures_bind ((ensures_runChannel stand tells channel).mono ?_)
      rintro log last ⟨tells, stand⟩
      have goesOn := fresh rfl
      rw [List.append_cons]
      refine ih stand tells fun isStopped => ?_
      rw [goesOn] at isStopped
      exact nomatch isStopped

/-! ### Forgetting what was taken out -/

/-- What a cleanup comes to that has to change some channels: it has begun some of them, and has had
forgotten which streams it took out. -/
structure Ended (around : Circumstances) (start : Site) (struck : List Int) (due made : List Channel)
    (forgotten : List Int) (site : Site) : Prop where
  begun : made <+: due
  all : Note.stop ∉ site.notes → start.cell.isCancelled = false → made = due
  early : start.cell.isCancelled = true → made = []
  ascending : forgotten.Pairwise (· < ·)
  taken : ∀ id, id ∈ forgotten ↔ TakenOut around struck made id
  stand : Stand around start struck made forgotten 1 site

theorem stable_ended {due : List Channel} {forgotten : List Int} :
    Stable (surroundings around) (Ended around start struck due made forgotten) := by
  rintro site after rfl ended
  refine { ended with all := fun unasked => ?_, stand := ended.stand.stop }
  exact absurd (List.mem_append_right _ List.mem_cons_self) unasked

theorem firm_ended {due : List Channel} {forgotten : List Int} :
    Firm around (Ended around start struck due made forgotten) where
  stable := stable_ended
  putCell ended same := { ended with all := ended.all, stand := ended.stand.putCell same }

/-- Whether a cleanup that had to change some channels is over. -/
def Over (around : Circumstances) (start : Site) (struck : List Int) (due : List Channel)
    (site : Site) : Prop :=
  ∃ made forgotten, Ended around start struck due made forgotten site

/-- Whether it is over with some report: it has begun every channel, unless the report tells that it was asked
to stop. -/
def Concluded (around : Circumstances) (start : Site) (struck : List Int) (due : List Channel)
    (report : TaskReport) (site : Site) : Prop :=
  ∃ made forgotten, Ended around start struck due made forgotten site ∧
    (report.isCancelled = false → made = due)

theorem stable_concluded {due : List Channel} {report : TaskReport} :
    Stable (surroundings around) (Concluded around start struck due report) := by
  rintro site later changed ⟨made, forgotten, ended, all⟩
  exact ⟨made, forgotten, stable_ended site later changed ended, all⟩

/-- A cleanup that has nothing to do is over when nothing was done. -/
theorem concluded_of_nothing (stand : Stand around start struck [] [] 1 site) (report : TaskReport) :
    Concluded around start struck [] report site :=
  ⟨[], [],
    { begun := List.prefix_rfl, all := fun _ _ => rfl, early := fun _ => rfl, ascending := .nil,
      taken := tells_nothing, stand }, fun _ => rfl⟩

theorem Passed.ended {due : List Channel} {isStopped : Bool}
    (passed : Passed around start struck due made isStopped log site)
    {last : Site} (later : site.cell.isCancelled = true → last.cell.isCancelled = true)
    (stand : Stand around start struck made log.removed.keys 1 last) :
    Ended around start struck due made log.removed.keys last where
  begun := passed.begun
  all unasked fresh := by
    cases isStopped with
    | false => exact passed.all rfl
    | true =>
      rcases stand.stopped.mp (later (passed.stopped rfl)) with before | noted
      · rw [fresh] at before
        exact nomatch before
      · exact absurd noted unasked
  early := passed.early
  ascending := log.removed.keys_pairwise
  taken := passed.tells
  stand

theorem ensures_reset {due : List Channel} {isStopped : Bool}
    (passed : Passed around start struck due made isStopped log site) (some : log.removed.keys ≠ []) :
    (onSite (Work.store (.reset log.removed.keys))).Ensures (surroundings around)
      (fun _ later => Ended around start struck due made log.removed.keys later) site := by
  refine ensures_ask stable_passed passed fun seen passed reply after answered => ?_
  have ended : Ended around start struck due made log.removed.keys
      { seen.note [.reset log.removed.keys] with
        store := storeAfter around seen.store log.removed.keys } :=
    passed.ended id (passed.stand.forgot some)
  cases fault : around.fault (.reset log.removed.keys) with
  | none =>
    rw [storeAfter, if_pos fault] at ended
    simp only [surroundings, answer, fault] at answered
    cases answered
    exact ⟨_, rfl, ensures_done stable_ended ended⟩
  | some error =>
    have fails : around.fault (.reset log.removed.keys) ≠ none := by
      rw [fault]
      exact nofun
    rw [storeAfter, if_neg fails] at ended
    simp only [surroundings, answer, fault] at answered
    cases answered
    exact ⟨_, rfl, ensures_done stable_ended ended⟩

/-- **The streams that were taken out of some channel are forgotten**, and only they. -/
theorem ensures_resetRemoved {due : List Channel} {isStopped : Bool}
    (passed : Passed around start struck due made isStopped log site) :
    (onSite (resetRemoved log)).Ensures (surroundings around)
      (fun _ later => Ended around start struck due made log.removed.keys later) site := by
  unfold resetRemoved
  by_cases nothing : log.removed.keys.isEmpty = true
  · rw [if_pos nothing]
    refine ensures_done stable_ended (passed.ended id ?_)
    rw [List.isEmpty_iff.mp nothing]
    exact passed.stand
  · rw [if_neg nothing]
    have some : log.removed.keys ≠ [] := fun none => nothing (List.isEmpty_iff.mpr none)
    rw [onSite_bind]
    refine ensures_bind ((ensures_reset passed some).mono fun reply later ended => ?_)
    cases reply with
    | ok count => exact ensures_done stable_ended ended
    | error error => exact ensures_done stable_ended ended

/-! ### A whole execution -/

/-- The listing of channels comes to what its pages are, and changes nothing. -/
theorem ensures_channels {holds : Site → Prop} (size : UInt32) (stable : Stable (surroundings around) holds)
    (before : holds site) :
    (onSite (Pages.channels size)).Ensures (surroundings around)
      (fun reply later => reply = Pages.collect around.pages ∧ holds later) site := by
  unfold onSite Pages.channels Pages.walk
  rw [Pages.zoom_walkFrom]
  refine Pages.ensures_walk stable (fun number seen held => ?_) before
  refine ensures_ask stable held fun asked held reply after answered => ?_
  cases answered
  exact ⟨_, rfl, ensures_done ((stable_const _).and stable) ⟨rfl, held⟩⟩

/-- What the store answers when it is asked for the struck streams. -/
def listing (around : Circumstances) (store : Memory) (threshold : UInt32) :
    Except StoreError (List StreamStats) :=
  match around.fault (.listStruck threshold) with
  | some error => .error error
  | none => .ok (store.select (Memory.isStruck threshold))

theorem ensures_listStruck {holds : Site → Prop} {store : Memory} (threshold : UInt32)
    (stable : Stable (surroundings around) holds) (kept : ∀ seen, holds seen → seen.store = store)
    (before : holds site) :
    (onSite (Work.store (.listStruck threshold))).Ensures (surroundings around)
      (fun reply later => reply = listing around store threshold ∧ holds later) site := by
  refine ensures_ask stable before fun seen held reply after answered => ?_
  have same := kept seen held
  unfold listing
  cases fault : around.fault (.listStruck threshold) with
  | none =>
    simp only [surroundings, answer, fault, Note.ofStore, Site.note_nil, Memory.answer] at answered
    cases answered
    refine ⟨_, rfl, ensures_done ((stable_const _).and stable) ⟨?_, held⟩⟩
    rw [same]
  | some error =>
    simp only [surroundings, answer, fault, Note.ofStore, Site.note_nil] at answered
    cases answered
    exact ⟨_, rfl, ensures_done ((stable_const _).and stable) ⟨rfl, held⟩⟩

/-- As long as no runs of failures were forgotten, the store is as it was. -/
theorem Stand.store_eq (stand : Stand around start struck made [] bound site) : site.store = start.store := by
  rw [stand.store, storeAfter_nil]

/-- The channels that are to be changed, should neither the struck streams nor the channels be
missing. -/
def dueOf (struck : List Int) : Except RemoteError (List Channel) → List Channel
  | .ok channels => affected struck channels
  | .error _ => []

/-- An execution that has found struck streams. -/
theorem ensures_runStruck (size : UInt32) (stand : Stand around start struck [] [] 1 site) :
    (onSite (runStruck size struck)).Ensures (surroundings around)
      (fun report later => Concluded around start struck (dueOf struck (Pages.collect around.pages)) report later)
      site := by
  unfold runStruck
  refine ensures_change firm_stand (fun _ => rfl) stand fun later stand => ?_
  rw [onSite_bind]
  refine ensures_bind ((ensures_channels size stable_stand stand).mono ?_)
  rintro reply later ⟨rfl, stand⟩
  cases Pages.collect around.pages with
  | error error => exact ensures_done stable_concluded (concluded_of_nothing stand _)
  | ok channels =>
    refine ensures_change firm_stand (fun _ => rfl) stand fun later stand => ?_
    rw [onSite_bind]
    refine ensures_bind
      ((ensures_runChannels (affected struck channels) stand tells_nothing fun _ => rfl).mono ?_)
    rintro ⟨isStopped, log⟩ later ⟨made, passed⟩
    show (onSite (resetRemoved log >>= _)).Ensures _ _ later
    rw [onSite_bind]
    refine ensures_bind ((ensures_resetRemoved passed).mono fun log later ended => ?_)
    cases isStopped with
    | true =>
      refine ensures_look firm_ended ended fun p later ended => ensures_done stable_concluded ?_
      refine ⟨made, _, ended, fun goesOn => ?_⟩
      have differ : "errors" ≠ "removed_streams" := by decide
      rw [(((TaskReport.tells_cancelled p _).withDetail differ _).withErrors log.errors).isCancelled_eq] at goesOn
      exact nomatch goesOn
    | false =>
      refine ensures_change firm_ended (fun _ => rfl) ended fun later ended => ?_
      refine ensures_look firm_ended ended fun p later ended => ensures_done stable_concluded ?_
      exact ⟨made, _, ended, fun _ => passed.all rfl⟩

theorem affected_nil (channels : List Channel) : affected [] channels = [] := by
  refine List.filter_eq_nil_iff.mpr fun channel _ => ?_
  simp

theorem dueOf_nil (reply : Except RemoteError (List Channel)) : dueOf [] reply = [] := by
  cases reply with
  | error error => rfl
  | ok channels => exact affected_nil channels

/-- The channels that an execution has to change. -/
def due (around : Circumstances) (store : Memory) (threshold : UInt32) : List Channel :=
  match around.fault (.listStruck threshold) with
  | some _ => []
  | none => dueOf (store.struckIds threshold) (Pages.collect around.pages)

theorem due_of_no_struck {store : Memory} {threshold : UInt32} (none : store.struckIds threshold = []) :
    due around store threshold = [] := by
  unfold due
  rw [none]
  split
  · rfl
  · exact dueOf_nil _

theorem ensures_idle {holds : Site → Prop} (firm : Firm around holds) (before : holds site)
    (message : String) :
    (onSite (idle message)).Ensures (surroundings around) (fun _ later => holds later) site := by
  refine ensures_change firm (fun _ => rfl) before fun later before => ?_
  exact ensures_look firm before fun p later before => ensures_done firm.stable before

/-- **A whole execution** ends, whatever happens around it. -/
theorem ensures_concluded (settings : CleanupSettings) (size : UInt32)
    (stand : Stand around start (start.store.struckIds settings.threshold) [] [] 1 site) :
    (onSite (run settings size)).Ensures (surroundings around)
      (fun report later => Concluded around start (start.store.struckIds settings.threshold)
        (due around start.store settings.threshold) report later) site := by
  unfold run
  refine ensures_change firm_stand (fun _ => rfl) stand fun later stand => ?_
  by_cases off : settings.threshold = 0
  · rw [if_pos off, onSite_bind]
    have none : start.store.struckIds settings.threshold = [] := by rw [off, Memory.struckIds_zero]
    rw [due_of_no_struck none]
    refine ensures_bind ((ensures_idle firm_stand stand _).mono fun report later stand => ?_)
    exact ensures_done stable_concluded (concluded_of_nothing stand _)
  · rw [if_neg off, onSite_bind]
    refine ensures_bind
      ((ensures_listStruck settings.threshold stable_stand (fun _ => Stand.store_eq) stand).mono ?_)
    rintro reply later ⟨rfl, stand⟩
    unfold listing due
    cases around.fault (.listStruck settings.threshold) with
    | some error => exact ensures_done stable_concluded (concluded_of_nothing stand _)
    | none =>
      have listed : start.store.struckIds settings.threshold =
        (start.store.select (Memory.isStruck settings.threshold)).map (·.streamId) := rfl
      generalize start.store.select (Memory.isStruck settings.threshold) = records at listed ⊢
      rw [listed] at stand ⊢
      cases records with
      | nil =>
        show (onSite (idle _)).Ensures _
          (fun report later => Concluded around start [] (dueOf [] (Pages.collect around.pages)) report later) later
        rw [dueOf_nil]
        exact (ensures_idle firm_stand stand _).mono fun report later stand => concluded_of_nothing stand report
      | cons first rest => exact ensures_runStruck size stand

theorem ensures_run (settings : CleanupSettings) (size : UInt32)
    (stand : Stand around start (start.store.struckIds settings.threshold) [] [] 1 site) :
    (onSite (run settings size)).Ensures (surroundings around)
      (fun _ later => Over around start (start.store.struckIds settings.threshold)
        (due around start.store settings.threshold) later) site :=
  (ensures_concluded settings size stand).mono fun _ _ ⟨made, forgotten, ended, _⟩ => ⟨made, forgotten, ended⟩

end StreamWatch.Cleanup
