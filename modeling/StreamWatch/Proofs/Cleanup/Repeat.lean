/-
**A cleanup that is repeated finds nothing to do.**

Once a cleanup has gone through all its channels, none of them carries a struck stream any more. A struck stream
that no channel carried stays struck, so that the next cleanup ends for one of two reasons: no stream is struck,
or no channel carries one that is.

* `Ended.unstruck`: what channels carry after a cleanup that was not stopped;
* `Quiet`, `ensures_nothingDone`: a cleanup without a channel to change does nothing;
* `run_again_idle`: so does one that follows a cleanup in which every change was granted.
-/

import StreamWatch.Proofs.Cleanup.Removal

namespace StreamWatch.Cleanup

open Program

variable {around : Circumstances} {start site last : Site} {struck : List Int}

/-! ### After a cleanup -/

section
variable {threshold : UInt32} {made : List Channel} {forgotten : List Int}
  (ended : Ended around start (start.store.struckIds threshold) (due around start.store threshold)
    made forgotten last)
include ended

/-- A stream that is struck after a cleanup was struck before it. -/
theorem Ended.strikes_before {id : Int} (struck : last.store.strikes threshold id = true) :
    start.store.strikes threshold id = true := by
  rw [Memory.strikes_iff, ended.get?_store] at struck
  obtain ⟨above, stats, found, reached⟩ := struck
  split at found
  · obtain ⟨before, -, rfl⟩ := Option.map_eq_some_iff.mp found
    exact absurd (UInt32.le_antisymm reached (UInt32.zero_le)) above
  · exact Memory.strikes_iff.mpr ⟨above, stats, found, reached⟩

theorem Ended.keyed (keyed : start.store.Keyed) : last.store.Keyed := by
  rw [ended.stand.store, storeAfter]
  split
  · exact keyed.reset forgotten
  · exact keyed

/-- Every change that was asked for was granted. -/
theorem Ended.granted (granted : ∀ id streams, .update id streams ∈ last.notes → around.refusal id = none) :
    ∀ channel ∈ made, around.refusal channel.id = none := by
  intro channel member
  have called : updateOf (start.store.struckIds threshold) channel ∈ Note.calls last.notes := by
    rw [ended.stand.calls]
    exact List.mem_append_left _ (List.mem_map_of_mem member)
  exact granted channel.id _ (List.mem_filter.mp called).1

/-- **No channel carries a struck stream** after a cleanup that has gone through all of them, when every change was
granted. -/
theorem Ended.unstruck (keyed : start.store.Keyed) (all : made = due around start.store threshold)
    (granted : ∀ id streams, .update id streams ∈ last.notes → around.refusal id = none)
    (works : around.fault (.listStruck threshold) = none) {channels : List Channel}
    (listing : Pages.collect around.pages = .ok channels)
    (listed : ∀ channel ∈ channels, start.carried channel.id = channel.streams) :
    ∀ channel ∈ channels, ∀ id ∈ last.carried channel.id, last.store.strikes threshold id = false := by
  rw [due_eq keyed, struckChannels, works, listing] at all
  intro channel member id carries
  have before := (ended.cleared keyed (ended.granted granted) all listed).1 channel member id carries
  refine Bool.eq_false_iff.mpr fun struck => ?_
  rw [ended.strikes_before struck] at before
  cases before

end

/-! ### A cleanup without a channel to change -/

/-- Whether a cleanup has changed nothing and counted no item so far. -/
structure Quiet (around : Circumstances) (start : Site) (struck : List Int) (site : Site) : Prop where
  stand : Stand around start struck [] [] 1 site
  total : site.cell.progress.total = 0
  tally : site.cell.progress.tally = 0

/-- **Nothing was done**, and that is told as a success. -/
structure NothingDone (before : Site) (report : TaskReport) (after : Site) : Prop where
  calls : Note.calls after.notes = []
  store : after.store = before.store
  carried : after.carried = before.carried
  success : report.isSuccess = true
  total : report.total = 0
  tally : report.tally = 0

theorem stable_quiet : Stable (surroundings around) (Quiet around start struck) := by
  rintro site after rfl quiet
  exact { quiet with stand := quiet.stand.stop }

theorem stable_nothingDone {report : TaskReport} : Stable (surroundings around) (NothingDone start report) := by
  rintro site after rfl done
  refine { done with calls := ?_ }
  show Note.calls (site.notes ++ [.stop]) = []
  rw [Note.calls_append, done.calls]
  rfl

/-- What is told of a progress in which nothing was counted. -/
theorem Quiet.nothingDone (quiet : Quiet around start struck site) {p : Progress} {report : TaskReport}
    (tells : TaskReport.Tells p false 0 report) (total : p.total = 0) (tally : p.tally = 0) :
    NothingDone start report site where
  calls := quiet.stand.calls
  store := quiet.stand.store_eq
  carried := quiet.stand.carried
  success := by
    have unfailed : p.failed = 0 := congrArg Tally.failed tally
    rw [tells.success, TaskReport.isSuccessOf, unfailed]
    simp
  total := tells.total.trans total
  tally := tells.tally.trans tally

section
variable {next : Unit → Work TaskCell TaskReport}

/-- The task begins to count. -/
theorem Stand.ensures_start (stand : Stand around start struck [] [] 1 site) {status : String}
    (rest : ∀ later, Quiet around start struck later →
      (onSite (next ⟨⟩)).Ensures (surroundings around) (NothingDone start) later) :
    (onSite (change (·.start status) >>= next)).Ensures (surroundings around) (NothingDone start) site :=
  ensures_act stable_stand stand fun _ stand => rest _ ⟨stand.putCell rfl, rfl, rfl⟩

/-- The task writes anything but that there is something to do. -/
theorem Quiet.ensures_update (quiet : Quiet around start struck site) {update : ProgressUpdate}
    (none : update.total.getD 0 = 0)
    (rest : ∀ later, Quiet around start struck later →
      (onSite (next ⟨⟩)).Ensures (surroundings around) (NothingDone start) later) :
    (onSite (change (·.update update) >>= next)).Ensures (surroundings around) (NothingDone start) site := by
  refine ensures_act stable_quiet quiet fun seen quiet => rest _ ⟨quiet.stand.putCell rfl, ?_, quiet.tally⟩
  show update.total.getD seen.cell.progress.total = 0
  rw [quiet.total, none]

/-- The task tells how far it has come. -/
theorem Quiet.ensures_report (quiet : Quiet around start struck site) {tell : Progress → TaskReport}
    (tells : ∀ p, TaskReport.Tells p false 0 (tell p)) :
    (onSite (look (·.progress) >>= fun p => pure (tell p))).Ensures (surroundings around) (NothingDone start)
      site :=
  ensures_act stable_quiet quiet fun seen quiet =>
    ensures_done stable_nothingDone (quiet.nothingDone (tells seen.cell.progress) quiet.total quiet.tally)

end

/-- Details change nothing in that. -/
theorem NothingDone.withDetail {report : TaskReport} (done : NothingDone start report site) (name : String)
    (value : Json) : NothingDone start (report.withDetail name value) site :=
  { done with success := done.success, total := done.total, tally := done.tally }

theorem Quiet.ensures_idle (quiet : Quiet around start struck site) (message : String) :
    (onSite (idle message)).Ensures (surroundings around) (NothingDone start) site :=
  quiet.ensures_update rfl fun _ quiet => quiet.ensures_report fun p => TaskReport.tells_ofProgress p message

/-- A cleanup that finds struck streams, but no channel that carries one. -/
theorem Quiet.ensures_runStruck (quiet : Quiet around start struck site) (size : UInt32) {channels : List Channel}
    (listing : Pages.collect around.pages = .ok channels) (none : affected struck channels = []) :
    (onSite (runStruck size struck)).Ensures (surroundings around) (NothingDone start) site := by
  unfold runStruck
  refine quiet.ensures_update rfl fun later quiet => ?_
  rw [onSite_bind]
  refine ensures_bind ((ensures_channels size stable_quiet quiet).mono ?_)
  rintro reply later ⟨rfl, quiet⟩
  rw [listing]
  dsimp only
  rw [none]
  refine quiet.ensures_update rfl fun later quiet => ?_
  refine quiet.ensures_update rfl fun later quiet => ?_
  refine ensures_act stable_quiet quiet fun seen quiet => ensures_done stable_nothingDone ?_
  refine NothingDone.withDetail (NothingDone.withDetail ?_ "struck_streams" _) "removed_streams" _
  exact quiet.nothingDone (TaskReport.tells_ofProgress seen.cell.progress _) quiet.total quiet.tally

/-- **A cleanup without a channel to change does nothing**, whether any stream is struck or not. -/
theorem ensures_nothingDone (settings : CleanupSettings) (size : UInt32)
    (stand : Stand around start (start.store.struckIds settings.threshold) [] [] 1 site)
    (works : around.fault (.listStruck settings.threshold) = none) {channels : List Channel}
    (listing : Pages.collect around.pages = .ok channels)
    (none : affected (start.store.struckIds settings.threshold) channels = []) :
    (onSite (run settings size)).Ensures (surroundings around) (NothingDone start) site := by
  unfold run
  refine stand.ensures_start fun later quiet => ?_
  by_cases off : settings.threshold = 0
  · rw [if_pos off, onSite_bind]
    refine ensures_bind ((quiet.ensures_idle _).mono fun report later done => ?_)
    exact ensures_done stable_nothingDone (done.withDetail _ _)
  · rw [if_neg off, onSite_bind]
    refine ensures_bind ((ensures_listStruck settings.threshold stable_quiet
      (fun _ quiet => quiet.stand.store_eq) quiet).mono ?_)
    rintro reply later ⟨rfl, quiet⟩
    rw [Cleanup.listing, works]
    have struck : start.store.struckIds settings.threshold =
      (start.store.select (Memory.isStruck settings.threshold)).map (·.streamId) := rfl
    generalize start.store.select (Memory.isStruck settings.threshold) = records at struck ⊢
    cases records with
    | nil => exact quiet.ensures_idle _
    | cons first rest =>
      rw [struck] at quiet none
      exact quiet.ensures_runStruck size listing none

/-! ### One cleanup after another -/

/-- The circumstances of a cleanup that follows another one: the struck streams can be had, and a listing of some
of the same channels, as they are by then. -/
structure Follows (threshold : UInt32) (channels : List Channel) (last : Site) (again : Circumstances) : Prop where
  works : again.fault (.listStruck threshold) = none
  listing : ∃ relisted, Pages.collect again.pages = .ok relisted ∧
    ∀ channel ∈ relisted, (∃ same ∈ channels, same.id = channel.id) ∧ channel.streams = last.carried channel.id

/-- **A cleanup that is repeated does nothing**, when every change that was asked for was granted and the first one
was not stopped. It does not matter whether the runs of failures could be forgotten, nor whether the second one is
asked to stop. -/
theorem run_again_idle (around : Circumstances) (settings : CleanupSettings) (size : UInt32) (cell : TaskCell)
    (store : Memory) (carried : Int → List Int) (keyed : store.Keyed)
    (works : around.fault (.listStruck settings.threshold) = none) {channels : List Channel}
    (listing : Pages.collect around.pages = .ok channels)
    (listed : ∀ channel ∈ channels, carried channel.id = channel.streams) :
    Settles (surroundings around)
      (fun report last => report.isCancelled = false →
        (∀ id streams, .update id streams ∈ last.notes → around.refusal id = none) →
        ∀ again : Circumstances, Follows settings.threshold channels last again →
        ∀ (nextSize : UInt32) (nextCell : TaskCell),
          let next : Site := { cell := nextCell, store := last.store, carried := last.carried }
          Settles (surroundings again) (NothingDone next) (onSite (run settings nextSize)) next)
      (onSite (run settings size)) { cell, store, carried } := by
  let start : Site := { cell, store, carried }
  have stand := stand_unbegun around cell store carried (start.store.struckIds settings.threshold)
  refine settles_of_ensures (answered around) ((ensures_concluded settings size stand).mono ?_)
  rintro report last ⟨made, forgotten, ended, all⟩ goesOn granted again follows nextSize nextCell next
  obtain ⟨relisted, relisting, same⟩ := follows.listing
  have unstruck := ended.unstruck keyed (all goesOn) granted works listing listed
  have none : affected (last.store.struckIds settings.threshold) relisted = [] := by
    refine List.filter_eq_nil_iff.mpr fun channel member => ?_
    obtain ⟨⟨twin, among, identical⟩, streams⟩ := same channel member
    rw [Memory.contains_struckIds (ended.keyed keyed), List.any_eq_true]
    rintro ⟨id, carries, struck⟩
    rw [streams, ← identical] at carries
    rw [unstruck twin among id carries] at struck
    exact nomatch struck
  have standNext := stand_unbegun again nextCell last.store last.carried (last.store.struckIds settings.threshold)
  exact settles_of_ensures (answered again)
    (ensures_nothingDone settings nextSize standNext follows.works relisting none)

/-- One channel to change. -/
def oneToChange : Site := { cell := {}, store := twoFailures, carried := fun _ => [7, 8, 7] }

/-- The remote with the one channel once the stream that failed has been taken out of it. -/
def oneChannelLater : Circumstances :=
  { oneChannel with pages := fun _ => .ok { results := [⟨1, "News", none, [8]⟩] } }

/-- A cleanup that changes one channel, and the one after it. -/
theorem run_again_idle_of_twoFailures :
    twoFailures.Keyed ∧ oneChannel.fault (.listStruck 2) = none ∧
      Pages.collect oneChannel.pages = .ok [⟨1, "News", none, [7, 8, 7]⟩] ∧
      ∃ report last,
        Reaches (surroundings oneChannel) ⟨onSite (run ⟨2⟩ 50), [], none, oneToChange⟩
          ⟨.done report, [], none, last⟩ ∧
        report.succeeded = 1 ∧ last.carried 1 = [8] ∧
        let next : Site := { cell := {}, store := last.store, carried := last.carried }
        Settles (surroundings oneChannelLater) (NothingDone next) (onSite (run ⟨2⟩ 50)) next := by
  have keyed : twoFailures.Keyed := Memory.keyed_after _
  have listed : ∀ channel ∈ [(⟨1, "News", none, [7, 8, 7]⟩ : Channel)], [7, 8, 7] = channel.streams := by decide
  have stand := stand_unbegun oneChannel {} twoFailures (fun _ => [7, 8, 7]) (twoFailures.struckIds 2)
  obtain ⟨report, last, same, reached⟩ := (ensures_concluded ⟨2⟩ 50 stand).exists_alone (answers_answer oneChannel)
  have told : ((onSite (run ⟨2⟩ 50)).alone (answer oneChannel) oneToChange).1.map
      (fun report => (report.succeeded, report.isCancelled)) = some (1, false) := by decide
  have carries : ((onSite (run ⟨2⟩ 50)).alone (answer oneChannel) oneToChange).2.carried 1 = [8] := by decide
  rw [oneToChange, same] at told carries
  obtain ⟨succeeded, goesOn⟩ := Prod.mk.inj (Option.some.inj told)
  have follows : Follows 2 [⟨1, "News", none, [7, 8, 7]⟩] last oneChannelLater := by
    refine ⟨rfl, [⟨1, "News", none, [8]⟩], rfl, ?_⟩
    intro channel member
    obtain rfl := List.mem_singleton.mp member
    exact ⟨⟨_, List.mem_singleton_self _, rfl⟩, carries.symm⟩
  have settles := run_again_idle oneChannel ⟨2⟩ 50 {} twoFailures (fun _ => [7, 8, 7]) keyed rfl rfl listed
  obtain ⟨_, ended, again⟩ := settles.ends _ reached ⟨⟩
  cases ended
  exact ⟨keyed, rfl, rfl, report, last, reached, succeeded, carries,
    again goesOn (fun _ _ _ => rfl) oneChannelLater follows 50 {}⟩

end StreamWatch.Cleanup
