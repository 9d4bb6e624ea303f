/-
**What becomes of the guide sources of a refresh.**

Every source that a refresh goes through meets a fate: it is skipped, or its refresh comes to something. The refresh
keeps nothing else of it, so that what is reported in the end is what the fates add up to, in the order of the sources.
What is known of the fates so far is carried on from one source to the next.

* `Fate`, `completed`, `stopped`: the fate of a source, and what is reported of many;
* `Carries`: whether what is known of the fates so far is carried on;
* `Carries.ensures_attend`: what is reported are the fates of the sources.
-/

import StreamWatch.Proofs.Program.Run
import StreamWatch.Proofs.Task.Report
import StreamWatch.Task.GuideRefresh

namespace StreamWatch.GuideRefresh

open Program

/-! ### Fates -/

/-- What becomes of a source. -/
structure Fate where
  source : GuideSource
  /-- what its refresh came to, unless it was skipped -/
  result : Option (Except RefreshFault RefreshVerdict)

namespace Fate

/-- Whether the source counts as a success. -/
def isRefreshed (fate : Fate) : Bool := fate.result.any (·.isOk)

/-- Whether it counts as a failure. -/
def isFailed (fate : Fate) : Bool := fate.result.any (!·.isOk)

/-- Whether it counts as skipped. -/
def isSkipped (fate : Fate) : Bool := fate.result.isNone

/-- The source, when its refresh was only taken to have finished. -/
def assumed : Fate → List Int
  | ⟨source, some (.ok .assumed)⟩ => [source.id]
  | _ => []

/-- What there is to tell of the source, when it was not refreshed. -/
def errors : Fate → List String
  | ⟨source, some (.error fault)⟩ =>
    let reason := fault.message
    [s!"{source.name} ({source.id}): {reason}"]
  | _ => []

end Fate

/-- What a refresh keeps of some fates. -/
def logOf (fates : List Fate) : GuideLog where
  assumed := fates.flatMap Fate.assumed
  errors := fates.flatMap Fate.errors

/-- How far a refresh of so many sources has come with some fates. -/
def progressOf (size : Nat) (fates : List Fate) : Progress where
  total := size
  succeeded := fates.countP Fate.isRefreshed
  failed := fates.countP Fate.isFailed
  skipped := fates.countP Fate.isSkipped

/-- What is reported of the fates of all sources. -/
def completed (fates : List Fate) : TaskReport :=
  let p := progressOf fates.length fates
  ((TaskReport.ofProgress p (completedMessage p)).withDetail "assumed_complete"
    (idList (logOf fates).assumed)).withErrors (logOf fates).errors

/-- What is reported of the fates of some sources, of so many, when the task was asked to stop. -/
def stopped (size : Nat) (fates : List Fate) : TaskReport :=
  let p := progressOf size fates
  (TaskReport.cancelled p s!"EPG refresh cancelled after {p.processed} of {p.total} sources").withErrors
    (logOf fates).errors

section
variable {size : Nat} {fates : List Fate}

theorem logOf_append (fates : List Fate) (fate : Fate) :
    logOf (fates ++ [fate]) =
      ⟨(logOf fates).assumed ++ fate.assumed, (logOf fates).errors ++ fate.errors⟩ := by
  simp only [logOf, List.flatMap_append, List.flatMap_singleton]

/-- One fate more adds one to one of the counts. -/
theorem tally_progressOf_append (size : Nat) (fates : List Fate) (fate : Fate) :
    (progressOf size (fates ++ [fate])).tally =
      (progressOf size fates).tally + ⟨fate.isRefreshed.toNat, fate.isFailed.toNat, fate.isSkipped.toNat⟩ := by
  have counted (holds : Fate → Bool) :
      (fates ++ [fate]).countP holds = fates.countP holds + (holds fate).toNat := by
    rw [List.countP_append, List.countP_singleton]
    cases holds fate <;> rfl
  exact Tally.ext (counted _) (counted _) (counted _)

/-- What is reported depends on the counts only. -/
theorem report_eq_completed {p : Progress} (total : p.total = fates.length)
    (tally : p.tally = (progressOf fates.length fates).tally) :
    ((TaskReport.ofProgress p (completedMessage p)).withDetail "assumed_complete"
      (idList (logOf fates).assumed)).withErrors (logOf fates).errors = completed fates := by
  obtain ⟨_, _, _, _, _, _, _⟩ := p
  cases total
  cases tally
  rfl

theorem report_eq_stopped {p : Progress} (total : p.total = size) (tally : p.tally = (progressOf size fates).tally) :
    (TaskReport.cancelled p s!"EPG refresh cancelled after {p.processed} of {p.total} sources").withErrors
      (logOf fates).errors = stopped size fates := by
  obtain ⟨_, _, _, _, _, _, _⟩ := p
  cases total
  cases tally
  rfl

theorem tally_completed (fates : List Fate) : (completed fates).tally = (progressOf fates.length fates).tally :=
  (((TaskReport.tells_ofProgress _ _).withDetail (by decide) _).withErrors _).tally

theorem assumed_completed (fates : List Fate) :
    (completed fates).details.lookup "assumed_complete" = some (idList (logOf fates).assumed) := by
  unfold completed TaskReport.withErrors
  split
  · exact Json.lookup_putMember_self ..
  · exact (Json.lookup_putMember_of_ne (by decide) _ _).trans (Json.lookup_putMember_self ..)

/-- A source counts as updated when it counts as a success and its refresh was not only taken to have finished. -/
theorem Fate.updated_of_refreshed {fate : Fate} (refreshed : fate.isRefreshed = true) (seen : fate.assumed = []) :
    fate.result = some (.ok .updated) := by
  obtain ⟨source, _ | _ | verdict⟩ := fate
  · exact nomatch refreshed
  · exact nomatch refreshed
  · cases verdict with
    | updated => rfl
    | assumed => exact nomatch seen

/-- Every source counts as updated when all count as successes and no refresh was only taken to have finished. -/
theorem updated_of_completed (all : (completed fates).tally.succeeded = fates.length)
    (seen : (completed fates).details.lookup "assumed_complete" = some (idList [])) :
    ∀ fate ∈ fates, fate.result = some (.ok .updated) := by
  rw [tally_completed] at all
  rw [assumed_completed] at seen
  have none : (logOf fates).assumed = [] := List.map_eq_nil_iff.mp (Json.list.inj (Option.some.inj seen))
  intro fate member
  exact Fate.updated_of_refreshed (List.countP_eq_length.mp all fate member)
    (List.flatMap_eq_nil_iff.mp none fate member)

end

/-! ### Scenes -/

/-- The cell of the task, and the world as far as it matters. -/
structure Scene (ω : Type) where
  cell : TaskCell
  world : ω

variable {ω : Type}

/-- The scene with the cell written. -/
def Scene.put (cell : TaskCell) (scene : Scene ω) : Scene ω := { scene with cell }

/-- A program of the task, over the scene. -/
def onScene {α : Type} (work : Work TaskCell α) : Work (Scene ω) α := work.zoom Scene.cell Scene.put

theorem onScene_bind {α β : Type} (first : Work TaskCell α) (next : α → Work TaskCell β) :
    (onScene (first >>= next) : Work (Scene ω) β) = onScene first >>= fun value => onScene (next value) :=
  zoom_bind _ _ first next

/-- What is done once the sources are listed. -/
def attend (settings : RefreshSettings) (sources : List GuideSource) : Work TaskCell TaskReport := do
  change (·.update { status := some "refreshing", total := some sources.length })
  let (isStopped, log) ← runSources settings {} sources
  if isStopped then
    let p ← look (·.progress)
    return (TaskReport.cancelled p s!"EPG refresh cancelled after {p.processed} of {p.total} sources").withErrors
      log.errors
  change (·.update { status := some "completed", item := some none })
  let p ← look (·.progress)
  return ((TaskReport.ofProgress p (completedMessage p)).withDetail
    "assumed_complete" (idList log.assumed)).withErrors log.errors

/-- Under settings that pass their check, the sources are listed and then attended to. -/
theorem run_eq {settings : RefreshSettings} (checked : settings.check = .ok ⟨⟩) : run settings = (do
    change (·.start "loading EPG sources")
    match ← Work.remote .guideSources with
    | .error error => return .fatal .fetchFailed ("Failed to fetch EPG sources: " ++ error.message)
    | .ok sources => attend settings sources) := by
  unfold run
  rw [checked]
  rfl

/-! ### From source to source -/

variable {around : Surroundings (Scene ω) Ask Ask.Reply} {settings : RefreshSettings} {sources rest : List GuideSource}
  {holds : List Fate → Bool → ω → Prop} {counted fates : List Fate} {size : Nat} {scene : Scene ω}
  {source : GuideSource}

/-- Whether what holds of the fates so far, of whether the task was asked to stop, and of the world is carried on from
source to source, whatever others do. They leave the progress to the task, and take back no request to stop. -/
structure Carries (around : Surroundings (Scene ω) Ask Ask.Reply) (settings : RefreshSettings)
    (sources : List GuideSource) (holds : List Fate → Bool → ω → Prop) : Prop where
  progress : ∀ scene later, around.others scene later → later.cell.progress = scene.cell.progress
  asked : ∀ scene later, around.others scene later → scene.cell.isCancelled = true → later.cell.isCancelled = true
  others : ∀ scene later, around.others scene later → ∀ fates,
    holds fates scene.cell.isCancelled scene.world → holds fates later.cell.isCancelled later.world
  skips : ∀ fates source rest, fates.map Fate.source ++ source :: rest = sources → source.isActive = false →
    ∀ isCancelled world, holds fates isCancelled world → holds (fates ++ [⟨source, none⟩]) isCancelled world
  refreshes : ∀ fates source rest, fates.map Fate.source ++ source :: rest = sources → source.isActive = true →
    ∀ scene : Scene ω, holds fates scene.cell.isCancelled scene.world →
      (onScene (refresh settings source)).Ensures around
        (fun result later => later.cell.progress = scene.cell.progress ∧
          holds (fates ++ [⟨source, some result⟩]) later.cell.isCancelled later.world) scene

/-- Where a refresh of so many sources stands that has counted some fates and come to others. -/
structure Stand (holds : List Fate → Bool → ω → Prop) (size : Nat) (counted fates : List Fate) (scene : Scene ω) :
    Prop where
  total : scene.cell.progress.total = size
  tally : scene.cell.progress.tally = (progressOf size counted).tally
  known : holds fates scene.cell.isCancelled scene.world

/-- Where a refresh stands that has gone through its sources, or was asked to stop with some left. -/
structure Through (holds : List Fate → Bool → ω → Prop) (sources : List GuideSource) (ended : Bool × GuideLog)
    (fates : List Fate) (scene : Scene ω) : Prop extends Stand holds sources.length fates fates scene where
  log : ended.2 = logOf fates
  some : fates.map Fate.source <+: sources
  all : ended.1 = false → fates.map Fate.source = sources
  asked : ended.1 = true → scene.cell.isCancelled = true

/-- What is reported of fates that the sources met, all of them or those before a request to stop. -/
inductive Reports (sources : List GuideSource) (fates : List Fate) (isCancelled : Bool) : TaskReport → Prop
  | completed (all : fates.map Fate.source = sources) : Reports sources fates isCancelled (completed fates)
  | stopped (some : fates.map Fate.source <+: sources) (asked : isCancelled = true) :
      Reports sources fates isCancelled (stopped sources.length fates)

theorem Reports.mono {isCancelled later : Bool} {report : TaskReport}
    (reports : Reports sources fates isCancelled report) (asked : isCancelled = true → later = true) :
    Reports sources fates later report := by
  cases reports with
  | completed all => exact .completed all
  | stopped some before => exact .stopped some (asked before)

/-- What the task writes besides its counts changes nothing of where the refresh stands. -/
theorem Stand.put (stand : Stand holds size counted fates scene) {cell : TaskCell}
    (same : cell.isCancelled = scene.cell.isCancelled) (total : cell.progress.total = size)
    (tally : cell.progress.tally = scene.cell.progress.tally) : Stand holds size counted fates (scene.put cell) := by
  refine ⟨total, tally.trans stand.tally, ?_⟩
  show holds fates cell.isCancelled scene.world
  rw [same]
  exact stand.known

/-- The task counts the fate it has come to. -/
theorem Stand.count {fate : Fate} (stand : Stand holds size counted (counted ++ [fate]) scene) :
    Stand holds size (counted ++ [fate]) (counted ++ [fate])
      (scene.put (scene.cell.count fate.isRefreshed.toNat fate.isFailed.toNat fate.isSkipped.toNat)) where
  total := stand.total
  tally := by
    rw [tally_progressOf_append, ← stand.tally]
    rfl
  known := stand.known

namespace Carries

variable (carries : Carries around settings sources holds)
include carries

theorem stable_stand : Stable around (Stand holds size counted fates) := by
  intro scene later changed stand
  refine ⟨?_, ?_, carries.others _ _ changed _ stand.known⟩
  · rw [carries.progress _ _ changed]
    exact stand.total
  · rw [carries.progress _ _ changed]
    exact stand.tally

/-- The task writes anything but its counts. -/
theorem ensures_write {α : Type} {goal : α → Scene ω → Prop} {f : TaskCell → TaskCell} {next : Unit → Work TaskCell α}
    {later : Nat} (stand : Stand holds size counted fates scene)
    (same : ∀ cell, (f cell).isCancelled = cell.isCancelled)
    (total : ∀ cell, cell.progress.total = size → (f cell).progress.total = later)
    (tally : ∀ cell, (f cell).progress.tally = cell.progress.tally)
    (rest : ∀ scene, Stand holds later counted fates scene → (onScene (next ⟨⟩)).Ensures around goal scene) :
    (onScene (change f >>= next)).Ensures around goal scene := by
  refine ensures_act carries.stable_stand stand fun seen stand => rest _ ⟨total _ stand.total, ?_, ?_⟩
  · exact (tally _).trans stand.tally
  · show holds fates (f seen.cell).isCancelled seen.world
    rw [same]
    exact stand.known

/-- The task counts the fate it has come to, and keeps it. -/
theorem ensures_count {fate : Fate} {log : GuideLog} {succeeded failed skipped : Nat}
    (stand : Stand holds size fates (fates ++ [fate]) scene) (kept : log = logOf (fates ++ [fate]))
    (tally : (⟨succeeded, failed, skipped⟩ : Tally) =
      ⟨fate.isRefreshed.toNat, fate.isFailed.toNat, fate.isSkipped.toNat⟩) :
    (onScene (change (·.count succeeded failed skipped) >>= fun _ => pure log)).Ensures around
      (fun log later => ∃ result, log = logOf (fates ++ [⟨fate.source, result⟩]) ∧
        Stand holds size (fates ++ [⟨fate.source, result⟩]) (fates ++ [⟨fate.source, result⟩]) later) scene := by
  obtain ⟨rfl, rfl, rfl⟩ := Tally.mk.inj tally
  refine ensures_act carries.stable_stand stand fun seen stand => ?_
  refine ensures_done (stable_exists fun result => ?_) ⟨fate.result, kept, stand.count⟩
  exact (stable_const _).and carries.stable_stand

/-- One source meets its fate. -/
theorem ensures_runSource (stand : Stand holds sources.length fates fates scene)
    (next : fates.map Fate.source ++ source :: rest = sources) :
    (onScene (runSource settings (logOf fates) source)).Ensures around
      (fun log later => ∃ result, log = logOf (fates ++ [⟨source, result⟩]) ∧
        Stand holds sources.length (fates ++ [⟨source, result⟩]) (fates ++ [⟨source, result⟩]) later) scene := by
  unfold runSource
  cases active : source.isActive with
  | false =>
    have skipped : Stand holds sources.length fates (fates ++ [⟨source, none⟩]) scene :=
      ⟨stand.total, stand.tally, carries.skips fates source rest next active _ _ stand.known⟩
    refine carries.ensures_count skipped ?_ rfl
    simp only [logOf_append, Fate.assumed, Fate.errors, List.append_nil]
  | true =>
    refine carries.ensures_write stand (fun _ => rfl) (fun _ total => total) (fun _ => rfl) fun later stand => ?_
    rw [onScene_bind]
    refine ensures_bind ((carries.refreshes fates source rest next active _ stand.known).mono ?_)
    rintro result last ⟨same, known⟩
    have met : Stand holds sources.length fates (fates ++ [⟨source, some result⟩]) last := by
      refine ⟨?_, ?_, known⟩
      · rw [same]
        exact stand.total
      · rw [same]
        exact stand.tally
    cases result with
    | ok verdict =>
      refine carries.ensures_count met ?_ rfl
      cases verdict <;> simp [logOf_append, Fate.assumed, Fate.errors]
    | error fault =>
      refine carries.ensures_count met ?_ rfl
      simp only [logOf_append, Fate.assumed, Fate.errors, List.append_nil]

theorem stable_through {ended : Bool × GuideLog} : Stable around (Through holds sources ended fates) :=
  fun scene later changed through =>
    { through with
      toStand := carries.stable_stand scene later changed through.toStand
      asked := fun isStopped => carries.asked _ _ changed (through.asked isStopped) }

/-- **Sources meet their fates**, one after the other, until the task is asked to stop. -/
theorem ensures_runSources (stand : Stand holds sources.length fates fates scene)
    (next : fates.map Fate.source ++ rest = sources) :
    (onScene (runSources settings (logOf fates) rest)).Ensures around
      (fun ended later => ∃ fates, Through holds sources ended fates later) scene := by
  -- the fates met so far are those of the sources that are no longer to come
  induction rest generalizing fates scene with
  | nil =>
    rw [List.append_nil] at next
    exact ensures_done (stable_exists fun _ => carries.stable_through)
      ⟨fates, stand, rfl, next ▸ List.prefix_rfl, fun _ => next, nofun⟩
  | cons source rest ih =>
    refine ensures_act carries.stable_stand stand fun seen stand => ?_
    show (onScene (if seen.cell.isCancelled = true then _ else _)).Ensures _ _ _
    cases asked : seen.cell.isCancelled with
    | true =>
      rw [if_pos rfl]
      exact ensures_done (stable_exists fun _ => carries.stable_through)
        ⟨fates, stand.put rfl stand.total rfl, rfl, ⟨_, next⟩, nofun, fun _ => asked⟩
    | false =>
      rw [if_neg Bool.false_ne_true, onScene_bind]
      have looked : Stand holds sources.length fates fates (seen.put seen.cell) := stand.put rfl stand.total rfl
      refine ensures_bind ((carries.ensures_runSource looked next).mono ?_)
      rintro log later ⟨result, rfl, stand⟩
      refine ih stand ?_
      rw [List.map_append, List.append_assoc]
      exact next

/-- **What is reported are the fates of the sources**, of which as much is known in the end as is carried on. -/
theorem ensures_attend (unbegun : scene.cell.progress.tally = 0) (known : holds [] scene.cell.isCancelled scene.world) :
    (onScene (attend settings sources)).Ensures around
      (fun report later => ∃ fates, Reports sources fates later.cell.isCancelled report ∧
        holds fates later.cell.isCancelled later.world) scene := by
  have stand : Stand holds scene.cell.progress.total [] [] scene := ⟨rfl, unbegun, known⟩
  unfold attend
  refine carries.ensures_write stand (fun _ => rfl) (fun _ _ => rfl) (fun _ => rfl) fun later stand => ?_
  rw [onScene_bind]
  refine ensures_bind ((carries.ensures_runSources stand (List.nil_append sources)).mono ?_)
  rintro ⟨isStopped, log⟩ later ⟨fates, through⟩
  obtain rfl : log = logOf fates := through.log
  have stable (report : TaskReport) : Stable around fun scene =>
      ∃ fates, Reports sources fates scene.cell.isCancelled report ∧
        holds fates scene.cell.isCancelled scene.world := by
    rintro scene later changed ⟨fates, reports, known⟩
    exact ⟨fates, reports.mono (carries.asked _ _ changed), carries.others _ _ changed _ known⟩
  cases isStopped with
  | true =>
    refine ensures_act carries.stable_through through fun seen through => ?_
    refine ensures_done (stable _) ⟨fates, ?_, through.known⟩
    show Reports _ _ _ (TaskReport.withErrors _ (logOf fates).errors)
    rw [report_eq_stopped through.total through.tally]
    exact .stopped through.some (through.asked rfl)
  | false =>
    have all := through.all rfl
    have size : fates.length = sources.length := (List.length_map _).symm.trans (congrArg List.length all)
    refine carries.ensures_write through.toStand (fun _ => rfl) (fun _ total => total) (fun _ => rfl) ?_
    intro later stand
    rw [← size] at stand
    refine ensures_act carries.stable_stand stand fun seen stand => ?_
    refine ensures_done (stable _) ⟨fates, ?_, stand.known⟩
    show Reports _ _ _ (TaskReport.withErrors (TaskReport.withDetail _ _ (idList (logOf fates).assumed)) _)
    rw [report_eq_completed stand.total stand.tally]
    exact .completed all

end Carries
end StreamWatch.GuideRefresh
