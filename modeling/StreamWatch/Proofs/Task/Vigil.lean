/-
**What it means that a guide source was updated.**

At every moment the remote carries some time of the last update of every source. A refresh compares what it sees of a
source after its refresh was granted with what the listing showed, and the listing is older than the grant by as much
as the sources before it took. So a source that counts as updated was updated since the listing, and was so by some
moment after its own refresh was granted. Whether that was before the grant or after it cannot be told.

* `History`, `Vigil`: what the remote carries at each moment, and what an onlooker notes of a refresh;
* `Truthful`, `vigil`: answers that are true to the history, at some moment before they come;
* `Witnessed`, `run_witnesses`: what a fate tells of the history;
* `not_forall_changed_since`: it does not tell that the source was updated after its refresh was granted.
-/

import Mathlib.Data.List.Forall2
import StreamWatch.Proofs.Task.Fates

namespace StreamWatch.GuideRefresh

open Program

/-! ### The history -/

/-- The time of the last update that the remote carries at a moment for a source. -/
abbrev History := Nat → Int → Option Instant

/-- Whether the remote comes to carry another time for a source than it does at a moment. -/
def ChangesAfter (history : History) (id : Int) (moment : Nat) : Prop :=
  ∃ later, moment ≤ later ∧ history later id ≠ history moment id

/-- A refresh that was granted at some moment. -/
structure Grant where
  id : Int
  moment : Nat
deriving DecidableEq

/-- What an onlooker notes of a refresh. -/
structure Vigil where
  now : Nat
  listed : List GuideSource := []
  listedAt : Nat := 0
  grants : List Grant := []

/-- Time passes, and nothing else happens that is noted. -/
def Vigil.Passes (before after : Vigil) : Prop := before.now ≤ after.now ∧ after = { before with now := after.now }

/-- Whether an answer is true to the history, at some moment after it was asked for and before it comes. -/
def Truthful (history : History) : (question : Ask) → question.Reply → Vigil → Vigil → Prop
  | .remote .guideSources, .ok sources, before, after =>
    ∃ moment, before.now ≤ moment ∧ moment ≤ after.now ∧
      (∀ source ∈ sources, source.updatedAt = history moment source.id) ∧
      after = { before with now := after.now, listed := sources, listedAt := moment }
  | .remote (.refreshGuideSource id), .ok _, before, after =>
    ∃ moment, before.now ≤ moment ∧ moment ≤ after.now ∧
      after = { before with now := after.now, grants := before.grants ++ [⟨id, moment⟩] }
  | .remote (.guideSource id), .ok seen, before, after =>
    (∃ moment, before.now ≤ moment ∧ moment ≤ after.now ∧ seen.updatedAt = history moment id) ∧ before.Passes after
  | .sleep length, _, before, after => before.now + length.toNanos ≤ after.now ∧ before.Passes after
  | .clock, now, before, after => before.now ≤ now ∧ now ≤ after.now ∧ before.Passes after
  | _, _, before, after => before.Passes after

/-- Every question has an answer that is true to the history, and others ask the task to stop. -/
def vigil (history : History) : Surroundings (Scene Vigil) Ask Ask.Reply where
  answers question scene reply after :=
    after.cell = scene.cell ∧ ∃ value, reply = some value ∧ Truthful history question value scene.world after.world
  others scene after :=
    (after.cell = scene.cell ∨ after.cell = scene.cell.cancel) ∧ scene.world.Passes after.world

/-- Whether a refresh was granted that came to something. -/
def Fate.isGranted (fate : Fate) : Bool :=
  match fate.result with
  | none | some (.error (.refused _)) => false
  | _ => true

/-- What the fate of a source tells whose refresh was granted. -/
structure Witnessed (history : History) (vigil : Vigil) (fate : Fate) (grant : Grant) : Prop where
  source : grant.id = fate.source.id
  after : vigil.listedAt ≤ grant.moment
  listed : fate.source.updatedAt = history vigil.listedAt grant.id
  /-- that it was updated tells that the remote carried another time by some moment after the grant than when the
  sources were listed -/
  updated : fate.result = some (.ok .updated) → ∃ seen, grant.moment ≤ seen ∧ seen ≤ vigil.now ∧
    (history seen grant.id).isSome ∧ history seen grant.id ≠ history vigil.listedAt grant.id
  /-- so it was updated after the grant, unless the remote carried another time already when it was granted -/
  own : fate.result = some (.ok .updated) → history grant.moment grant.id = history vigil.listedAt grant.id →
    ChangesAfter history grant.id grant.moment

/-- What is noted of a refresh after some fates. -/
structure Noted (history : History) (sources : List GuideSource) (fates : List Fate) (grants : List Grant)
    (vigil : Vigil) : Prop where
  listed : vigil.listed = sources
  truthful : ∀ source ∈ sources, source.updatedAt = history vigil.listedAt source.id
  since : vigil.listedAt ≤ vigil.now
  witnessed : List.Forall₂ (Witnessed history vigil) (fates.filter Fate.isGranted) grants

/-- What is noted while a source is watched whose refresh was granted. -/
structure Watched (history : History) (sources : List GuideSource) (fates : List Fate) (grants : List Grant)
    (grant : Grant) (vigil : Vigil) : Prop extends Noted history sources fates grants vigil where
  granted : vigil.grants = grants ++ [grant]
  after : vigil.listedAt ≤ grant.moment
  before : grant.moment ≤ vigil.now

variable {history : History} {sources : List GuideSource} {fates : List Fate} {grants : List Grant} {grant : Grant}
  {source : GuideSource} {before after : Vigil}

/-! ### Time passes -/

/-- Time passes, and what was listed stays. -/
structure Vigil.Precedes (before after : Vigil) : Prop where
  now : before.now ≤ after.now
  listed : after.listed = before.listed
  listedAt : after.listedAt = before.listedAt

theorem Vigil.Passes.precedes (passes : before.Passes after) : before.Precedes after := by
  obtain ⟨later, same⟩ := passes
  rw [same]
  exact ⟨later, rfl, rfl⟩

theorem Vigil.Passes.grants_eq (passes : before.Passes after) : after.grants = before.grants := by
  rw [passes.2]

theorem Witnessed.later {fate : Fate} (witnessed : Witnessed history before fate grant)
    (precedes : before.Precedes after) : Witnessed history after fate grant := by
  obtain ⟨source, since, listed, updated, own⟩ := witnessed
  rw [← precedes.listedAt] at since listed updated own
  refine ⟨source, since, listed, fun told => ?_, own⟩
  obtain ⟨seen, granted, known, moved⟩ := updated told
  exact ⟨seen, granted, Nat.le_trans known precedes.now, moved⟩

theorem Noted.later (noted : Noted history sources fates grants before) (precedes : before.Precedes after) :
    Noted history sources fates grants after where
  listed := precedes.listed.trans noted.listed
  truthful := by
    rw [precedes.listedAt]
    exact noted.truthful
  since := by
    rw [precedes.listedAt]
    exact Nat.le_trans noted.since precedes.now
  witnessed := noted.witnessed.imp fun _ _ witnessed => witnessed.later precedes

theorem Watched.passes (watched : Watched history sources fates grants grant before) (passes : before.Passes after) :
    Watched history sources fates grants grant after where
  toNoted := watched.toNoted.later passes.precedes
  granted := passes.grants_eq.trans watched.granted
  after := by
    rw [passes.precedes.listedAt]
    exact watched.after
  before := Nat.le_trans watched.before passes.1

/-! ### A refresh under the eyes of an onlooker -/

/-- Whether something that is noted stays so while time passes. -/
def Stays (fact : Vigil → Prop) : Prop := ∀ before after, before.Passes after → fact before → fact after

/-- Whether the task has come so far, and something is noted. -/
structure Amid (p : Progress) (fact : Vigil → Prop) (scene : Scene Vigil) : Prop where
  progress : scene.cell.progress = p
  fact : fact scene.world

section
variable {p : Progress} {fact : Vigil → Prop} {scene : Scene Vigil}

/-- The progress is left to the task. -/
theorem progress_of_others {later : Scene Vigil} (changed : (vigil history).others scene later) :
    later.cell.progress = scene.cell.progress := by
  rcases changed.1 with same | same
  · rw [same]
  · rw [same]
    rfl

/-- A request to stop is not taken back. -/
theorem isCancelled_of_others {later : Scene Vigil} (changed : (vigil history).others scene later)
    (asked : scene.cell.isCancelled = true) : later.cell.isCancelled = true := by
  rcases changed.1 with same | same
  · rw [same]
    exact asked
  · rw [same]
    rfl

theorem stable_amid (stays : Stays fact) : Stable (vigil history) (Amid p fact) :=
  fun _ _ changed amid => ⟨(progress_of_others changed).trans amid.progress, stays _ _ changed.2 amid.fact⟩

/-- An answer is true to the history, and changes nothing else. -/
theorem Vigil.ensures_question {α : Type} {goal : α → Scene Vigil → Prop} {question : Ask}
    {next : question.Reply → Work TaskCell α} (stays : Stays fact) (amid : Amid p fact scene)
    (rest : ∀ value before later, fact before → Truthful history question value before later.world →
      later.cell.progress = p → (onScene (next value)).Ensures (vigil history) goal later) :
    (onScene (Program.get question >>= next)).Ensures (vigil history) goal scene := by
  refine ensures_ask (stable_amid stays) amid ?_
  rintro seen amid reply later ⟨same, value, rfl, truthful⟩
  refine ⟨value, rfl, rest value seen.world later amid.fact truthful ?_⟩
  rw [same]
  exact amid.progress

theorem stays_watched : Stays (Watched history sources fates grants grant) :=
  fun _ _ passes watched => watched.passes passes

/-- What is noted when the refresh has come to some fates. -/
def Told (history : History) (sources : List GuideSource) (fates : List Fate) (vigil : Vigil) : Prop :=
  Noted history sources fates vigil.grants vigil

theorem stays_told : Stays (Told history sources fates) := by
  intro before after passes told
  rw [Told, passes.grants_eq]
  exact told.later passes.precedes

/-- A refresh that was granted has come to something. -/
theorem Watched.told {fate : Fate} {vigil : Vigil} (watched : Watched history sources fates grants grant vigil)
    (granted : fate.isGranted = true) (own : grant.id = fate.source.id) (member : fate.source ∈ sources)
    (updated : fate.result = some (.ok .updated) → ∃ seen, grant.moment ≤ seen ∧ seen ≤ vigil.now ∧
      (history seen grant.id).isSome ∧ history seen grant.id ≠ fate.source.updatedAt) :
    Told history sources (fates ++ [fate]) vigil := by
  have listed : fate.source.updatedAt = history vigil.listedAt grant.id := by
    rw [own]
    exact watched.truthful _ member
  rw [listed] at updated
  have changes (told : fate.result = some (.ok .updated))
      (same : history grant.moment grant.id = history vigil.listedAt grant.id) :
      ChangesAfter history grant.id grant.moment := by
    obtain ⟨seen, since, -, -, moved⟩ := updated told
    exact ⟨seen, since, same ▸ moved⟩
  refine ⟨watched.listed, watched.truthful, watched.since, ?_⟩
  rw [List.filter_append, List.filter_cons_of_pos granted, List.filter_nil, watched.granted]
  exact List.rel_append watched.witnessed (.cons ⟨own, watched.after, listed, updated, changes⟩ .nil)

/-- Nothing is noted of a source whose refresh was not granted. -/
theorem Noted.told {fate : Fate} {vigil : Vigil} (told : Told history sources fates vigil)
    (refused : fate.isGranted = false) : Told history sources (fates ++ [fate]) vigil := by
  refine ⟨told.listed, told.truthful, told.since, ?_⟩
  rw [List.filter_append, List.filter_cons_of_neg (Bool.eq_false_iff.mp refused), List.filter_nil, List.append_nil]
  exact told.witnessed

/-- A source that is seen to be updated carries a time of its last update, and another one than it was listed with. -/
theorem moved_of_updated {settings : RefreshSettings} {seen : GuideSource} {elapsed : Nat}
    (told : verdict? settings source.updatedAt seen elapsed = some .updated) :
    seen.updatedAt.isSome ∧ seen.updatedAt ≠ source.updatedAt := by
  unfold verdict? at told
  split at told
  · next moved => exact moved
  · split at told <;> exact nomatch told

/-- **What a watch comes to is witnessed**, whenever it began. -/
theorem Vigil.ensures_watch (settings : RefreshSettings) (since looks : Nat) (own : grant.id = source.id)
    (member : source ∈ sources) (amid : Amid p (Watched history sources fates grants grant) scene) :
    (onScene (watch settings source since looks)).Ensures (vigil history)
      (fun result later => Amid p (Told history sources (fates ++ [⟨source, some result⟩])) later) scene := by
  have unfinished {later : Scene Vigil} (amid : Amid p (Watched history sources fates grants grant) later) :
      (onScene (pure (.error (.unfinished settings.maxWait)))).Ensures (vigil history)
        (fun result later => Amid p (Told history sources (fates ++ [⟨source, some result⟩])) later) later :=
    ensures_done (stable_amid stays_told) ⟨amid.progress, amid.fact.told rfl own member nofun⟩
  induction looks generalizing scene with
  | zero => exact unfinished amid
  | succ looks ih =>
    unfold watch
    refine Vigil.ensures_question stays_watched amid ?_
    rintro now before later watched ⟨-, -, passes⟩ same
    have amid : Amid p _ later := ⟨same, watched.passes passes⟩
    show (onScene (if _ then _ else _)).Ensures _ _ _
    split
    · exact unfinished amid
    · refine Vigil.ensures_question stays_watched amid ?_
      rintro _ before later watched ⟨-, passes⟩ same
      refine Vigil.ensures_question stays_watched ⟨same, watched.passes passes⟩ ?_
      rintro reply before later watched truthful same
      cases reply with
      | error error => exact ih ⟨same, watched.passes truthful⟩
      | ok seen =>
        -- what the look shows is what the remote carried at a moment between the grant and now
        obtain ⟨⟨moment, notBefore, notAfter, shown⟩, passes⟩ := truthful
        let saw (vigil : Vigil) : Prop := Watched history sources fates grants grant vigil ∧ moment ≤ vigil.now
        have stays : Stays saw := fun _ _ passes saw => ⟨saw.1.passes passes, Nat.le_trans saw.2 passes.1⟩
        have granted : grant.moment ≤ moment := Nat.le_trans watched.before notBefore
        refine Vigil.ensures_question stays ⟨same, watched.passes passes, notAfter⟩ ?_
        rintro now before last saw ⟨-, -, passes⟩ same
        have saw := stays _ _ passes saw
        split
        · next verdict told =>
          refine ensures_done (stable_amid stays_told) ⟨same, saw.1.told rfl own member fun updated => ?_⟩
          cases updated
          have moved := moved_of_updated told
          rw [shown, ← own] at moved
          exact ⟨moment, granted, saw.2, moved⟩
        · exact ih ⟨same, saw.1⟩

/-- What the refresh of a source comes to is witnessed. -/
theorem Vigil.ensures_refresh (settings : RefreshSettings) (member : source ∈ sources)
    (amid : Amid p (Told history sources fates) scene) :
    (onScene (refresh settings source)).Ensures (vigil history)
      (fun result later => Amid p (Told history sources (fates ++ [⟨source, some result⟩])) later) scene := by
  unfold refresh
  refine Vigil.ensures_question stays_told amid ?_
  rintro reply before later told truthful same
  cases reply with
  | error error =>
    have told := stays_told _ _ truthful told
    exact ensures_done (stable_amid stays_told) ⟨same, Noted.told told rfl⟩
  | ok =>
    obtain ⟨moment, notBefore, notAfter, noted⟩ := truthful
    have precedes : before.Precedes later.world := by
      rw [noted]
      exact ⟨Nat.le_trans notBefore notAfter, rfl, rfl⟩
    have granted : later.world.grants = before.grants ++ [⟨source.id, moment⟩] := by rw [noted]
    have after : later.world.listedAt ≤ moment := by
      rw [precedes.listedAt]
      exact Nat.le_trans told.since notBefore
    have watched : Watched history sources fates before.grants ⟨source.id, moment⟩ later.world :=
      ⟨told.later precedes, granted, after, notAfter⟩
    refine Vigil.ensures_question stays_watched ⟨same, watched⟩ ?_
    rintro since before last watched ⟨-, -, passes⟩ same
    exact Vigil.ensures_watch settings since _ rfl member ⟨same, watched.passes passes⟩

end

/-! ### A whole refresh -/

/-- The fates of the sources are carried on. -/
theorem carries_told (history : History) (settings : RefreshSettings) (sources : List GuideSource) :
    Carries (vigil history) settings sources fun fates _ => Told history sources fates where
  progress _ _ := progress_of_others
  asked _ _ := isCancelled_of_others
  others scene later changed fates told := stays_told _ _ changed.2 told
  skips fates source rest _ _ _ _ told := Noted.told told rfl
  refreshes fates source rest next active scene told := by
    have member : source ∈ sources := next ▸ List.mem_append_right _ List.mem_cons_self
    refine (Vigil.ensures_refresh settings member ⟨rfl, told⟩).mono ?_
    exact fun result later amid => ⟨amid.progress, amid.fact⟩

/-- What is reported of a refresh, when fates and grants are told in some way: that it was kept from its work, with
nothing granted, or the fates of the sources that were listed. -/
inductive Outcome (tells : Vigil → Fate → Grant → Prop) (report : TaskReport) (scene : Scene Vigil) : Prop
  | hindered (fault : TaskFault) (message : String) (fatal : report = .fatal fault message)
      (none : scene.world.grants = [])
  | ended {fates : List Fate} (reports : Reports scene.world.listed fates scene.cell.isCancelled report)
      (granted : List.Forall₂ (tells scene.world) (fates.filter Fate.isGranted) scene.world.grants)

theorem stable_outcome {report : TaskReport} : Stable (vigil history) (Outcome (Witnessed history) report) := by
  intro scene after changed outcome
  have passes := changed.2
  cases outcome with
  | hindered fault message fatal none => exact .hindered fault message fatal (passes.grants_eq.trans none)
  | @ended fates reports granted =>
    refine .ended (?_ : Reports _ fates _ _) ?_
    · rw [passes.precedes.listed]
      exact reports.mono (isCancelled_of_others changed)
    · rw [passes.grants_eq]
      exact granted.imp fun _ _ witnessed => witnessed.later passes.precedes

/-- When nobody asked the task to stop, all listed sources count as successes and none was only taken to have finished,
then every fate is told of, and is that of an updated source. -/
theorem Outcome.all_updated {tells : Vigil → Fate → Grant → Prop} {report : TaskReport} {scene : Scene Vigil}
    (outcome : Outcome tells report scene) (goesOn : scene.cell.isCancelled = false)
    (granted : scene.world.grants ≠ []) (all : report.tally.succeeded = scene.world.listed.length)
    (seen : report.details.lookup "assumed_complete" = some (idList [])) :
    ∃ fates, List.Forall₂ (tells scene.world) fates scene.world.grants ∧
      ∀ fate ∈ fates, fate.result = some (.ok .updated) := by
  cases outcome with
  | hindered fault message fatal none => exact absurd none granted
  | @ended fates reports told =>
    cases reports with
    | stopped some asked => exact nomatch goesOn.symm.trans asked
    | completed listed =>
      rw [← listed, List.length_map] at all
      have updated := updated_of_completed all seen
      have every : fates.filter Fate.isGranted = fates := by
        refine List.filter_eq_self.mpr fun fate member => ?_
        rw [Fate.isGranted, updated fate member]
      rw [every] at told
      exact ⟨fates, told, updated⟩

/-- **What is reported of a refresh is witnessed**, whatever the remote carries, when, and however long anything
takes. -/
theorem ensures_witnessed (history : History) (settings : RefreshSettings) (cell : TaskCell) (now : Nat) :
    (onScene (run settings)).Ensures (vigil history) (Outcome (Witnessed history)) ⟨cell, { now }⟩ := by
  have stays : Stays fun vigil => vigil.grants = [] := fun _ _ passes none => passes.grants_eq.trans none
  have begun : Amid cell.progress (fun vigil => vigil.grants = []) ⟨cell, { now }⟩ := ⟨rfl, rfl⟩
  cases checked : settings.check with
  | error message =>
    unfold run
    rw [checked]
    refine ensures_act (stable_amid stays) begun fun seen begun => ?_
    exact ensures_done stable_outcome (.hindered _ _ rfl begun.fact)
  | ok =>
    rw [run_eq checked]
    refine ensures_act (stable_amid stays) begun fun seen begun => ?_
    have started : Amid { status := "loading EPG sources" } (fun vigil => vigil.grants = [])
        (seen.put (seen.cell.start "loading EPG sources")) := ⟨rfl, begun.fact⟩
    refine Vigil.ensures_question stays started ?_
    rintro reply before later none truthful same
    cases reply with
    | error error => exact ensures_done stable_outcome (.hindered _ _ rfl (truthful.grants_eq.trans none))
    | ok sources =>
      obtain ⟨moment, notBefore, notAfter, shown, noted⟩ := truthful
      have told : Told history sources [] later.world := by
        rw [noted]
        refine ⟨rfl, shown, notAfter, ?_⟩
        show List.Forall₂ _ _ before.grants
        rw [none]
        exact .nil
      have unbegun : later.cell.progress.tally = 0 := by
        rw [same]
        rfl
      refine ((carries_told history settings sources).ensures_attend unbegun told).mono ?_
      rintro report last ⟨fates, reports, told⟩
      rw [← told.listed] at reports
      exact .ended reports told.witnessed

/-! ### Answers at once -/

/-- Answers that come at once and are true to the history, from a remote that lists some sources and refuses no
refresh. -/
def promptly (history : History) (sources : List GuideSource) : (question : Ask) → Vigil → question.Reply × Vigil
  | .remote .guideSources, vigil =>
    let listed := sources.map fun source => { source with updatedAt := history vigil.now source.id }
    (.ok listed, { vigil with listed, listedAt := vigil.now })
  | .remote (.refreshGuideSource id), vigil =>
    (.ok ⟨⟩, { vigil with grants := vigil.grants ++ [⟨id, vigil.now⟩] })
  | .remote (.guideSource id), vigil => (.ok ⟨id, "", none, true, history vigil.now id⟩, vigil)
  | .remote (.channels ..), vigil | .remote (.updateChannel ..), vigil | .remote (.streams ..), vigil
  | .remote (.streamsByIds _), vigil | .remote .accounts, vigil | .remote (.refreshAccount _), vigil =>
    (.error .transport, vigil)
  | .store _, vigil => (.error .database, vigil)
  | .probe _, vigil | .sample .., vigil => (.error (.timeout 0), vigil)
  | .sleep length, vigil => (⟨⟩, { vigil with now := vigil.now + length.toNanos })
  | .clock, vigil => (vigil.now, vigil)
  | .wallClock, vigil => (default, vigil)
  | .probeStreams .., vigil => ([], vigil)

theorem truthful_promptly (history : History) (sources : List GuideSource) (question : Ask) (vigil : Vigil) :
    Truthful history question (promptly history sources question vigil).1 vigil
      (promptly history sources question vigil).2 := by
  have now : vigil.now ≤ vigil.now := Nat.le_refl _
  cases question with
  | remote call =>
    cases call with
    | guideSources =>
      refine ⟨vigil.now, now, now, fun source member => ?_, rfl⟩
      obtain ⟨listed, -, rfl⟩ := List.mem_map.mp member
      rfl
    | refreshGuideSource => exact ⟨vigil.now, now, now, rfl⟩
    | guideSource => exact ⟨⟨vigil.now, now, now, rfl⟩, now, rfl⟩
    | channels | updateChannel | streams | streamsByIds | accounts | refreshAccount => exact ⟨now, rfl⟩
  | sleep length => exact ⟨Nat.le_refl _, Nat.le_add_right _ _, rfl⟩
  | clock => exact ⟨now, now, now, rfl⟩
  | store | probe | sample | wallClock | probeStreams => exact ⟨now, rfl⟩

/-- The answers at once, on a scene. -/
def atOnce (history : History) (sources : List GuideSource) (question : Ask) (scene : Scene Vigil) :
    Option question.Reply × Scene Vigil :=
  let answered := promptly history sources question scene.world
  (some answered.1, { scene with world := answered.2 })

theorem answers_atOnce (history : History) (sources : List GuideSource) (question : Ask) (scene : Scene Vigil) :
    (vigil history).answers question scene (atOnce history sources question scene).1
      (atOnce history sources question scene).2 :=
  ⟨rfl, _, rfl, truthful_promptly history sources question scene.world⟩

/-! ### What is told and what is not -/

/-- **What a refresh tells of the history.** Whatever the remote carries and when, however long anything takes and
whenever the task is asked to stop: a source that counts as updated carried another time by some moment after its
refresh was granted than when it was listed. -/
theorem run_witnesses (history : History) (settings : RefreshSettings) (cell : TaskCell) (now : Nat) :
    Settles (vigil history) (Outcome (Witnessed history)) (onScene (run settings)) ⟨cell, { now }⟩ :=
  settles_of_ensures (fun question scene => ⟨_, _, answers_atOnce history [] question scene⟩)
    (ensures_witnessed history settings cell now)

/-- Two sources to refresh. -/
def twoGuides : List GuideSource := [⟨1, "News", none, true, none⟩, ⟨2, "Films", none, true, none⟩]

/-- The second source is updated after three seconds, and the first one after five. -/
def overtaken : History := fun moment id =>
  if moment < (if id = 1 then 5 else 3) * nanosPerSecond then none else some default

/-- The second source never changes again once its refresh was granted. -/
theorem not_changesAfter_overtaken : ¬ ChangesAfter overtaken 2 5000000000 := by
  rintro ⟨later, since, moved⟩
  have past : ¬ later < 3 * nanosPerSecond := by
    unfold nanosPerSecond
    omega
  exact moved (if_neg past)

/-- A refresh of the two, to which everything is answered at once. -/
def overtakenRun : Option TaskReport × Scene Vigil :=
  (onScene (run {})).alone (atOnce overtaken twoGuides) ⟨{}, { now := 0 }⟩

/-- **A source that counts as updated need not have been updated after its refresh was granted.** While the first of two
sources is waited for, the second one happens to be updated. It counts as updated as soon as it is looked at. -/
theorem not_forall_changed_since :
    ¬ ∀ (history : History) (settings : RefreshSettings) (cell : TaskCell) (now : Nat),
      Settles (vigil history)
        (Outcome fun _ fate grant => grant.id = fate.source.id ∧
          (fate.result = some (.ok .updated) → ChangesAfter history grant.id grant.moment))
        (onScene (run settings)) ⟨cell, { now }⟩ := by
  intro claim
  obtain ⟨report, last, same, reached⟩ :=
    (ensures_witnessed overtaken {} {} 0).exists_alone (answers_atOnce overtaken twoGuides)
  change overtakenRun = _ at same
  have goesOn : overtakenRun.2.cell.isCancelled = false := by decide
  have grants : overtakenRun.2.world.grants = [⟨1, 0⟩, ⟨2, 5000000000⟩] := by decide
  have size : overtakenRun.2.world.listed.length = 2 := by decide
  have all : overtakenRun.1.map (·.tally.succeeded) = some 2 := by rfl
  have seen : overtakenRun.1.map (·.details.lookup "assumed_complete") = some (some (idList [])) := by rfl
  rw [same] at goesOn grants size all seen
  have all : report.tally.succeeded = last.world.listed.length := (Option.some.inj all).trans size.symm
  obtain ⟨_, ended, outcome⟩ := (claim overtaken {} {} 0).ends _ reached trivial
  cases ended
  change Outcome _ report last at outcome
  have granted : last.world.grants ≠ [] := by
    rw [grants]
    exact nofun
  obtain ⟨fates, told, updated⟩ := outcome.all_updated goesOn granted all (Option.some.inj seen)
  rw [grants] at told
  cases told with
  | cons first rest =>
    cases rest with
    | cons second none =>
      exact not_changesAfter_overtaken (second.2 (updated _ (List.mem_cons_of_mem _ List.mem_cons_self)))

end StreamWatch.GuideRefresh
