/-
**Going from source to source.**

A refresh that is not asked to stop goes to every active source once. What it asks for there and what becomes of the
source is what the refresh of that source asks for and comes to by itself, in the circumstances that are found there.
Nothing is carried over from one source to another.

* `GuideCall`, `Tour`: what is asked of the remote about sources, in order;
* `Scripts`, `answer`: the circumstances that are found whenever the refresh of some source is asked for;
* `visits`: what the refreshes of sources come to, each by itself;
* `Tour.ensures_refresh`: on a tour, the refresh of a source goes as it does by itself;
* `run_handlesEach`: what a whole execution comes to.
-/

import StreamWatch.Proofs.Task.Fates
import StreamWatch.Proofs.Task.Polling

namespace StreamWatch.GuideRefresh

open Program

/-! ### Calls -/

/-- What is asked of the remote about a source. -/
inductive GuideCall where
  | refresh (id : Int)
  | look (id : Int)
deriving DecidableEq

namespace GuideCall

/-- The source that is asked about. -/
def id : GuideCall → Int
  | refresh id | look id => id

/-- The source whose refresh is asked for. -/
def requested? : GuideCall → Option Int
  | refresh id => some id
  | look _ => none

end GuideCall

/-- The sources whose refresh was asked for, in order. -/
def requested (calls : List GuideCall) : List Int := calls.filterMap GuideCall.requested?

/-- How often a source was looked at since its refresh was asked for last. -/
def looksSince (id : Int) (calls : List GuideCall) : Nat :=
  (calls.reverse.takeWhile (· ≠ .refresh id)).count (.look id)

/-- What was asked for at the site of one refresh. -/
def Site.calls (site : Site) : List GuideCall := site.requested.map .refresh ++ site.looked.map .look

/-- What was asked about sources, and the time. -/
structure Tour where
  now : Nat
  calls : List GuideCall := []

/-- The circumstances that are found at each source whenever its refresh is asked for, so many times after the first. -/
abbrev Scripts := Int → Nat → Circumstances

namespace Tour

variable (scripts : Scripts)

/-- The circumstances at a source since its refresh was asked for last. -/
def found (id : Int) (tour : Tour) : Circumstances := scripts id ((requested tour.calls).count id - 1)

/-- How much longer than it should a pause takes, as it does at the source that was asked about last. -/
def excess (tour : Tour) : Nat :=
  tour.calls.getLast?.elim 0 fun call => (tour.found scripts call.id).excess (looksSince call.id tour.calls)

/-- How the outside answers that lists some sources. Each source is answered for as its own circumstances tell, by the
number of the requests and looks that went to it. -/
def answer (sources : List GuideSource) : (question : Ask) → Tour → Option question.Reply × Tour
  | .remote .guideSources, tour => (some (.ok sources), tour)
  | .remote (.refreshGuideSource id), tour =>
    let around := scripts id ((requested tour.calls).count id)
    (some around.granted, { now := tour.now + around.requestDelay, calls := tour.calls ++ [.refresh id] })
  | .remote (.guideSource id), tour =>
    let around := tour.found scripts id
    let looks := looksSince id tour.calls
    (some (around.shows looks), { now := tour.now + around.delay looks, calls := tour.calls ++ [.look id] })
  | .sleep length, tour => (some ⟨⟩, { tour with now := tour.now + length.toNanos + tour.excess scripts })
  | .clock, tour => (some tour.now, tour)
  | _, tour => (none, tour)

end Tour

/-- The answers of a world. -/
def Scene.answer {ω : Type} (answer : (question : Ask) → ω → Option question.Reply × ω) (question : Ask)
    (scene : Scene ω) : Option question.Reply × Scene ω :=
  let answered := answer question scene.world
  (answered.1, { scene with world := answered.2 })

/-! ### Visits -/

/-- What becomes of a source, and what is asked about it for that. -/
structure Visit where
  fate : Fate
  calls : List GuideCall

/-- What the refresh of a source comes to by itself, if it is active. -/
def visit (settings : RefreshSettings) (source : GuideSource) (around : Circumstances) : Visit :=
  if source.isActive then
    let ended := (refresh settings source).alone around.answer { now := 0 }
    ⟨⟨source, ended.1⟩, ended.2.calls⟩
  else ⟨⟨source, none⟩, []⟩

/-- The sources among some that are to be refreshed, in order. -/
def due (sources : List GuideSource) : List Int := (sources.filter (·.isActive)).map (·.id)

/-- What becomes of some sources after others, each by itself in the circumstances that are found there. -/
def visits (settings : RefreshSettings) (scripts : Scripts) :
    (before : List GuideSource) → List GuideSource → List Visit
  | _, [] => []
  | before, source :: rest =>
    visit settings source (scripts source.id ((due before).count source.id)) ::
      visits settings scripts (before ++ [source]) rest

variable {settings : RefreshSettings} {scripts : Scripts} {source : GuideSource} {around : Circumstances}
  {before sources : List GuideSource}

/-! ### A refresh by itself -/

/-- It does not matter for a watch when it began. -/
theorem exists_alone_watch (settings : RefreshSettings) (source : GuideSource) (around : Circumstances)
    (looks more : Nat) : ∃ result total, ∀ start,
      (watch settings source (start + around.requestDelay) more).alone around.answer
        (around.stage settings source start looks) = (some result, around.stage settings source start total) := by
  induction more generalizing looks with
  | zero => exact ⟨_, looks, fun _ => rfl⟩
  | succ more ih =>
    simp only [alone_watch_succ]
    split
    · exact ⟨_, looks, fun _ => rfl⟩
    · cases (around.shows looks).toOption.bind fun seen =>
          verdict? settings source.updatedAt seen (around.elapsed settings (looks + 1)) with
      | none => exact ih (looks + 1)
      | some verdict => exact ⟨_, looks + 1, fun _ => rfl⟩

/-- **The refresh of a source comes to an end by itself**, and it does not matter when it began. -/
theorem exists_alone_refresh (settings : RefreshSettings) (source : GuideSource) (around : Circumstances) :
    ∃ result looks, ∀ start, (refresh settings source).alone around.answer { now := start } =
      (some result, around.stage settings source start looks) := by
  cases granted : around.granted with
  | error error => exact ⟨_, 0, alone_refresh_of_refused granted⟩
  | ok =>
    obtain ⟨result, looks, watched⟩ := exists_alone_watch settings source around 0 (maxLooks settings)
    exact ⟨result, looks, fun start => (alone_refresh_eq_watch granted start).trans (watched start)⟩

/-- What is asked for when a source has been looked at so many times. -/
def callsAt (source : GuideSource) (looks : Nat) : List GuideCall :=
  .refresh source.id :: List.replicate looks (.look source.id)

theorem calls_stage (start looks : Nat) : (around.stage settings source start looks).calls = callsAt source looks := by
  simp only [Site.calls, Circumstances.stage, List.map_cons, List.map_nil, List.map_replicate, callsAt,
    List.singleton_append]

/-- What a visit of an active source is, whenever it takes place. -/
theorem exists_visit (settings : RefreshSettings) (around : Circumstances) (active : source.isActive = true) :
    ∃ result looks, visit settings source around = ⟨⟨source, some result⟩, callsAt source looks⟩ ∧
      ∀ start, (refresh settings source).alone around.answer { now := start } =
        (some result, around.stage settings source start looks) := by
  obtain ⟨result, looks, ended⟩ := exists_alone_refresh settings source around
  refine ⟨result, looks, ?_, ended⟩
  rw [visit, if_pos active, ended, ← calls_stage]

theorem visit_of_inactive (settings : RefreshSettings) (around : Circumstances) (inactive : source.isActive = false) :
    visit settings source around = ⟨⟨source, none⟩, []⟩ := by
  rw [visit, if_neg (Bool.eq_false_iff.mp inactive)]

/-! ### Visits one after the other -/

theorem due_append (before rest : List GuideSource) : due (before ++ rest) = due before ++ due rest := by
  simp only [due, List.filter_append, List.map_append]

theorem requested_append (calls more : List GuideCall) :
    requested (calls ++ more) = requested calls ++ requested more :=
  List.filterMap_append

theorem visits_append (before sources : List GuideSource) (source : GuideSource) :
    visits settings scripts before (sources ++ [source]) = visits settings scripts before sources ++
      [visit settings source (scripts source.id ((due (before ++ sources)).count source.id))] := by
  induction sources generalizing before with
  | nil => simp only [visits, List.nil_append, List.append_nil]
  | cons first rest ih =>
    simp only [visits, List.cons_append, ih, List.append_assoc, List.nil_append]

theorem source_visit (settings : RefreshSettings) (source : GuideSource) (around : Circumstances) :
    (visit settings source around).fate.source = source := by
  unfold visit
  split <;> rfl

theorem map_source_visits (settings : RefreshSettings) (scripts : Scripts) (before sources : List GuideSource) :
    (visits settings scripts before sources).map (·.fate.source) = sources := by
  induction sources generalizing before with
  | nil => rfl
  | cons source rest ih => simp only [visits, List.map_cons, source_visit, ih]

theorem requested_callsAt (source : GuideSource) (looks : Nat) : requested (callsAt source looks) = [source.id] := by
  induction looks with
  | zero => rfl
  | succ looks ih => exact ih

theorem requested_visit (settings : RefreshSettings) (source : GuideSource) (around : Circumstances) :
    requested (visit settings source around).calls = due [source] := by
  cases active : source.isActive with
  | false =>
    rw [visit_of_inactive settings around active]
    simp [due, active, requested]
  | true =>
    obtain ⟨result, looks, same, -⟩ := exists_visit settings around active
    rw [same, requested_callsAt]
    simp [due, active]

/-- **Every active source is asked to refresh once**, in the order of the sources. -/
theorem requested_visits (settings : RefreshSettings) (scripts : Scripts) (before sources : List GuideSource) :
    requested ((visits settings scripts before sources).flatMap (·.calls)) = due sources := by
  induction sources generalizing before with
  | nil => rfl
  | cons source rest ih =>
    rw [visits, List.flatMap_cons, requested_append, requested_visit, ih, ← due_append, List.singleton_append]

/-- All that is asked for on a visit is asked about the source. -/
theorem id_of_mem_calls (settings : RefreshSettings) (source : GuideSource) (around : Circumstances) :
    ∀ call ∈ (visit settings source around).calls, call.id = source.id := by
  intro call member
  cases active : source.isActive with
  | false =>
    rw [visit_of_inactive settings around active] at member
    exact nomatch member
  | true =>
    obtain ⟨result, looks, same, -⟩ := exists_visit settings around active
    rw [same] at member
    rcases List.mem_cons.mp member with rfl | looked
    · rfl
    · rw [List.eq_of_mem_replicate looked]
      rfl

/-! ### A refresh on a tour -/

section
variable {scene : Scene Tour}

theorem callsAt_succ (source : GuideSource) (looks : Nat) :
    callsAt source (looks + 1) = callsAt source looks ++ [.look source.id] := by
  rw [callsAt, List.replicate_succ', ← List.cons_append]
  rfl

theorem looksSince_callsAt (calls : List GuideCall) (source : GuideSource) (looks : Nat) :
    looksSince source.id (calls ++ callsAt source looks) = looks := by
  have reversed : (calls ++ callsAt source looks).reverse =
      List.replicate looks (.look source.id) ++ .refresh source.id :: calls.reverse := by
    simp [callsAt]
  have looked : ∀ call ∈ List.replicate looks (GuideCall.look source.id),
      decide (call ≠ .refresh source.id) = true := by
    intro call member
    rw [List.eq_of_mem_replicate member]
    exact decide_eq_true nofun
  rw [looksSince, reversed, List.takeWhile_append_of_pos looked]
  simp

theorem count_requested_callsAt (calls : List GuideCall) (source : GuideSource) (looks : Nat) :
    (requested (calls ++ callsAt source looks)).count source.id - 1 = (requested calls).count source.id := by
  rw [requested_append, requested_callsAt, List.count_append, List.count_singleton_self, Nat.add_sub_cancel]

theorem exists_getLast? (calls : List GuideCall) (source : GuideSource) (looks : Nat) :
    ∃ call, (calls ++ callsAt source looks).getLast? = some call ∧ call.id = source.id := by
  cases looks with
  | zero => exact ⟨.refresh source.id, List.getLast?_concat, rfl⟩
  | succ looks =>
    refine ⟨.look source.id, ?_, rfl⟩
    rw [callsAt_succ, ← List.append_assoc, List.getLast?_concat]

/-- The scene of a tour while a source is visited. -/
def Scene.visiting (scene : Scene Tour) (site : Site) : Scene Tour :=
  ⟨scene.cell, site.now, scene.world.calls ++ site.calls⟩

/-- The circumstances that a source is found in on a tour. -/
def Scene.circumstances (scripts : Scripts) (source : GuideSource) (scene : Scene Tour) : Circumstances :=
  scripts source.id ((requested scene.world.calls).count source.id)

/-- Nobody disturbs a tour. -/
def onTour (scripts : Scripts) (sources : List GuideSource) : Surroundings (Scene Tour) Ask Ask.Reply :=
  undisturbed (Scene.answer (Tour.answer scripts sources))

variable {α : Type} {goal : α → Scene Tour → Prop}

theorem found_callsAt (scene : Scene Tour) (now looks : Nat) :
    Tour.found scripts source.id ⟨now, scene.world.calls ++ callsAt source looks⟩ =
      scene.circumstances scripts source := by
  rw [Tour.found, count_requested_callsAt, Scene.circumstances]

theorem excess_callsAt (scene : Scene Tour) (now looks : Nat) :
    Tour.excess scripts ⟨now, scene.world.calls ++ callsAt source looks⟩ =
      (scene.circumstances scripts source).excess looks := by
  obtain ⟨call, last, same⟩ := exists_getLast? scene.world.calls source looks
  rw [Tour.excess, last]
  show (Tour.found scripts call.id _).excess (looksSince call.id _) = _
  rw [same, found_callsAt, looksSince_callsAt]

theorem visiting_stage (scene : Scene Tour) (start looks : Nat) :
    scene.visiting (around.stage settings source start looks) =
      ⟨scene.cell, (around.stage settings source start looks).now, scene.world.calls ++ callsAt source looks⟩ := by
  rw [Scene.visiting, calls_stage]

theorem now_stage_succ (start looks : Nat) : (around.stage settings source start (looks + 1)).now =
    (around.stage settings source start looks).now + settings.pollInterval.toNanos + around.excess looks +
      around.delay looks := by
  simp only [Circumstances.stage, elapsed_succ, Nat.add_assoc]

/-- On a tour, a pause and a look at a source are what they are at its site. -/
theorem Tour.ensures_sleep_look {next : Except RemoteError GuideSource → Work TaskCell α}
    (there : scene.circumstances scripts source = around) (start looks : Nat)
    (rest : (onScene (next (around.shows looks))).Ensures (onTour scripts sources) goal
      (scene.visiting (around.stage settings source start (looks + 1)))) :
    (onScene (Work.sleep settings.pollInterval >>= fun _ => Work.remote (.guideSource source.id) >>= next)).Ensures
      (onTour scripts sources) goal (scene.visiting (around.stage settings source start looks)) := by
  subst there
  have slept (now : Nat) : Scene.answer (Tour.answer scripts sources) (.sleep settings.pollInterval)
      ⟨scene.cell, now, scene.world.calls ++ callsAt source looks⟩ =
        (some ⟨⟩, ⟨scene.cell, now + settings.pollInterval.toNanos + (scene.circumstances scripts source).excess looks,
          scene.world.calls ++ callsAt source looks⟩) := by
    rw [← excess_callsAt scene now looks]
    rfl
  have looked (now : Nat) : Scene.answer (Tour.answer scripts sources) (.remote (.guideSource source.id))
      ⟨scene.cell, now, scene.world.calls ++ callsAt source looks⟩ =
        (some ((scene.circumstances scripts source).shows looks), ⟨scene.cell,
          now + (scene.circumstances scripts source).delay looks,
          scene.world.calls ++ callsAt source (looks + 1)⟩) := by
    show (some ((Tour.found scripts source.id _).shows (looksSince source.id _)),
      Scene.mk scene.cell (Tour.mk (now + (Tour.found scripts source.id _).delay (looksSince source.id _)) _)) = _
    rw [found_callsAt, looksSince_callsAt, callsAt_succ, List.append_assoc]
  rw [visiting_stage, now_stage_succ] at rest
  rw [visiting_stage]
  exact ensures_answered (slept _) (ensures_answered (looked _) rest)

/-- On a tour, the clock tells the time. -/
theorem Tour.ensures_clock {next : Nat → Work TaskCell α}
    (rest : (onScene (next scene.world.now)).Ensures (onTour scripts sources) goal scene) :
    (onScene (Work.clock >>= next)).Ensures (onTour scripts sources) goal scene := by
  have told : Scene.answer (Tour.answer scripts sources) .clock scene = (some scene.world.now, scene) := rfl
  exact ensures_answered told rest

/-- On a tour, a watch goes as it does at the site of the source. -/
theorem Tour.ensures_watch (there : scene.circumstances scripts source = around) (start looks more : Nat) :
    (onScene (watch settings source (start + around.requestDelay) more)).Ensures (onTour scripts sources)
      (fun result later => ∃ site,
        (watch settings source (start + around.requestDelay) more).alone around.answer
          (around.stage settings source start looks) = (some result, site) ∧ later = scene.visiting site)
      (scene.visiting (around.stage settings source start looks)) := by
  induction more generalizing looks with
  | zero => exact ensures_done (stable_undisturbed _) ⟨_, rfl, rfl⟩
  | succ more ih =>
    have since (k : Nat) : (scene.visiting (around.stage settings source start k)).world.now -
        (start + around.requestDelay) = around.elapsed settings k := Nat.add_sub_cancel_left ..
    rw [alone_watch_succ, watch]
    refine Tour.ensures_clock ?_
    rw [since]
    split
    · exact ensures_done (stable_undisturbed _) ⟨_, rfl, rfl⟩
    · refine Tour.ensures_sleep_look there start looks ?_
      cases around.shows looks with
      | error error => exact ih (looks + 1)
      | ok seen =>
        refine Tour.ensures_clock ?_
        simp only [since, Except.toOption, Option.bind_some]
        cases verdict? settings source.updatedAt seen (around.elapsed settings (looks + 1)) with
        | none => exact ih (looks + 1)
        | some verdict => exact ensures_done (stable_undisturbed _) ⟨_, rfl, rfl⟩

/-- **On a tour, the refresh of a source goes as it does by itself.** -/
theorem Tour.ensures_refresh (there : scene.circumstances scripts source = around) :
    (onScene (refresh settings source)).Ensures (onTour scripts sources)
      (fun result later => ∃ site,
        (refresh settings source).alone around.answer { now := scene.world.now } = (some result, site) ∧
          later = scene.visiting site) scene := by
  have requested : Scene.answer (Tour.answer scripts sources) (.remote (.refreshGuideSource source.id)) scene =
      (some around.granted, scene.visiting (around.stage settings source scene.world.now 0)) := by
    subst there
    rfl
  cases granted : around.granted with
  | error error =>
    rw [alone_refresh_of_refused granted]
    refine ensures_answered requested ?_
    rw [granted]
    exact ensures_done (stable_undisturbed _) ⟨_, rfl, rfl⟩
  | ok =>
    have since : (around.stage settings source scene.world.now 0).now = scene.world.now + around.requestDelay :=
      Nat.add_zero _
    rw [alone_refresh_eq_watch granted]
    refine ensures_answered requested ?_
    rw [granted]
    refine Tour.ensures_clock ?_
    show (onScene (watch _ _ (around.stage settings source scene.world.now 0).now _)).Ensures _ _ _
    rw [since]
    exact Tour.ensures_watch there scene.world.now 0 (maxLooks settings)

end

/-! ### A whole tour -/

/-- Where a tour stands after some fates, when nobody asks the task to stop: they are what the refreshes of their
sources came to by themselves, and so is what was asked for. -/
structure Toured (settings : RefreshSettings) (scripts : Scripts) (met : List Fate) (isCancelled : Bool)
    (tour : Tour) : Prop where
  goesOn : isCancelled = false
  fates : met = (visits settings scripts [] (met.map Fate.source)).map (·.fate)
  calls : tour.calls = (visits settings scripts [] (met.map Fate.source)).flatMap (·.calls)

/-- One visit more. -/
theorem Toured.append {fates : List Fate} {isCancelled : Bool} {tour later : Tour}
    (toured : Toured settings scripts fates isCancelled tour) {visited : Visit}
    (next : visit settings source (scripts source.id ((requested tour.calls).count source.id)) = visited)
    (calls : later.calls = tour.calls ++ visited.calls) :
    Toured settings scripts (fates ++ [visited.fate]) isCancelled later := by
  have same : visited.fate.source = source := by
    rw [← next, source_visit]
  have visits : visits settings scripts [] ((fates ++ [visited.fate]).map Fate.source) =
      visits settings scripts [] (fates.map Fate.source) ++ [visited] := by
    rw [List.map_append, List.map_singleton, same, visits_append, List.nil_append, ← next, toured.calls,
      requested_visits]
  refine ⟨toured.goesOn, ?_, ?_⟩
  · rw [visits, List.map_append, ← toured.fates, List.map_singleton]
  · rw [visits, List.flatMap_append, ← toured.calls, calls, List.flatMap_singleton]

/-- **Nothing is carried over** from one source to another. -/
theorem carries_toured (settings : RefreshSettings) (scripts : Scripts) (sources : List GuideSource) :
    Carries (onTour scripts sources) settings sources (Toured settings scripts) where
  progress _ _ := nofun
  asked _ _ := nofun
  others _ _ := nofun
  skips fates source rest _ inactive isCancelled tour toured :=
    toured.append (visit_of_inactive settings _ inactive) (List.append_nil _).symm
  refreshes fates source rest _ active scene toured := by
    refine (Tour.ensures_refresh rfl).mono ?_
    rintro result later ⟨site, ended, rfl⟩
    obtain ⟨result', looks, visited, ended'⟩ :=
      exists_visit settings (scene.circumstances scripts source) active
    obtain ⟨same, rfl⟩ := Prod.mk.inj (ended.symm.trans (ended' scene.world.now))
    obtain rfl := Option.some.inj same
    refine ⟨rfl, toured.append visited ?_⟩
    show scene.world.calls ++ Site.calls _ = _
    rw [calls_stage]

/-- What a whole execution comes to that nobody asks to stop. -/
theorem Tour.ensures_run {cell : TaskCell} (checked : settings.check = .ok ⟨⟩) (goesOn : cell.isCancelled = false)
    (scripts : Scripts) (sources : List GuideSource) (now : Nat) :
    (onScene (run settings)).Ensures (onTour scripts sources)
      (fun report later => report = completed ((visits settings scripts [] sources).map (·.fate)) ∧
        later.world.calls = (visits settings scripts [] sources).flatMap (·.calls)) ⟨cell, { now }⟩ := by
  have listed (scene : Scene Tour) : Scene.answer (Tour.answer scripts sources) (.remote .guideSources) scene =
      (some (.ok sources), scene) := rfl
  rw [run_eq checked]
  refine ensures_act (stable_undisturbed (· = _)) rfl ?_
  rintro scene rfl
  refine ensures_answered (listed _) ?_
  refine ((carries_toured settings scripts sources).ensures_attend rfl ⟨goesOn, rfl, rfl⟩).mono ?_
  rintro report later ⟨fates, reports, toured⟩
  cases reports with
  | completed all =>
    rw [← all, ← toured.fates]
    exact ⟨rfl, toured.calls⟩
  | stopped some asked => exact nomatch toured.goesOn.symm.trans asked

theorem alone_run {cell : TaskCell} (checked : settings.check = .ok ⟨⟩) (goesOn : cell.isCancelled = false)
    (scripts : Scripts) (sources : List GuideSource) (now : Nat) : ∃ last,
      (onScene (run settings)).alone (Scene.answer (Tour.answer scripts sources)) ⟨cell, { now }⟩ =
          (some (completed ((visits settings scripts [] sources).map (·.fate))), last) ∧
        last.world.calls = (visits settings scripts [] sources).flatMap (·.calls) := by
  have ensures := Tour.ensures_run checked goesOn scripts sources now
  unfold onTour at ensures
  obtain ⟨report, last, same, rfl, calls⟩ := ensures.alone
  exact ⟨last, same, calls⟩

/-- What is asked about a source is asked on its visits. -/
theorem filter_calls_visits (settings : RefreshSettings) (scripts : Scripts) (id : Int)
    (before sources : List GuideSource) :
    ((visits settings scripts before sources).flatMap (·.calls)).filter (·.id = id) =
      ((visits settings scripts before sources).filter (·.fate.source.id = id)).flatMap (·.calls) := by
  induction sources generalizing before with
  | nil => rfl
  | cons source rest ih =>
    have about := id_of_mem_calls settings source (scripts source.id ((due before).count source.id))
    rw [visits, List.flatMap_cons, List.filter_append, ih, List.filter_cons, source_visit]
    split
    · next same =>
      rw [List.flatMap_cons, List.filter_eq_self.mpr]
      intro call member
      rw [about call member]
      exact same
    · next differ =>
      rw [List.filter_eq_nil_iff.mpr, List.nil_append]
      intro call member
      rw [about call member]
      exact differ

/-- What becomes of a source depends on the circumstances at that source only. -/
theorem filter_visits_congr (settings : RefreshSettings) {scripts others : Scripts} {id : Int}
    (same : others id = scripts id) (before sources : List GuideSource) :
    (visits settings others before sources).filter (·.fate.source.id = id) =
      (visits settings scripts before sources).filter (·.fate.source.id = id) := by
  induction sources generalizing before with
  | nil => rfl
  | cons source rest ih =>
    rw [visits, visits, List.filter_cons, List.filter_cons, source_visit, source_visit, ih]
    by_cases own : source.id = id
    · rw [own, same]
    · simp only [own, decide_false, Bool.false_eq_true, if_false]

/-- The refresh of every active source comes to an end. -/
theorem result_eq_none_iff {before : List GuideSource} {visited : Visit}
    (member : visited ∈ visits settings scripts before sources) :
    visited.fate.result = none ↔ visited.fate.source.isActive = false := by
  induction sources generalizing before with
  | nil => exact nomatch member
  | cons source rest ih =>
    rcases List.mem_cons.mp member with rfl | later
    · cases active : source.isActive with
      | false =>
        rw [visit_of_inactive settings _ active]
        exact iff_of_true rfl active
      | true =>
        obtain ⟨result, looks, same, -⟩ :=
          exists_visit settings (scripts source.id ((due before).count source.id)) active
        rw [same]
        exact iff_of_false nofun fun inactive => nomatch active.symm.trans inactive
    · exact ih later

/-- **Sources are handled each by itself**, whatever the circumstances are. -/
structure HandlesEach (settings : RefreshSettings) (sources : List GuideSource)
    (ended : Scripts → Option TaskReport × Scene Tour) : Prop where
  /-- every active source is asked to refresh once, in their order, and no other is -/
  requested : ∀ scripts, requested (ended scripts).2.world.calls = due sources
  /-- nothing else is asked about a source than its refresh asks by itself -/
  calls : ∀ scripts, (ended scripts).2.world.calls = (visits settings scripts [] sources).flatMap (·.calls)
  /-- what is reported are the fates that the sources meet, one each -/
  report : ∀ scripts, (ended scripts).1 = some (completed ((visits settings scripts [] sources).map (·.fate)))
  everyone : ∀ scripts, (visits settings scripts [] sources).map (·.fate.source) = sources
  /-- those that are not active are skipped, and the refresh of any other comes to an end -/
  skipped : ∀ scripts, ∀ visited ∈ visits settings scripts [] sources,
    visited.fate.result = none ↔ visited.fate.source.isActive = false
  /-- other circumstances at other sources make no difference to a source -/
  apart : ∀ scripts others id, others id = scripts id →
    (ended others).2.world.calls.filter (·.id = id) = (ended scripts).2.world.calls.filter (·.id = id) ∧
      (visits settings others [] sources).filter (·.fate.source.id = id) =
        (visits settings scripts [] sources).filter (·.fate.source.id = id)

theorem handlesEach_of_ended {ended : Scripts → Option TaskReport × Scene Tour}
    (each : ∀ scripts, ∃ last,
      ended scripts = (some (completed ((visits settings scripts [] sources).map (·.fate))), last) ∧
        last.world.calls = (visits settings scripts [] sources).flatMap (·.calls)) :
    HandlesEach settings sources ended := by
  have calls (scripts : Scripts) :
      (ended scripts).2.world.calls = (visits settings scripts [] sources).flatMap (·.calls) := by
    obtain ⟨last, same, calls⟩ := each scripts
    rw [same, calls]
  refine ⟨fun scripts => ?_, calls, fun scripts => ?_, fun scripts => map_source_visits settings scripts [] sources,
    fun scripts _ member => result_eq_none_iff member, fun scripts others id same => ⟨?_, ?_⟩⟩
  · rw [calls, requested_visits]
  · obtain ⟨last, same, -⟩ := each scripts
    rw [same]
  · rw [calls, calls, filter_calls_visits, filter_calls_visits, filter_visits_congr settings same]
  · exact filter_visits_congr settings same [] sources

/-- **A refresh handles each source by itself**, however many there are and whatever the circumstances are at each, when
nobody asks it to stop. -/
theorem run_handlesEach (settings : RefreshSettings) (sources : List GuideSource) (cell : TaskCell) (now : Nat)
    (checked : settings.check = .ok ⟨⟩) (goesOn : cell.isCancelled = false) :
    HandlesEach settings sources fun scripts =>
      (onScene (run settings)).alone (Scene.answer (Tour.answer scripts sources)) ⟨cell, { now }⟩ :=
  handlesEach_of_ended fun scripts => alone_run checked goesOn scripts sources now

/-- Three sources, the second of which is not active. -/
def threeSources : List GuideSource :=
  [⟨1, "News", none, true, none⟩, ⟨2, "Films", none, false, none⟩, ⟨3, "Sports", none, true, none⟩]

/-- The first source is updated by the time it is looked at, and the refresh of the third one is refused. -/
def firstUpdated : Scripts := fun id _ =>
  { unmoved with
    granted := if id = 1 then .ok ⟨⟩ else .error .transport
    shows := fun _ => .ok ⟨1, "News", none, true, some default⟩ }

/-- Each of three sources is counted as something else. -/
theorem run_handlesEach_threeSources :
    ({} : RefreshSettings).check = .ok ⟨⟩ ∧ ({} : TaskCell).isCancelled = false ∧
      ((onScene (run {})).alone (Scene.answer (Tour.answer firstUpdated threeSources)) ⟨{}, { now := 0 }⟩).1.map
          (·.tally) = some ⟨1, 1, 1⟩ ∧
      ((onScene (run {})).alone (Scene.answer (Tour.answer firstUpdated threeSources))
          ⟨{}, { now := 0 }⟩).2.world.calls = [.refresh 1, .look 1, .refresh 3] := by
  have checked : ({} : RefreshSettings).check = .ok ⟨⟩ := by decide
  have each := run_handlesEach {} threeSources {} 0 checked rfl
  refine ⟨checked, rfl, ?_, ?_⟩
  · rw [each.report firstUpdated]
    rfl
  · rw [each.calls firstUpdated]
    decide

end StreamWatch.GuideRefresh
