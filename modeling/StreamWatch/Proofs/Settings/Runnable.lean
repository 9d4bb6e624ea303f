/-
**Settings that are accepted make tasks that run.**

The settings of the service are looked over once, before it starts; every task looks over its own again, whenever it is
executed. What the first look accepts, the others should. They do but for one: a refresh of guide sources refuses to
wait for less than the time between two looks at a source, of which the first look knows nothing.

* `Settings.check_eq_ok_iff`: when the settings of the service are accepted;
* `exists_registerAll`: then all tasks are registered, with the duties they were built with;
* `check_standard_iff`: these can be fulfilled, unless the refresh is hasty;
* `Fits.others`: a duty that can be fulfilled stays so, whatever change of settings is asked for;
* `started_registerAll`: so no execution of a task says that its settings will not do, but those of a hasty refresh.
-/

import StreamWatch.Proofs.Scheduler.Lifecycle
import StreamWatch.Proofs.Settings.Rejection
import StreamWatch.Proofs.Task.Faults

namespace StreamWatch

open Program

/-! ### Settings of the service -/

theorem positive_eq_ok_iff {isZero : Bool} {name : String} : positive isZero name = .ok ⟨⟩ ↔ isZero = false := by
  cases isZero with
  | true => exact ⟨nofun, nofun⟩
  | false => exact ⟨fun _ => rfl, fun _ => rfl⟩

theorem checkTask_eq_ok_iff {id : String} {entry : TaskEntry} :
    checkTask id entry = .ok ⟨⟩ ↔ entry.timing.check = .ok ⟨⟩ := mapError_eq_ok_iff

/-- **When the settings of the service are accepted**: some of them have to be more than nothing, and every task has to
have a timing under which it can start. -/
theorem Settings.check_eq_ok_iff {settings : Settings} : settings.check = .ok ⟨⟩ ↔
    settings.probing.timeout.isZero = false ∧ settings.scheduler.checkInterval.isZero = false ∧
      settings.refresh.pollInterval.isZero = false ∧ (settings.remote.pageSize == 0) = false ∧
        ∀ id entry, settings.scheduler.tasks.get? id = some entry → entry.timing.check = .ok ⟨⟩ := by
  rw [check, checks_eq_ok_iff, checks_eq_ok_iff, checks_eq_ok_iff, checks_eq_ok_iff, forM_checks_eq_ok_iff, Prod.forall]
  simp only [positive_eq_ok_iff, checkTask_eq_ok_iff, SortedMap.get?_eq_some_iff]

/-! ### Duties -/

/-- Settings of a refresh will do when there is some time between two looks at a source, and it waits as long at
least. -/
theorem RefreshSettings.check_eq_ok_iff {settings : RefreshSettings} : settings.check = .ok ⟨⟩ ↔
    settings.pollInterval.isZero = false ∧ ¬ settings.maxWait < settings.pollInterval := by
  unfold check
  split
  · next isZero => simp [isZero]
  · next isPositive =>
    split
    · next isShort => simp [isShort]
    · next isLong => simp [isPositive, isLong]

namespace Duty

/-- Whether a duty is a refresh that waits for less than the time between two looks at a source. -/
def IsHasty (duty : Duty) : Prop :=
  ∃ settings, duty = guideRefresh settings ∧ settings.maxWait < settings.pollInterval

variable {settings : Settings} {duty : Duty}

/-- **Of the duties that accepted settings make**, all can be fulfilled but a hasty refresh. -/
theorem check_standard_iff (accepted : settings.check = .ok ⟨⟩) (among : duty ∈ standard settings) :
    duty.check true = .ok ⟨⟩ ↔ ¬ duty.IsHasty := by
  obtain ⟨-, -, polls, -⟩ := Settings.check_eq_ok_iff.mp accepted
  simp only [standard, List.mem_cons, List.not_mem_nil, or_false] at among
  rcases among with rfl | rfl | rfl | rfl
  · exact iff_of_true rfl (by simp [IsHasty])
  · exact iff_of_true rfl (by simp [IsHasty])
  · exact iff_of_true rfl (by simp [IsHasty])
  · show settings.refresh.check = .ok ⟨⟩ ↔ _
    rw [RefreshSettings.check_eq_ok_iff, and_iff_right polls]
    refine not_congr ⟨fun isShort => ⟨_, rfl, isShort⟩, ?_⟩
    rintro ⟨_, ⟨⟩, isShort⟩
    exact isShort

theorem standard_distinct (settings : Settings) : ((standard settings).map Duty.id).Nodup := by
  simp [standard, Duty.id]

end Duty

namespace Service

variable {setup : Setup} {service later : Service} {id other : String} {duty : Duty}

/-- The duties of all tasks. -/
def duties (service : Service) : SortedMap String Duty := service.tasks.mapValues fun _ task => task.duty

theorem duties_get?_eq_some_iff :
    service.duties.get? id = some duty ↔ ∃ task, service.tasks.get? id = some task ∧ task.duty = duty := by
  rw [duties, SortedMap.get?_mapValues, Option.map_eq_some_iff]

theorem dutyOf_eq_ok_iff_mem_keys :
    service.dutyOf id = .ok duty ↔ id ∈ service.scheduler.entries.keys ∧ service.duties.get? id = some duty := by
  rw [dutyOf_eq_ok_iff, duties_get?_eq_some_iff, SortedMap.mem_keys]
  simp only [Scheduler.entry_eq_ok_iff]

theorem holdsStandard_iff :
    service.HoldsStandard ↔ ∀ id duty, service.duties.get? id = some duty → duty.IsStandard := by
  simp only [HoldsStandard, duties_get?_eq_some_iff]
  refine forall_congr' fun id => ⟨?_, fun holds task found => holds _ ⟨task, found, rfl⟩⟩
  rintro holds _ ⟨task, found, rfl⟩
  exact holds task found

/-- A change of a task that leaves its duty alone leaves all of them alone. -/
theorem duties_modify {change : Task → Task} (same : ∀ task, (change task).duty = task.duty) :
    (service.tasks.modify id change).mapValues (fun _ task => task.duty) = service.duties := by
  refine SortedMap.ext_get? fun other => ?_
  rw [duties, SortedMap.get?_mapValues, SortedMap.get?_modify, SortedMap.get?_mapValues, Option.map_map]
  refine Option.map_congr fun task _ => ?_
  show (if other = id then change task else task).duty = task.duty
  split
  · exact same task
  · rfl

theorem duties_putCell (cell : TaskCell) : (service.putCell id cell).duties = service.duties :=
  duties_modify fun _ => rfl

theorem duties_putProbeTask (task : ProbeTask) : (service.putProbeTask id task).duties = service.duties :=
  duties_modify fun _ => rfl

theorem duties_putDuty : (service.putDuty id duty).duties.get? other =
    (service.duties.get? other).map fun before => if other = id then duty else before := by
  rw [duties, duties, putDuty, SortedMap.get?_mapValues, SortedMap.get?_modify, SortedMap.get?_mapValues,
    Option.map_map, Option.map_map]
  refine Option.map_congr fun task _ => ?_
  show (if other = id then { task with duty } else task).duty = if other = id then duty else task.duty
  split <;> rfl

/-- The duties that a service begins with, when they have different names. -/
theorem duties_ofDuties {known : List Duty} (distinct : (known.map Duty.id).Nodup) :
    (ofDuties known).duties.get? id = some duty ↔ duty ∈ known ∧ duty.id = id := by
  have distinct : ((known.reverse.map fun duty => (duty.id, ({ duty } : Task))).map (·.1)).Nodup := by
    rw [List.map_map, List.map_reverse, List.nodup_reverse]
    exact distinct
  rw [duties_get?_eq_some_iff]
  show (∃ task : Task, (SortedMap.ofList _).get? id = some task ∧ task.duty = duty) ↔ _
  simp only [SortedMap.get?_ofList_eq_some_iff distinct, List.mem_map, List.mem_reverse, Prod.mk.injEq]
  constructor
  · rintro ⟨_, ⟨_, among, named, rfl⟩, rfl⟩
    exact ⟨among, named⟩
  · rintro ⟨among, named⟩
    exact ⟨_, ⟨duty, among, named, rfl⟩, rfl⟩

/-! ### Registration -/

theorem register_eq_ok {now : Instant} {timing : Timing} (timed : timing.check = .ok ⟨⟩)
    (absent : id ∉ service.scheduler.entries.keys) (isEnabled : Bool) : service.register now id timing isEnabled =
      .ok (service.withScheduler (service.scheduler.write id { timing, isEnabled, registeredAt := now })) := by
  have unknown : ¬ service.scheduler.entries.contains id = true := fun known =>
    absent (SortedMap.mem_keys.mpr (Option.isSome_iff_exists.mp known))
  rw [register, Scheduler.register, Scheduler.checkTiming, timed]
  show Except.map _ (if service.scheduler.entries.contains id = true then _ else _) = _
  rw [if_neg unknown]
  rfl

section
variable (now : Instant)
  (timed : ∀ id entry, setup.settings.scheduler.tasks.get? id = some entry → entry.timing.check = .ok ⟨⟩)
  (plain : ∀ id entry, setup.settings.scheduler.tasks.get? id = some entry → entry.settings = none)
include timed plain

/-- A task for which no settings are set is registered as it is. -/
theorem exists_registerAsSet (absent : id ∉ service.scheduler.entries.keys) : ∃ entry,
    service.registerAsSet setup now id = (.ok ⟨⟩, service.withScheduler (service.scheduler.write id entry)) := by
  unfold registerAsSet
  dsimp only
  split
  · next isEnabled timing settings duty named _ => exact nomatch plain id _ named
  · rename_i entry named _
    rw [register_eq_ok (timed id entry named) absent]
    exact ⟨_, rfl⟩
  · rw [register_eq_ok rfl absent]
    exact ⟨_, rfl⟩

/-- **All tasks are registered**, under settings whose timings are accepted and that set nothing for single tasks. -/
theorem exists_registerAll {ids : List String} (distinct : ids.Nodup)
    (absent : ∀ id ∈ ids, id ∉ service.scheduler.entries.keys) : ∃ after,
      registerAll setup now service ids = (.ok ⟨⟩, after) ∧ after.tasks = service.tasks ∧
        ∀ id, id ∈ after.scheduler.entries.keys ↔ id ∈ ids ∨ id ∈ service.scheduler.entries.keys := by
  induction ids generalizing service with
  | nil => exact ⟨service, rfl, rfl, fun id => by simp⟩
  | cons first rest ih =>
    obtain ⟨differs, distinct⟩ := List.nodup_cons.mp distinct
    obtain ⟨entry, registered⟩ := exists_registerAsSet now timed plain (absent first List.mem_cons_self)
    have known : ∀ id, id ∈ (service.withScheduler (service.scheduler.write first entry)).scheduler.entries.keys ↔
        id = first ∨ id ∈ service.scheduler.entries.keys := fun id => SortedMap.mem_keys_insert
    have absent : ∀ id ∈ rest,
        id ∉ (service.withScheduler (service.scheduler.write first entry)).scheduler.entries.keys := by
      intro id among there
      rcases (known id).mp there with rfl | earlier
      · exact differs among
      · exact absent id (List.mem_cons_of_mem _ among) earlier
    obtain ⟨after, rested, same, keys⟩ := ih distinct absent
    refine ⟨after, ?_, same, fun id => ?_⟩
    · rw [registerAll, registered]
      exact rested
    · rw [keys id, List.mem_cons]
      exact (or_congr_right (known id)).trans (or_left_comm.trans or_assoc.symm)

end

/-! ### What may become of duties -/

/-- What others make of the service: they leave the duties of all tasks alone, or ask for a change of the settings of
one. -/
inductive Others (setup : Setup) : Service → Service → Prop
  | spares {service later : Service} (same : later.duties = service.duties) : Others setup service later
  | revises (service : Service) (id : String) (change : Json) :
      Others setup service (service.changeSettings setup id change).2

theorem leaves_duties_execute (setup : Setup) (id : String) : (execute setup id).Leaves duties :=
  leaves_executeOf setup id (fun cell _ => duties_putCell cell) fun task _ => duties_putProbeTask task

/-- Whether all duties are among those that the service comes with, and the one of some task can be fulfilled. -/
structure Fits (setup : Setup) (id : String) (duties : SortedMap String Duty) : Prop where
  standard : ∀ other duty, duties.get? other = some duty → duty.IsStandard
  fulfilled : ∀ duty, duties.get? id = some duty → duty.check setup.hasEngine = .ok ⟨⟩

/-- **A duty that can be fulfilled stays so**, whatever change of settings is asked for. -/
theorem Fits.others (changed : Others setup service later) (fits : Fits setup id service.duties) :
    Fits setup id later.duties := by
  cases changed with
  | spares same => rwa [same]
  | revises other change =>
    have standard := holdsStandard_iff.mpr fits.standard
    have settled := settled_changeSettings setup standard other change
    refine ⟨holdsStandard_iff.mp (settled.holdsStandard standard), fun duty found => ?_⟩
    generalize service.changeSettings setup other change = outcome at settled found
    cases settled with
    | refused unwelcome untouched told =>
      subst untouched
      exact fits.fulfilled duty found
    | @accepted after later welcome written kept others =>
      subst written
      obtain ⟨-, -, -, checked⟩ := welcome
      rw [duties_putDuty] at found
      obtain ⟨before, there, rfl⟩ := Option.map_eq_some_iff.mp found
      split
      · exact checked
      · exact fits.fulfilled before there

/-! ### Executions -/

/-- Whether every execution of a task of which others make what they may, from some state of the service on, ends with a
report of a kind, if it ends at all. It is answered by anyone who leaves the duties of tasks alone. -/
def Reports (setup : Setup) (others : Service → Service → Prop) (service : Service) (id : String)
    (kind : TaskReport → Prop) : Prop :=
  ∀ outside : Outside Service Ask Ask.Reply, outside.Leaves duties → ∀ result beside later,
    Thread.Reaches outside others (.awake (execute setup id) {}, service) (.awake (.done result) beside, later) →
      kind result.toTaskReport

/-- An execution is reported as all duties of a task are fulfilled that it may have meanwhile. -/
theorem reports_of_fulfil {others : Service → Service → Prop} {kind : TaskReport → Prop}
    (good : SortedMap String Duty → Prop)
    (kept : ∀ service later, others service later → good service.duties → good later.duties)
    (fulfils : ∀ duties duty, good duties → duties.get? id = some duty →
      (fulfil setup id duty).Returns (fun service => good service.duties) kind)
    (held : good service.duties) : Reports setup others service id kind := by
  intro outside leaves result beside last reached
  have thread : (Thread.awake (execute setup id) {} : Thread outside TaskResult).Returns
      (fun service => good service.duties) fun result => kind result.toTaskReport :=
    returns_execute setup id fun service task held found =>
      fulfils service.duties task.duty held (duties_get?_eq_some_iff.mpr ⟨task, found, rfl⟩)
  exact thread.reaches leaves kept
    ⟨leaves_duties_execute setup id, fun _ among => absurd among List.not_mem_nil, nofun⟩ held reached

/-- **A task with a duty that can be fulfilled** never says that its settings will not do. -/
theorem Fits.reports (fits : Fits setup id service.duties) :
    Reports setup (Others setup) service id fun report => ¬ report.Blames .invalidSettings :=
  reports_of_fulfil (Fits setup id) (fun _ _ changed before => before.others changed)
    (fun _ duty fits found => unblaming_fulfil setup id (fits.fulfilled duty found)) fits

/-- **A hasty refresh** says so whenever it is executed, until it is given other settings. -/
theorem reports_of_hasty (found : service.duties.get? id = some duty) (hasty : duty.IsHasty) :
    Reports setup (fun service later => later.duties = service.duties) service id
      fun report => report.Blames .invalidSettings := by
  obtain ⟨settings, rfl, isShort⟩ := hasty
  have unfit : ∃ message, settings.check = .error message := by
    cases checked : settings.check with
    | error message => exact ⟨message, rfl⟩
    | ok _ => exact absurd isShort (RefreshSettings.check_eq_ok_iff.mp checked).2
  obtain ⟨message, unfit⟩ := unfit
  refine reports_of_fulfil (fun duties => duties.get? id = some (.guideRefresh settings)) ?_ ?_ found
  · intro service later same before
    rwa [same]
  · intro duties duty before there
    cases before.symm.trans there
    exact blames_fulfil setup id unfit

/-! ### The service as it is started -/

/-- The names under which the tasks are registered that the service comes with. -/
abbrev standardNames (settings : Settings) : List String := (Duty.standard settings).map Duty.id

/-- The tasks that the service comes with are registered with the duties that the settings make, and no others are. -/
theorem exists_started (setup : Setup) (now : Instant)
    (timed : ∀ id entry, setup.settings.scheduler.tasks.get? id = some entry → entry.timing.check = .ok ⟨⟩)
    (plain : ∀ id entry, setup.settings.scheduler.tasks.get? id = some entry → entry.settings = none) : ∃ after,
      registerAll setup now (ofDuties (Duty.standard setup.settings)) (standardNames setup.settings) = (.ok ⟨⟩, after) ∧
        ∀ id duty, after.dutyOf id = .ok duty ↔ duty ∈ Duty.standard setup.settings ∧ duty.id = id := by
  have distinct := Duty.standard_distinct setup.settings
  have absent : ∀ id ∈ standardNames setup.settings,
      id ∉ (ofDuties (Duty.standard setup.settings)).scheduler.entries.keys := fun _ _ => List.not_mem_nil
  obtain ⟨after, registered, same, keys⟩ := exists_registerAll now timed plain distinct absent
  refine ⟨after, registered, fun id duty => ?_⟩
  have known : after.duties = (ofDuties (Duty.standard setup.settings)).duties := by rw [duties, same, duties]
  rw [dutyOf_eq_ok_iff_mem_keys, known, duties_ofDuties distinct, keys]
  constructor
  · exact And.right
  · rintro ⟨among, rfl⟩
    exact ⟨.inl (List.mem_map_of_mem among), among, rfl⟩

/-- Whether a task can be executed. -/
structure Runs (setup : Setup) (service : Service) (id : String) (duty : Duty) : Prop where
  /-- its duty can be fulfilled -/
  checked : duty.check setup.hasEngine = .ok ⟨⟩
  /-- no execution of it says that its settings will not do -/
  reports : Reports setup (Others setup) service id fun report => ¬ report.Blames .invalidSettings

/-- **Whether a service runs as its settings say.** The tasks that it comes with are registered, and no others are. Each
of them runs as long as it is no hasty refresh. A hasty refresh does not: its duty is refused, and every execution of it
says so. -/
structure Started (setup : Setup) (service : Service) : Prop where
  registered : ∀ id duty, service.dutyOf id = .ok duty ↔ duty ∈ Duty.standard setup.settings ∧ duty.id = id
  runs : ∀ id duty, service.dutyOf id = .ok duty → ¬ duty.IsHasty → service.Runs setup id duty
  refused : ∀ id duty, service.dutyOf id = .ok duty → duty.IsHasty → ∃ message,
    duty.check setup.hasEngine = .error message
  reports : ∀ id duty, service.dutyOf id = .ok duty → duty.IsHasty →
    Reports setup (fun service later => later.duties = service.duties) service id
      fun report => report.Blames .invalidSettings

/-- **Accepted settings make tasks that run**, with an engine and without settings of single tasks, but for a hasty
refresh. -/
theorem started_registerAll {setup : Setup} (engine : setup.hasEngine = true) (accepted : setup.settings.check = .ok ⟨⟩)
    (plain : ∀ id entry, setup.settings.scheduler.tasks.get? id = some entry → entry.settings = none) (now : Instant) :
    ∃ after,
      registerAll setup now (ofDuties (Duty.standard setup.settings)) (standardNames setup.settings) = (.ok ⟨⟩, after) ∧
        Started setup after := by
  obtain ⟨-, -, -, -, timed⟩ := Settings.check_eq_ok_iff.mp accepted
  obtain ⟨after, registered, known⟩ := exists_started setup now timed plain
  have standard : after.HoldsStandard := by
    have holds : (registerAll setup now _ (standardNames setup.settings)).2.HoldsStandard :=
      holdsStandard_registerAll (holdsStandard_ofDuties setup.settings) now _
    rwa [registered] at holds
  have checked : ∀ id duty, after.dutyOf id = .ok duty → (duty.check setup.hasEngine = .ok ⟨⟩ ↔ ¬ duty.IsHasty) := by
    intro id duty held
    rw [engine]
    exact Duty.check_standard_iff accepted ((known id duty).mp held).1
  refine ⟨after, registered, ?_⟩
  constructor
  case registered => exact known
  case runs =>
    intro id duty held patient
    have fulfilled := (checked id duty held).mpr patient
    have found := (dutyOf_eq_ok_iff_mem_keys.mp held).2
    have fits : Fits setup id after.duties := by
      refine ⟨holdsStandard_iff.mp standard, fun other there => ?_⟩
      cases found.symm.trans there
      exact fulfilled
    exact ⟨fulfilled, fits.reports⟩
  case refused =>
    intro id duty held hasty
    cases looked : duty.check setup.hasEngine with
    | error message => exact ⟨message, rfl⟩
    | ok _ => exact absurd hasty ((checked id duty held).mp looked)
  case reports =>
    intro id duty held hasty
    exact reports_of_hasty (dutyOf_eq_ok_iff_mem_keys.mp held).2 hasty

/-- A service whose refresh is executed every hour, and waits for a minute. -/
def hourlyRefresh : Setup where
  settings :=
    { scheduler := { tasks := .ofList [("epg_refresh", { timing := .interval 3600 })] }
      refresh := { maxWait := .ofSeconds 60 } }

theorem hourlyRefresh_plain (id : String) (entry : TaskEntry)
    (found : hourlyRefresh.settings.scheduler.tasks.get? id = some entry) : entry.settings = none := by
  obtain ⟨-, rfl⟩ := Prod.mk.inj (List.mem_singleton.mp ((SortedMap.get?_eq_some_iff _ id entry).mp found))
  rfl

theorem hourlyRefresh_accepted : hourlyRefresh.settings.check = .ok ⟨⟩ := by
  refine Settings.check_eq_ok_iff.mpr ⟨by decide, by decide, by decide, by decide, fun id entry found => ?_⟩
  obtain ⟨-, rfl⟩ := Prod.mk.inj (List.mem_singleton.mp ((SortedMap.get?_eq_some_iff _ id entry).mp found))
  rfl

theorem hourlyRefresh_started : hourlyRefresh.hasEngine = true ∧ hourlyRefresh.settings.check = .ok ⟨⟩ ∧
    (∀ id entry, hourlyRefresh.settings.scheduler.tasks.get? id = some entry → entry.settings = none) ∧
    ∃ after,
      registerAll hourlyRefresh default (ofDuties (Duty.standard hourlyRefresh.settings))
        (standardNames hourlyRefresh.settings) = (.ok ⟨⟩, after) ∧ Started hourlyRefresh after :=
  ⟨rfl, hourlyRefresh_accepted, hourlyRefresh_plain,
    started_registerAll rfl hourlyRefresh_accepted hourlyRefresh_plain default⟩

/-- A service whose refresh waits for half the time between two looks at a source. -/
def hastyRefresh : Setup where
  settings :=
    { scheduler := { tasks := .empty }
      refresh := { pollInterval := .ofSeconds 10, maxWait := .ofSeconds 5 } }

/-- Not all accepted settings make tasks that run. -/
theorem not_forall_runs : ¬ ∀ (setup : Setup) (now : Instant), setup.hasEngine = true →
    setup.settings.check = .ok ⟨⟩ →
    (∀ id entry, setup.settings.scheduler.tasks.get? id = some entry → entry.settings = none) →
    ∃ after,
      registerAll setup now (ofDuties (Duty.standard setup.settings)) (standardNames setup.settings) = (.ok ⟨⟩, after) ∧
        ∀ id duty, after.dutyOf id = .ok duty → after.Runs setup id duty := by
  intro all
  have accepted : hastyRefresh.settings.check = .ok ⟨⟩ :=
    Settings.check_eq_ok_iff.mpr ⟨by decide, by decide, by decide, by decide, fun _ _ found => nomatch found⟩
  obtain ⟨after, registered, runs⟩ := all hastyRefresh default rfl accepted fun _ _ found => nomatch found
  obtain ⟨started, again, known⟩ := exists_started hastyRefresh default (fun _ _ found => nomatch found)
    fun _ _ found => nomatch found
  cases registered.symm.trans again
  have runs := runs "epg_refresh" (.guideRefresh hastyRefresh.settings.refresh) ((known _ _).mpr
    ⟨by simp [Duty.standard], rfl⟩)
  exact absurd runs.checked (by decide)

end Service
end StreamWatch
