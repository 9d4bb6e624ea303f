/-
**A refused change of settings leaves no trace.**

A change can be refused at three points: it is no change that the task can read, the task knows at once that it
cannot work so, or what it comes to is found wanting when it is already in place. In the last case the document
value of the settings before is laid over what is in place. Since settings are written and read slot by slot, that
brings back exactly what was there.

* `Describes.merge_written`: settings written and laid over others come back;
* `Revision`: what a change makes of the duties that the service comes with;
* `restored_eq`: what is put back is what was there;
* `changeSettings_settles`: after any changes, the next one is either carried out or leaves no trace.
-/

import StreamWatch.Proofs.Settings.Change
import StreamWatch.Service.Control

namespace StreamWatch

open Json

/-! ### Settings laid over others -/

/-- **Settings that are written and laid over others come back**, since what is written has a member for every slot. -/
theorem Describes.merge_written {α : Type} {slots : List (Slot α)} {encode : α → Json} {decode : Decoder α}
    (describes : Describes slots encode decode) (before other : α) :
    mergeSettings encode decode other (encode before) = .ok before := by
  obtain ⟨written, encoded, held⟩ := describes.writes before
  rw [encoded]
  refine describes.merge_eq_ok_iff.mpr fun slot member => ?_
  obtain ⟨value, found, read⟩ := held slot member
  rw [Slot.Follows, found]
  exact read

/-! ### Duties -/

namespace Duty

/-- Whether a duty is one of those that the service comes with. -/
def IsStandard (duty : Duty) : Prop := ∀ id pace settings, duty ≠ batch id pace settings

/-- **What a change makes of a duty** that the service comes with: its settings with the change laid over them. There
are no settings to the probing of failed streams, so a change of them names nothing. -/
inductive Revision (change : Json) : Duty → Duty → Prop where
  | probeAll {before after : ProbeAllSettings}
      (merged : mergeSettings ProbeAllSettings.toJson ProbeAllSettings.decode before change = .ok after) :
      Revision change (probeAll before) (probeAll after)
  | reprobeFailed (nothing : change = .object []) : Revision change reprobeFailed reprobeFailed
  | cleanup {before after : CleanupSettings}
      (merged : mergeSettings CleanupSettings.toJson CleanupSettings.decode before change = .ok after) :
      Revision change (cleanup before) (cleanup after)
  | guideRefresh {before after : RefreshSettings}
      (merged : mergeSettings RefreshSettings.toJson RefreshSettings.decode before change = .ok after) :
      Revision change (guideRefresh before) (guideRefresh after)

variable {change : Json} {before after : Duty}

theorem Revision.isStandard (revised : Revision change before after) : after.IsStandard := by
  intro id pace settings same
  cases revised <;> cases same

/-- Changed settings of a refresh are the merged ones, and a refresh can finish under them. -/
theorem changeRefresh_eq_ok_iff {settings changed : RefreshSettings} :
    changeRefresh settings change = .ok changed ↔
      mergeSettings RefreshSettings.toJson RefreshSettings.decode settings change = .ok changed ∧
        changed.check = .ok ⟨⟩ := by
  rw [changeRefresh, looked_over_eq_ok_iff, mapError_eq_ok_iff]

theorem changeNothing_eq_ok_iff : changeNothing change = .ok ⟨⟩ ↔ change = .object [] := by
  unfold changeNothing
  split <;> simp_all

/-- **A change is accepted** when it can be laid over the settings and, where the task looks at them at once, they will
do. -/
theorem change_eq_ok_iff (standard : before.IsStandard) :
    before.change change = .ok after ↔
      Revision change before after ∧ ∀ settings, after = guideRefresh settings → settings.check = .ok ⟨⟩ := by
  constructor
  · intro accepted
    cases before with
    | probeAll settings =>
      obtain ⟨changed, merged, rfl⟩ := map_eq_ok_iff.mp accepted
      exact ⟨.probeAll (mapError_eq_ok_iff.mp merged), fun _ same => nomatch same⟩
    | reprobeFailed =>
      obtain ⟨⟨⟩, nothing, rfl⟩ := map_eq_ok_iff.mp accepted
      exact ⟨.reprobeFailed (changeNothing_eq_ok_iff.mp nothing), fun _ same => nomatch same⟩
    | cleanup settings =>
      obtain ⟨changed, merged, rfl⟩ := map_eq_ok_iff.mp accepted
      exact ⟨.cleanup (mapError_eq_ok_iff.mp merged), fun _ same => nomatch same⟩
    | guideRefresh settings =>
      obtain ⟨changed, merged, rfl⟩ := map_eq_ok_iff.mp accepted
      obtain ⟨merged, checked⟩ := changeRefresh_eq_ok_iff.mp merged
      refine ⟨.guideRefresh merged, ?_⟩
      rintro _ ⟨⟩
      exact checked
    | batch id pace settings => exact absurd rfl (standard id pace settings)
  · rintro ⟨revised, checked⟩
    cases revised with
    | probeAll merged => exact map_eq_ok_iff.mpr ⟨_, mapError_eq_ok_iff.mpr merged, rfl⟩
    | reprobeFailed nothing => exact map_eq_ok_iff.mpr ⟨⟨⟩, changeNothing_eq_ok_iff.mpr nothing, rfl⟩
    | cleanup merged => exact map_eq_ok_iff.mpr ⟨_, mapError_eq_ok_iff.mpr merged, rfl⟩
    | guideRefresh merged =>
      exact map_eq_ok_iff.mpr ⟨_, changeRefresh_eq_ok_iff.mpr ⟨merged, checked _ rfl⟩, rfl⟩

/-- The settings before, laid over changed ones as the document value they are written as, are the settings before. A
refresh would have to be looked over once more, but is never found wanting when its settings are in place. -/
theorem change_settingsJson (revised : Revision change before after)
    (other : ∀ settings, after ≠ guideRefresh settings) : after.change before.settingsJson = .ok before := by
  cases revised with
  | @probeAll before after merged =>
    rw [Duty.change, settingsJson, ProbeAllSettings.describes.merge_written before after]
    rfl
  | reprobeFailed nothing => rfl
  | @cleanup before after merged =>
    rw [Duty.change, settingsJson, CleanupSettings.describes.merge_written before after]
    rfl
  | guideRefresh merged => exact absurd rfl (other _)

end Duty

/-! ### The service -/

namespace Service

variable {setup : Setup} {service : Service} {id : String} {change : Json} {before changed : Duty}

/-- **What is put back is what was there** before a change with whose outcome the task cannot work. -/
theorem restored_eq (standard : before.IsStandard) (accepted : before.change change = .ok changed) {hasEngine : Bool}
    {message : String} (wanting : changed.check hasEngine = .error message) : restored before changed = before := by
  obtain ⟨revised, checked⟩ := (Duty.change_eq_ok_iff standard).mp accepted
  have other : ∀ settings, changed ≠ .guideRefresh settings := by
    rintro settings rfl
    exact absurd ((checked settings rfl).symm.trans wanting) (by simp)
  rw [restored, Duty.change_settingsJson revised other]
  rfl

theorem dutyOf_eq_ok_iff {duty : Duty} : service.dutyOf id = .ok duty ↔
    (∃ entry, service.scheduler.entry id = .ok entry) ∧ ∃ task, service.tasks.get? id = some task ∧ task.duty = duty := by
  unfold dutyOf
  cases service.scheduler.entry id with
  | error error => simp [bind, Except.bind]
  | ok entry => cases service.tasks.get? id <;> simp [bind, Except.bind, pure, Except.pure, throw, throwThe, MonadExceptOf.throw]

/-- A duty written where it is already changes nothing. -/
theorem putDuty_self (held : service.dutyOf id = .ok before) : service.putDuty id before = service := by
  obtain ⟨-, task, found, rfl⟩ := dutyOf_eq_ok_iff.mp held
  have same : service.tasks.modify id (fun other => { other with duty := task.duty }) = service.tasks := by
    refine SortedMap.ext_get? fun key => ?_
    rw [SortedMap.get?_modify]
    by_cases here : key = id
    · subst here
      rw [found]
      simp
    · simp [here]
  rw [putDuty, same]

theorem dutyOf_putDuty_self (held : service.dutyOf id = .ok before) (duty : Duty) :
    (service.putDuty id duty).dutyOf id = .ok duty := by
  obtain ⟨known, task, found, -⟩ := dutyOf_eq_ok_iff.mp held
  refine dutyOf_eq_ok_iff.mpr ⟨known, { task with duty }, ?_, rfl⟩
  show (service.tasks.modify id _).get? id = _
  rw [SortedMap.get?_modify, found]
  simp

theorem dutyOf_putDuty_of_ne {other : String} (differ : other ≠ id) (duty : Duty) :
    (service.putDuty id duty).dutyOf other = service.dutyOf other := by
  have same : (service.putDuty id duty).tasks.get? other = service.tasks.get? other := by
    show (service.tasks.modify id _).get? other = _
    rw [SortedMap.get?_modify]
    simp [differ]
  unfold dutyOf
  rw [same]
  rfl

/-- The settings of a registered task, as they are told. -/
def settingsOf (id : String) (service : Service) : Except SchedulingError Json :=
  (service.dutyOf id).map Duty.settingsJson

/-! ### Services with the tasks they come with -/

/-- Whether all tasks of a service are among those it comes with. -/
def HoldsStandard (service : Service) : Prop :=
  ∀ id task, service.tasks.get? id = some task → task.duty.IsStandard

theorem holdsStandard_ofDuties (settings : Settings) : (ofDuties (Duty.standard settings)).HoldsStandard := by
  intro id task found
  change (SortedMap.ofList _).get? id = some task at found
  rw [SortedMap.get?_ofList (by simp [Duty.standard, Duty.id])] at found
  simp only [Duty.standard, Duty.id, List.map_cons, List.map_nil, List.reverse_cons,
    List.reverse_nil, List.nil_append, List.cons_append, SortedMap.find?] at found
  intro name pace settings same
  repeat' split at found
  all_goals cases found <;> cases same

theorem holdsStandard_putDuty (holds : service.HoldsStandard) (id : String) {duty : Duty}
    (standard : duty.IsStandard) :
    (service.putDuty id duty).HoldsStandard := by
  intro other task found
  change (service.tasks.modify id _).get? other = some task at found
  rw [SortedMap.get?_modify] at found
  obtain ⟨before, there, rfl⟩ := Option.map_eq_some_iff.mp found
  by_cases here : other = id
  · simpa only [here, if_true] using standard
  · simpa only [here, if_false] using holds other before there

theorem holdsStandard_register (holds : service.HoldsStandard) {now : Instant} {timing : Timing} {isEnabled : Bool}
    {after : Service} (registered : service.register now id timing isEnabled = .ok after) : after.HoldsStandard := by
  obtain ⟨scheduler, -, rfl⟩ := map_eq_ok_iff.mp registered
  exact holds

theorem holdsStandard_registerAsSet (setup : Setup) (holds : service.HoldsStandard) (now : Instant) (id : String) :
    (service.registerAsSet setup now id).2.HoldsStandard := by
  unfold registerAsSet
  dsimp only
  split
  · next duty _ found =>
    obtain ⟨task, there, rfl⟩ := Option.map_eq_some_iff.mp found
    split
    · next changed accepted =>
      have revised := ((Duty.change_eq_ok_iff (holds id task there)).mp accepted).1
      have written := holdsStandard_putDuty holds id revised.isStandard
      split
      · next registered => exact holdsStandard_register written registered
      · exact written
    · exact holds
  all_goals
    split
    · next registered => exact holdsStandard_register holds registered
    · exact holds

/-- Registering tasks as the settings of the service say makes no others of them. -/
theorem holdsStandard_registerAll (holds : service.HoldsStandard) (now : Instant) (ids : List String) :
    (registerAll setup now service ids).2.HoldsStandard := by
  induction ids generalizing service with
  | nil => exact holds
  | cons id rest ih =>
    have next := holdsStandard_registerAsSet setup holds now id
    rw [registerAll]
    cases registered : service.registerAsSet setup now id with
    | mk result after =>
      rw [registered] at next
      cases result with
      | ok _ => exact ih next
      | error error => exact next

/-! ### Changes of settings -/

/-- Whether a change would give a task settings that it can work with. -/
def Welcomes (setup : Setup) (service : Service) (id : String) (change : Json) (after : Duty) : Prop :=
  ∃ before, service.dutyOf id = .ok before ∧ Duty.Revision change before after ∧
    after.check setup.hasEngine = .ok ⟨⟩

/-- **What becomes of a change of settings.** It is carried out: the settings of the task are those before with the
change laid over them, the task can work with them, and no other task has changed. Or it is refused for good reason,
and nothing has changed at all. -/
inductive Settled (setup : Setup) (service : Service) (id : String) (change : Json) :
    Except SchedulingError Unit × Service → Prop where
  | accepted {after : Duty} {later : Service} (welcome : service.Welcomes setup id change after)
      (written : later = service.putDuty id after) (kept : later.dutyOf id = .ok after)
      (others : ∀ other, other ≠ id → later.dutyOf other = service.dutyOf other) :
      Settled setup service id change (.ok ⟨⟩, later)
  | refused {error : SchedulingError} {later : Service} (unwelcome : ∀ after, ¬ service.Welcomes setup id change after)
      (untouched : later = service) (told : ∀ other, later.settingsOf other = service.settingsOf other) :
      Settled setup service id change (.error error, later)

/-- A change that comes to nothing. -/
theorem settled_refused {error : SchedulingError} {later : Service}
    (unwelcome : ∀ after, ¬ service.Welcomes setup id change after) (untouched : later = service) :
    Settled setup service id change (.error error, later) :=
  .refused unwelcome untouched fun other => congrArg (settingsOf other) untouched

/-- A change that cannot be laid over the settings is not welcome, nor is one with whose outcome the task cannot
work. -/
theorem not_welcomes (held : service.dutyOf id = .ok before) (standard : before.IsStandard)
    (wanting : ∀ changed, before.change change = .ok changed → changed.check setup.hasEngine ≠ .ok ⟨⟩)
    (after : Duty) : ¬ service.Welcomes setup id change after := by
  rintro ⟨other, again, revised, checked⟩
  cases held.symm.trans again
  refine wanting after ((Duty.change_eq_ok_iff standard).mpr ⟨revised, fun settings same => ?_⟩) checked
  rwa [same] at checked

/-- **A change is carried out or leaves no trace.** -/
theorem settled_changeSettings (setup : Setup) (holds : service.HoldsStandard) (id : String) (change : Json) :
    Settled setup service id change (service.changeSettings setup id change) := by
  unfold changeSettings
  cases held : service.dutyOf id with
  | error error =>
    refine settled_refused ?_ rfl
    rintro after ⟨before, found, -⟩
    cases held.symm.trans found
  | ok before =>
    obtain ⟨-, task, found, rfl⟩ := dutyOf_eq_ok_iff.mp held
    have standard := holds id task found
    simp only
    cases accepted : task.duty.change change with
    | error message =>
      refine settled_refused (not_welcomes held standard fun changed taken => ?_) rfl
      cases accepted.symm.trans taken
    | ok changed =>
      obtain ⟨revised, -⟩ := (Duty.change_eq_ok_iff standard).mp accepted
      simp only
      cases checked : changed.check setup.hasEngine with
      | ok _ =>
        exact .accepted ⟨task.duty, held, revised, checked⟩ rfl (dutyOf_putDuty_self held changed)
          fun other differ => dutyOf_putDuty_of_ne differ changed
      | error message =>
        refine settled_refused (not_welcomes held standard fun other taken fine => ?_) ?_
        · cases accepted.symm.trans taken
          cases checked.symm.trans fine
        · rw [restored_eq standard accepted checked]
          exact putDuty_self held

/-- A change of settings makes no other task of one that the service comes with. -/
theorem Settled.holdsStandard {outcome : Except SchedulingError Unit × Service}
    (settled : Settled setup service id change outcome) (holds : service.HoldsStandard) :
    outcome.2.HoldsStandard := by
  cases settled with
  | accepted welcome written kept others =>
    obtain ⟨before, -, revised, -⟩ := welcome
    exact written ▸ holdsStandard_putDuty holds id revised.isStandard
  | refused unwelcome untouched told => exact untouched ▸ holds

/-- The service after some changes of settings, each of them carried out or refused. -/
def afterChanges (setup : Setup) (service : Service) : List (String × Json) → Service
  | [] => service
  | (id, change) :: rest => afterChanges setup (service.changeSettings setup id change).2 rest

theorem holdsStandard_afterChanges (setup : Setup) (holds : service.HoldsStandard) (changes : List (String × Json)) :
    (service.afterChanges setup changes).HoldsStandard := by
  induction changes generalizing service with
  | nil => exact holds
  | cons next rest ih => exact ih ((settled_changeSettings setup holds next.1 next.2).holdsStandard holds)

/-- **A refused change of settings leaves no trace**, whatever was changed before and whatever the change, with an engine
or without one; and one that is not refused does what it says. -/
theorem changeSettings_settles (setup : Setup) (holds : service.HoldsStandard) (earlier : List (String × Json))
    (id : String) (change : Json) :
    Settled setup (service.afterChanges setup earlier) id change
      ((service.afterChanges setup earlier).changeSettings setup id change) :=
  settled_changeSettings setup (holdsStandard_afterChanges setup holds earlier) id change

/-- A service without an engine with the tasks it comes with. -/
def withoutEngine : Service :=
  (registerAll { hasEngine := false } default (ofDuties (Duty.standard {})) ((Duty.standard {}).map Duty.id)).2

/-- In a service without an engine, one task is given other settings, and then another one. -/
theorem withoutEngine_settles :
    withoutEngine.HoldsStandard ∧
    Settled { hasEngine := false }
      (withoutEngine.afterChanges { hasEngine := false } [("epg_refresh", .object [("max_wait", .str "1h")])])
      "stream_probe" (.object [("refresh_accounts", .bool true)])
      ((withoutEngine.afterChanges { hasEngine := false }
        [("epg_refresh", .object [("max_wait", .str "1h")])]).changeSettings { hasEngine := false }
          "stream_probe" (.object [("refresh_accounts", .bool true)])) :=
  have holds : withoutEngine.HoldsStandard := holdsStandard_registerAll (holdsStandard_ofDuties {}) default _
  ⟨holds, changeSettings_settles { hasEngine := false } holds [("epg_refresh", .object [("max_wait", .str "1h")])]
    "stream_probe" (.object [("refresh_accounts", .bool true)])⟩

end Service
end StreamWatch
