/-
**Which faults executions are reported with.**

A report names at most one fault. That the settings will not do is reported by a refresh of guide sources alone, and by
every one whose settings will not do.

* `TaskReport.Blames`: whether a report names a fault, with a lemma for each way reports are made;
* `returns_fulfil`: what a duty that can be fulfilled never blames;
* `blames_fulfil`: what a refresh that cannot always blames.
-/

import StreamWatch.Proofs.Program.Returns
import StreamWatch.Service.Execution

namespace StreamWatch

open Program

/-! ### Reports -/

namespace TaskReport

/-- Whether a report names a fault. -/
def Blames (fault : TaskFault) (report : TaskReport) : Prop := report.error = some fault.code

variable {fault other : TaskFault} {report : TaskReport}

theorem blames_fatal_iff {message : String} : (fatal fault message).Blames other ↔ fault = other := by
  rw [Blames, fatal, Option.some.injEq]
  cases fault <;> cases other <;> decide

theorem blames_withDetail_iff {name : String} {value : Json} :
    (report.withDetail name value).Blames fault ↔ report.Blames fault := Iff.rfl

theorem blames_withErrors_iff {errors : List String} :
    (report.withErrors errors).Blames fault ↔ report.Blames fault := by
  rw [withErrors]
  split
  · rfl
  · exact blames_withDetail_iff

theorem not_blames_cancelled (p : Progress) (message : String) : ¬ (cancelled p message).Blames .invalidSettings := by
  intro blames
  exact absurd (Option.some.inj blames) (by decide)

theorem not_blames_ofProgress (p : Progress) (message : String) : ¬ (ofProgress p message).Blames .invalidSettings := by
  intro blames
  rw [Blames, ofProgress] at blames
  cases success : isSuccessOf p <;> rw [success] at blames
  · exact absurd (Option.some.inj blames) (by decide)
  · cases blames

end TaskReport

/-! ### Executions -/

variable {σ : Type} {seen : σ → Prop}

/-- Whether no report that a program ends with says that the settings will not do. -/
abbrev Unblaming (seen : σ → Prop) (program : Work σ TaskReport) : Prop :=
  program.Returns seen fun report => ¬ report.Blames .invalidSettings

open TaskReport

theorem unblaming_fatal {fault : TaskFault} (other : fault ≠ .invalidSettings) (message : String) :
    Unblaming seen (pure (fatal fault message)) :=
  returns_done fun blames => other (blames_fatal_iff.mp blames)

namespace Cleanup

variable {seen : TaskCell → Prop}

theorem unblaming_idle (message : String) : Unblaming seen (idle message) := by
  refine returns_after _ fun _ => returns_after _ fun p => ?_
  exact returns_done (not_blames_ofProgress p message)

theorem unblaming_runStruck (pageSize : UInt32) (struck : List Int) : Unblaming seen (runStruck pageSize struck) := by
  refine returns_after _ fun _ => returns_after _ fun reply => ?_
  cases reply with
  | error error => exact unblaming_fatal (by decide) _
  | ok channels =>
    refine returns_after _ fun _ => returns_after _ fun outcome => returns_after _ fun log => ?_
    cases outcome with
    | mk isStopped earlier =>
      cases isStopped with
      | true =>
        refine returns_after _ fun p => returns_done ?_
        rw [blames_withErrors_iff, blames_withDetail_iff]
        exact not_blames_cancelled p _
      | false =>
        refine returns_after _ fun _ => returns_after _ fun p => returns_done ?_
        rw [blames_withErrors_iff, blames_withDetail_iff, blames_withDetail_iff]
        exact not_blames_ofProgress p _

theorem unblaming_run (settings : CleanupSettings) (pageSize : UInt32) : Unblaming seen (run settings pageSize) := by
  refine returns_after _ fun _ => ?_
  split
  · refine (unblaming_idle _).bind fun report clean => returns_done ?_
    rwa [blames_withDetail_iff]
  · refine returns_after _ fun reply => ?_
    split
    · exact unblaming_fatal (by decide) _
    · exact unblaming_idle _
    · exact unblaming_runStruck _ _

end Cleanup

namespace Batch

theorem unblaming_run {seen : TaskCell → Prop} (settings : BatchSettings) (pace : Duration) :
    Unblaming seen (run settings pace) := by
  refine returns_after _ fun _ => returns_after _ fun _ => returns_after _ fun isStopped => ?_
  cases isStopped with
  | true => exact returns_after _ fun p => returns_done (not_blames_cancelled p _)
  | false => exact returns_after _ fun _ => returns_after _ fun p => returns_done (not_blames_ofProgress p _)

end Batch

namespace ProbeTask

variable {seen : ProbeTask → Prop}

theorem not_blames_report (summary : RunSummary) : ¬ (report summary).Blames .invalidSettings := by
  rw [report, blames_withErrors_iff, blames_withDetail_iff, blames_withDetail_iff]
  split
  · exact not_blames_cancelled _ _
  · exact not_blames_ofProgress _ _

theorem unblaming_drive (settings : ProbingSettings) (pageSize : UInt32) (only : Option (List Int))
    (skipRefresh : Bool) : Unblaming seen (drive settings pageSize only skipRefresh) := by
  refine returns_after _ fun _ => returns_after _ fun _ => returns_after _ fun _ => returns_after _ fun outcome =>
    returns_after _ fun _ => ?_
  have told {made : TaskReport} (clean : ¬ made.Blames .invalidSettings) :
      Unblaming seen (lettingGo >>= fun _ => pure made) := returns_after _ fun _ => returns_done clean
  cases outcome with
  | ok summary => exact returns_after _ fun _ => told (not_blames_report summary)
  | error fault =>
    cases fault with
    | alreadyRunning => exact told fun blames => absurd (blames_fatal_iff.mp blames) (by decide)
    | fetch error => exact told fun blames => absurd (blames_fatal_iff.mp blames) (by decide)

theorem unblaming_withoutEngine : Unblaming seen (pure withoutEngine) := unblaming_fatal (by decide) _

theorem unblaming_probeAll (hasEngine : Bool) (probing : ProbingSettings) (pageSize : UInt32)
    (settings : ProbeAllSettings) : Unblaming seen (probeAll hasEngine probing pageSize settings) := by
  refine returns_after _ fun _ => ?_
  split
  · exact unblaming_drive _ _ _ _
  · exact unblaming_withoutEngine

theorem unblaming_reprobeFailed (hasEngine : Bool) (probing : ProbingSettings) (pageSize : UInt32) :
    Unblaming seen (reprobeFailed hasEngine probing pageSize) := by
  refine returns_after _ fun _ => ?_
  split
  · exact unblaming_withoutEngine
  · refine returns_after _ fun reply => ?_
    split
    · exact unblaming_fatal (by decide) _
    · exact returns_after _ fun _ => returns_done (not_blames_ofProgress _ _)
    · exact unblaming_drive _ _ _ _

end ProbeTask

namespace GuideRefresh

variable {seen : TaskCell → Prop} {settings : RefreshSettings}

/-- A refresh whose settings will do never says that they will not. -/
theorem unblaming_run (fits : settings.check = .ok ⟨⟩) : Unblaming seen (run settings) := by
  refine returns_after _ fun _ => ?_
  rw [fits]
  refine returns_after _ fun reply => ?_
  split
  · exact unblaming_fatal (by decide) _
  · refine returns_after _ fun _ => returns_after _ fun outcome => ?_
    cases outcome with
    | mk isStopped log =>
      cases isStopped with
      | true =>
        refine returns_after _ fun p => returns_done ?_
        rw [blames_withErrors_iff]
        exact not_blames_cancelled p _
      | false =>
        refine returns_after _ fun _ => returns_after _ fun p => returns_done ?_
        rw [blames_withErrors_iff, blames_withDetail_iff]
        exact not_blames_ofProgress p _

/-- A refresh whose settings will not do says so. -/
theorem blames_run {message : String} (unfit : settings.check = .error message) :
    (run settings).Returns seen fun report => report.Blames .invalidSettings := by
  refine returns_after _ fun _ => ?_
  rw [unfit]
  exact returns_done (blames_fatal_iff.mpr rfl)

end GuideRefresh

namespace Service

variable {seen : Service → Prop} (setup : Setup) (id : String)

/-- **A duty that can be fulfilled** is never reported to have settings that will not do. -/
theorem unblaming_fulfil {duty : Duty} (fits : duty.check setup.hasEngine = .ok ⟨⟩) :
    Unblaming seen (fulfil setup id duty) := by
  have within {part : Type} {get : Service → part} {put : part → Service → Service} {program : Work part TaskReport}
      (clean : Unblaming (fun _ => True) program) : Unblaming seen (program.zoom get put) :=
    clean.zoom fun _ _ => trivial
  cases duty with
  | probeAll settings => exact within (ProbeTask.unblaming_probeAll _ _ _ _)
  | reprobeFailed => exact within (ProbeTask.unblaming_reprobeFailed _ _ _)
  | cleanup settings => exact within (Cleanup.unblaming_run _ _)
  | guideRefresh settings => exact within (GuideRefresh.unblaming_run fits)
  | batch name pace settings => exact within (Batch.unblaming_run _ _)

/-- **A refresh that cannot be fulfilled** is always reported so. -/
theorem blames_fulfil {settings : RefreshSettings} {message : String} (unfit : settings.check = .error message) :
    (fulfil setup id (.guideRefresh settings)).Returns seen fun report => report.Blames .invalidSettings :=
  have blames : (GuideRefresh.run settings).Returns (fun _ => True) fun report => report.Blames .invalidSettings :=
    GuideRefresh.blames_run unfit
  blames.zoom fun _ _ => trivial

/-- **An execution is reported as its duty is fulfilled**, with the settings that its task has when it begins. -/
theorem returns_execute {ends : TaskReport → Prop}
    (fulfils : ∀ service task, seen service → service.tasks.get? id = some task →
      (fulfil setup id task.duty).Returns seen ends) :
    (execute setup id).Returns seen fun result => ends result.toTaskReport := by
  refine returns_after _ fun startedAt => ?_
  have looks : (look fun service : Service => service.tasks.get? id : Work Service (Option Task)).Returns seen
      fun found => ∃ service, seen service ∧ service.tasks.get? id = found :=
    returns_look _ fun service held => ⟨service, held, rfl⟩
  refine looks.bind fun found known => ?_
  obtain ⟨service, held, known⟩ := known
  cases found with
  | none => trivial
  | some task =>
    refine (fulfils service task held known).bind fun report told => returns_after _ fun completedAt => ?_
    exact returns_done told

end Service
end StreamWatch
