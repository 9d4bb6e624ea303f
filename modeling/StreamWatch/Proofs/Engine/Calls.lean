/-
**Many calls of one engine.**

Any number of calls arrive, go on and end beside each other, in any order, and any of them may break off
between two of its actions or while it waits for an answer. Requests to stop come at any time, and what is
around the engine is never the same for long.

* `Move`: what may happen next;
* `Orderly.move`: at most one call has the engine, whatever happens;
* `exclusive`: whoever calls beside it is turned away and unseen, and the next call after it begins anew.
-/

import Mathlib.Logic.Function.Basic
import StreamWatch.Proofs.Engine.Hall

namespace StreamWatch.Engine

open Program

/-- Calls of an engine, by their labels. -/
structure Calls (ι : Type) where
  hall : Hall
  call : ι → Option Call

namespace Calls

variable {ι : Type} {calls next first : Calls ι} {label other : ι} {call : Call} {later : Hall} {holder : Option ι}

/-- Whether the call of a label has the engine. -/
def HasEngine (label : ι) (calls : Calls ι) : Prop := ∃ call, calls.call label = some call ∧ call.HasEngine

/-- Before the first call, when nobody has the engine. -/
def start (engine : EngineCell) (around : Circumstances) (store : Memory) : Calls ι :=
  ⟨{ engine := engine.free, around, store }, fun _ => none⟩

variable [DecidableEq ι]

/-- With the call of a label in another place, over another hall. -/
def put (label : ι) (call : Option Call) (hall : Hall) (calls : Calls ι) : Calls ι :=
  ⟨hall, Function.update calls.call label call⟩

/-- What may happen next. -/
inductive Move (calls : Calls ι) : Calls ι → Prop
  | arrives (label : ι) (settings : ProbingSettings) (size : UInt32) (only : Option (List Int)) (skipRefresh : Bool)
      (new : calls.call label = none) :
      Move calls (calls.put label (some (.arriving settings size only skipRefresh)) calls.hall)
  | goesOn (label : ι) {call next : Call} {later : Hall} (known : calls.call label = some call)
      (steps : call.Steps calls.hall next later) :
      Move calls (calls.put label (some next) later)
  /-- a call breaks off; none does between taking the engine and holding it, which is one moment -/
  | breaksOff (label : ι) {call : Call} (known : calls.call label = some call) (settled : ¬ call.IsTaking) :
      Move calls (calls.put label (some call.broken) calls.hall)
  | leaves (label : ι) {call : Call} (known : calls.call label = some call) (isOver : call.IsOver)
      (freed : call.beside.held = []) : Move calls (calls.put label none calls.hall)
  | asks : Move calls { calls with hall := calls.hall.cancel }
  | changes {hall : Hall} (spares : calls.hall.Spares hall) : Move calls { calls with hall }

/-- What may have become of calls after some time. -/
abbrev Reaches : Calls ι → Calls ι → Prop := Relation.ReflTransGen Move

/-! ### Who has the engine -/

/-- Whether all calls stand where they may, and it is the holder alone, if there is one, who has the engine. -/
structure Orderly (holder : Option ι) (calls : Calls ι) : Prop where
  stands : ∀ label call, calls.call label = some call → call.Stands calls.hall
  holds : ∀ label, calls.HasEngine label ↔ holder = some label
  probing : calls.hall.engine.isProbing = holder.isSome

omit [DecidableEq ι] in
theorem hasEngine_iff (known : calls.call label = some call) : calls.HasEngine label ↔ call.HasEngine := by
  constructor
  · rintro ⟨call, same, has⟩
    cases known.symm.trans same
    exact has
  · exact fun has => ⟨call, known, has⟩

theorem call_put {place : Option Call} : (calls.put label place later).call label = place := Function.update_self ..

theorem call_put_of_ne {place : Option Call} (differ : other ≠ label) :
    (calls.put label place later).call other = calls.call other := Function.update_of_ne differ ..

theorem hasEngine_put : (calls.put label (some call) later).HasEngine label ↔ call.HasEngine :=
  hasEngine_iff call_put

theorem hasEngine_put_of_ne {place : Option Call} (differ : other ≠ label) :
    (calls.put label place later).HasEngine other ↔ calls.HasEngine other := by
  unfold HasEngine
  rw [call_put_of_ne differ]

theorem not_hasEngine_put_none : ¬ (calls.put label none later).HasEngine label := by
  rintro ⟨call, known, -⟩
  cases call_put.symm.trans known

namespace Orderly

/-- A call that has nothing to do with who has the engine is in another place. -/
theorem putAside (orderly : Orderly holder calls) {place : Option Call}
    (stands : ∀ call, place = some call → call.Stands calls.hall)
    (same : (calls.put label place calls.hall).HasEngine label ↔ calls.HasEngine label) :
    Orderly holder (calls.put label place calls.hall) where
  stands other call known := by
    by_cases own : other = label
    · subst own
      exact stands call (call_put.symm.trans known)
    · exact orderly.stands other call ((call_put_of_ne own).symm.trans known)
  holds other := by
    by_cases own : other = label
    · subst own
      exact same.trans (orderly.holds other)
    · exact (hasEngine_put_of_ne own).trans (orderly.holds other)
  probing := orderly.probing

/-- A call that has the engine, or takes it while nobody has it, goes on. Nobody else has anything to do with
that. -/
theorem putHolding (orderly : Orderly holder calls) {next : Call} (stands : next.Stands later)
    (nobody : ∀ other, other ≠ label → holder ≠ some other) {then_ : Option ι}
    (alone : ∀ other, other ≠ label → then_ ≠ some other) (same : next.HasEngine ↔ then_ = some label)
    (probing : later.engine.isProbing = then_.isSome) :
    Orderly then_ (calls.put label (some next) later) where
  stands other call known := by
    by_cases own : other = label
    · subst own
      cases call_put.symm.trans known
      exact stands
    · have there : calls.call other = some call := (call_put_of_ne own).symm.trans known
      refine (orderly.stands other call there).elsewhere fun has => nobody other own ?_
      exact (orderly.holds other).mp ⟨call, there, has⟩
  holds other := by
    by_cases own : other = label
    · subst own
      exact hasEngine_put.trans same
    · rw [hasEngine_put_of_ne own, orderly.holds other]
      exact iff_of_false (nobody other own) (alone other own)
  probing := probing

theorem goesOn (orderly : Orderly holder calls) {next : Call} (known : calls.call label = some call)
    (steps : call.Steps calls.hall next later) :
    ∃ holder, Orderly holder (calls.put label (some next) later) := by
  obtain ⟨stands, effect⟩ := (orderly.stands label call known).step steps
  have onlyOwn (has : call.HasEngine) : holder = some label := (orderly.holds label).mp ⟨call, known, has⟩
  cases effect with
  | turnedAway busy idle still same =>
    subst same
    refine ⟨holder, orderly.putAside (fun _ same => Option.some.inj same ▸ stands) ?_⟩
    rw [hasEngine_put, hasEngine_iff known]
    exact iff_of_false still idle
  | takes free idle has probing =>
    have nobody : holder = none := Option.not_isSome_iff_eq_none.mp (by rw [← orderly.probing, free]; nofun)
    refine ⟨some label, orderly.putHolding stands (fun _ _ => nobody ▸ nofun) (fun other differ same => ?_)
      (iff_of_true has rfl) probing⟩
    exact differ (Option.some.inj same).symm
  | keeps had has probing =>
    have alone (other : ι) (differ : other ≠ label) : some label ≠ some other :=
      fun same => differ (Option.some.inj same).symm
    exact ⟨some label, orderly.putHolding stands (onlyOwn had ▸ alone) alone (iff_of_true has rfl) probing⟩
  | frees had gone free =>
    refine ⟨none, orderly.putHolding stands (fun other differ same => ?_) (fun _ _ => nofun)
      (iff_of_false gone nofun) free⟩
    exact differ (Option.some.inj ((onlyOwn had).symm.trans same)).symm

omit [DecidableEq ι] in
theorem withHall (orderly : Orderly holder calls)
    (kept : ∀ phase, calls.hall.Knows phase → later.Knows phase)
    (probing : later.engine.isProbing = calls.hall.engine.isProbing) :
    Orderly holder { calls with hall := later } :=
  ⟨fun label call known => (orderly.stands label call known).kept kept, orderly.holds,
    probing.trans orderly.probing⟩

/-- **At most one call has the engine**, whatever happens next. -/
theorem move (orderly : Orderly holder calls) (move : Move calls next) : ∃ holder, Orderly holder next := by
  cases move with
  | arrives label settings size only skipRefresh new =>
    refine ⟨holder, orderly.putAside (fun _ same => Option.some.inj same ▸ .arriving) ?_⟩
    rw [hasEngine_put]
    refine iff_of_false Call.not_hasEngine_arriving ?_
    rintro ⟨call, known, -⟩
    cases new.symm.trans known
  | goesOn label known steps => exact orderly.goesOn known steps
  | breaksOff label known settled =>
    obtain ⟨stands, same⟩ := (orderly.stands label _ known).broken settled
    refine ⟨holder, orderly.putAside (fun _ same => Option.some.inj same ▸ stands) ?_⟩
    rw [hasEngine_put, hasEngine_iff known, same]
  | @leaves label call known isOver freed =>
    refine ⟨holder, orderly.putAside (fun _ same => nomatch same) (iff_of_false not_hasEngine_put_none ?_)⟩
    rw [hasEngine_iff known]
    exact Call.not_hasEngine_of_isOver isOver freed
  | asks => exact ⟨holder, orderly.withHall (fun _ knows => knows.cancel) rfl⟩
  | changes spares => exact ⟨holder, orderly.withHall (fun _ knows => knows.spares spares) (by rw [spares.engine])⟩

end Orderly

omit [DecidableEq ι] in
theorem orderly_start (engine : EngineCell) (around : Circumstances) (store : Memory) :
    Orderly none (start engine around store : Calls ι) where
  stands _ call known := absurd known.symm (Option.some_ne_none call)
  holds _ := iff_of_false (fun ⟨call, known, _⟩ => Option.some_ne_none call known.symm) nofun
  probing := rfl

theorem exists_orderly {engine : EngineCell} {around : Circumstances} {store : Memory}
    (reached : Reaches (start engine around store) calls) : ∃ holder, Orderly holder calls := by
  induction reached with
  | refl => exact ⟨none, orderly_start engine around store⟩
  | tail _ move ih => exact ih.elim fun _ orderly => orderly.move move

omit [DecidableEq ι] in
theorem Orderly.isProbing_iff (orderly : Orderly holder calls) :
    calls.hall.engine.isProbing = true ↔ ∃ label, calls.HasEngine label := by
  rw [orderly.probing, Option.isSome_iff_exists]
  exact exists_congr fun label => (orderly.holds label).symm

/-! ### What calls see of each other -/

/-- Whether calls of an engine are kept apart. -/
structure Exclusive (calls : Calls ι) : Prop where
  one : ∀ label other, calls.HasEngine label → calls.HasEngine other → label = other
  marked : calls.hall.engine.isProbing = true ↔ ∃ label, calls.HasEngine label
  /-- who arrives while another call has the engine is told so in its first step, which is its last one, asks
  nothing and changes nothing -/
  rejects : ∀ label other settings size only skipRefresh,
    calls.call label = some (.arriving settings size only skipRefresh) → calls.HasEngine other →
      ∀ next later, (Call.arriving settings size only skipRefresh).Steps calls.hall next later ↔
        next = .turnedAway ∧ later = calls.hall
  /-- who arrives while nobody has it takes it in its first step, and no request to stop from before counts -/
  accepts : ∀ label settings size only skipRefresh,
    calls.call label = some (.arriving settings size only skipRefresh) → (∀ other, ¬ calls.HasEngine other) →
      (∃ next later, (Call.arriving settings size only skipRefresh).Steps calls.hall next later) ∧
        ∀ next later, (Call.arriving settings size only skipRefresh).Steps calls.hall next later →
          (calls.put label (some next) later).HasEngine label ∧ later.isStopped = false
  /-- a call that waits for an answer has the engine, which is asked to stop only if that was asked since it was
  taken; and while the call waits for the remote nothing is counted -/
  begins : ∀ label ask course next isAsleep beside,
    calls.call label = some (.waiting ask course next isAsleep beside) → calls.HasEngine label ∧
      (calls.hall.engine.isCancelled = true → calls.hall.isStopped = true) ∧
      ∀ call, ask = .remote call → calls.hall.engine.progress.IsZero
  /-- a call that has come to a result does not have the engine any more -/
  returns : ∀ label reply beside, calls.call label = some (.awake (.done reply) beside) → ¬ calls.HasEngine label
  /-- one that has broken off with the engine gives it back in its next step, and then nobody has it -/
  frees : ∀ label beside, calls.call label = some (.awake .breakOff beside) → calls.HasEngine label →
    (∃ next later, Call.Steps (.awake .breakOff beside) calls.hall next later) ∧
      ∀ next later, Call.Steps (.awake .breakOff beside) calls.hall next later →
        ∀ other, ¬ (calls.put label (some next) later).HasEngine other

/-- **Only one call has the engine**, whoever is turned away is unseen, and the next call begins anew. -/
theorem exclusive {engine : EngineCell} {around : Circumstances} {store : Memory}
    (reached : Reaches (start engine around store) calls) : Exclusive calls := by
  obtain ⟨holder, orderly⟩ := exists_orderly reached
  have one (label other : ι) (has : calls.HasEngine label) (hasToo : calls.HasEngine other) : label = other :=
    Option.some.inj (((orderly.holds label).mp has).symm.trans ((orderly.holds other).mp hasToo))
  refine ⟨one, orderly.isProbing_iff, ?_, ?_, ?_, ?_, ?_⟩
  · intro label other settings size only skipRefresh known has next later
    have busy := orderly.isProbing_iff.mpr ⟨other, has⟩
    rw [Call.step_arriving_iff, if_pos busy, Call.put_take_of_isProbing busy]
  · intro label settings size only skipRefresh known nobody
    have free : ¬ calls.hall.engine.isProbing = true := fun busy => (orderly.isProbing_iff.mp busy).elim nobody
    refine ⟨⟨_, _, Call.step_arriving_iff.mpr ⟨rfl, rfl⟩⟩, fun next later steps => ?_⟩
    obtain ⟨rfl, rfl⟩ := Call.step_arriving_iff.mp steps
    rw [if_neg free]
    refine ⟨hasEngine_put.mpr (.inl trivial), ?_⟩
    show (calls.hall.isStopped && calls.hall.engine.isProbing) = false
    rw [(Bool.not_eq_true _).mp free, Bool.and_false]
  · intro label ask course next isAsleep beside known
    cases orderly.stands label _ known with
    | waits knows permits =>
      refine ⟨(hasEngine_iff known).mpr (.inr (List.cons_ne_nil _ _)), knows.2.1 permits.ne_taken, ?_⟩
      rintro call rfl
      exact knows.2.2 permits
  · intro label reply beside known has
    rcases (orderly.stands label _ known).over trivial with gone | same
    · exact gone ((hasEngine_iff known).mp has)
    · cases same
  · intro label beside known has
    rcases (orderly.stands label _ known).over trivial with gone | same
    · exact absurd ((hasEngine_iff known).mp has) gone
    · cases same
      refine ⟨⟨_, _, .release trivial⟩, fun next later steps other => ?_⟩
      cases steps with
      | release =>
        by_cases own : other = label
        · subst own
          rw [hasEngine_put]
          exact Call.not_hasEngine_of_isOver trivial rfl
        · rw [hasEngine_put_of_ne own]
          exact fun hasToo => own (one other label hasToo has)

/-! ### Two calls -/

/-- A remote that cannot be reached. -/
def unreachable : Circumstances where
  pages _ := .error .transport
  byIds _ := .error .transport
  verdict _ := ⟨.ok {}, .ok false, none⟩

/-- Before any call of an engine that nobody has asked anything yet. -/
def atRest : Calls Bool := start {} unreachable SortedMap.empty

/-- The second of two calls arrives when the first one has taken its first step. -/
theorem exists_busy : ∃ calls, Reaches atRest calls ∧ calls.HasEngine true ∧
    calls.call false = some (.arriving {} 50 none true) := by
  have steps : (Call.arriving {} 50 none true).Steps atRest.hall (.taking {} 50 none true)
      (atRest.hall.put atRest.hall.engine.take) := Call.step_arriving_iff.mpr ⟨rfl, rfl⟩
  refine ⟨_, .head (.arrives true {} 50 none true rfl) (.head (.goesOn true call_put steps)
    (.single (.arrives false {} 50 none true ?_))), ?_, call_put⟩
  · rw [call_put_of_ne (by decide), call_put_of_ne (by decide)]
    rfl
  · rw [hasEngine_put_of_ne (by decide), hasEngine_put]
    exact .inl trivial

/-- It is turned away. -/
theorem exclusive_busy : ∃ calls, Reaches atRest calls ∧ calls.HasEngine true ∧
    ∀ next later, (Call.arriving {} 50 none true).Steps calls.hall next later ↔
      next = .turnedAway ∧ later = calls.hall := by
  obtain ⟨calls, reached, has, known⟩ := exists_busy
  exact ⟨calls, reached, has, (exclusive reached).rejects false true {} 50 none true known has⟩

end Calls
end StreamWatch.Engine
