/-
**What a probe run works on.**

The site of a run is the cell of its engine and the store of records. An onlooker notes down of which
streams the media tools were asked, and what came of every stream. The circumstances say what the
listing of streams is, what the media tools tell about each of them and what the store does not keep.
Times are any times, everything else the remote says is anything, and requests to stop come at any
moment.

* `answersAbout`, `crew`: how questions about one stream are answered, and the streams of a run as a
  company;
* `surroundings`: how the questions of a whole run are answered;
* `Spares`, `Minds`: what a stream relies on, and what it does;
* `pact`: no stream does what another one relies on not to happen.
-/

import StreamWatch.Engine.Run
import StreamWatch.Proofs.Program.Company
import StreamWatch.Proofs.Remote.Pages
import StreamWatch.Proofs.Store.Times

namespace StreamWatch.Engine

open Program

/-- What the media tools tell about a stream, and why the store does not keep that, if it does not. -/
structure Verdict where
  probe : Except ProbeError Metrics
  sample : Except ProbeError Bool
  fault : Option StoreError

/-- What there is around a run. -/
structure Circumstances where
  /-- the pages of the listing of all streams -/
  pages : Nat → Except RemoteError (Page Stream)
  /-- the streams of some ids -/
  byIds : List Int → Except RemoteError (List Stream)
  /-- what comes of the streams by their places in the listing -/
  verdict : Nat → Verdict

/-- What a run works on, and what was noted down. -/
structure Site where
  cell : EngineCell
  store : Memory
  /-- the places of the streams of which the media tools were asked -/
  probed : List Nat := []
  /-- what came of the streams by their places, in the order in which it came -/
  outcomes : List (Nat × StreamOutcome) := []

namespace Site

/-- The site with the cell of the engine written. -/
def putCell (cell : EngineCell) (site : Site) : Site := { site with cell }

/-- The site after a request to stop. -/
def stop (site : Site) : Site := site.putCell site.cell.cancel

/-- The site after a call to the store. -/
def keep (now : Instant) (call : StoreCall) (site : Site) : Site :=
  { site with store := (site.store.answer now call).2 }

/-- The site with it noted down that the media tools were asked of a stream. -/
def probe (place : Nat) (site : Site) : Site := { site with probed := place :: site.probed }

end Site

/-- A program of the engine, over the site. -/
def onSite {α : Type} (work : Work EngineCell α) : Work Site α := work.zoom (·.cell) Site.putCell

theorem onSite_bind {α β : Type} (first : Work EngineCell α) (next : α → Work EngineCell β) :
    onSite (first >>= next) = onSite first >>= fun value => onSite (next value) :=
  zoom_bind _ _ first next

/-! ### Streams beside each other -/

/-- How a question about a stream may be answered. -/
def answersAbout (verdict : Verdict) (place : Nat) :
    (ask : Ask) → Site → Option ask.Reply → Site → Prop
  | .probe _, site, reply, after => reply = some verdict.probe ∧ after = site.probe place
  | .sample .., site, reply, after => reply = some verdict.sample ∧ after = site
  | .store call, site, reply, after =>
    match verdict.fault with
    | some error => reply = some (.error error) ∧ after = site
    | none => ∃ now, reply = some (site.store.answer now call).1 ∧ after = site.keep now call
  | _, site, reply, after => reply = none ∧ after = site

/-- The store refuses what it does not keep, and answers everything else. -/
theorem store_answered {verdict : Verdict} {place : Nat} {call : StoreCall} {site after : Site}
    {reply : Option call.Reply} (answered : answersAbout verdict place (.store call) site reply after) :
    (∃ error, verdict.fault = some error ∧ reply = some (.error error) ∧ after = site) ∨
      (verdict.fault = none ∧
        ∃ now, reply = some (site.store.answer now call).1 ∧ after = site.keep now call) := by
  unfold answersAbout at answered
  cases fault : verdict.fault with
  | some error =>
    rw [fault] at answered
    exact .inl ⟨error, rfl, answered⟩
  | none =>
    rw [fault] at answered
    exact .inr ⟨rfl, answered⟩

theorem answered_about (verdict : Verdict) (place : Nat) (ask : Ask) (site : Site) :
    ∃ reply after, answersAbout verdict place ask site reply after := by
  cases ask with
  | probe | sample => exact ⟨_, _, rfl, rfl⟩
  | store call =>
    cases fault : verdict.fault with
    | some error => exact ⟨_, _, by simp only [answersAbout, fault]; exact ⟨rfl, rfl⟩⟩
    | none => exact ⟨_, _, by simp only [answersAbout, fault]; exact ⟨default, rfl, rfl⟩⟩
  | remote | sleep | clock | wallClock | probeStreams => exact ⟨_, _, rfl, rfl⟩

/-- What a stream of a run relies on: requests to stop stay, and nobody else has the media tools asked
of it or keeps what comes of it. -/
structure Spares (streams : List Stream) (place : Fin streams.length) (site later : Site) : Prop where
  stopped : site.cell.isCancelled = true → later.cell.isCancelled = true
  probed : place.val ∈ later.probed ↔ place.val ∈ site.probed
  record : (streams.map (·.id)).Nodup →
    later.store.get? (streams.get place).id = site.store.get? (streams.get place).id

/-- What a stream of a run does by itself: it neither asks the run to stop nor takes that back, it
counts what it comes to, and it has to do with nothing of the other streams. -/
structure Minds (streams : List Stream) (place : Fin streams.length) (site later : Site) : Prop where
  stopped : later.cell.isCancelled = site.cell.isCancelled
  total : later.cell.progress.total = site.cell.progress.total
  current : site.cell.progress.current = site.cell.progress.processed →
    later.cell.progress.current = later.cell.progress.processed
  probed : ∀ other, other ≠ place.val → (other ∈ later.probed ↔ other ∈ site.probed)
  record : ∀ id, id ≠ (streams.get place).id → later.store.get? id = site.store.get? id

variable (around : Circumstances)

/-- What there is around the streams of a run. -/
def venue (settings : ProbingSettings) (count : Nat) : Venue (Fin count) Site Ask Ask.Reply where
  limit := settings.concurrency
  answers place := answersAbout (around.verdict place) place
  others site after := after = site.stop

/-- The streams of a run before any of them has had its turn. -/
def crew (settings : ProbingSettings) (streams : List Stream) (site : Site) :
    Company (Fin streams.length) Site Ask Ask.Reply (Int × StreamOutcome) where
  waiting := (List.finRange streams.length).map fun place =>
    (place, onSite (probeStream settings (streams.get place)))
  state := site

/-- No stream does what another one relies on not to happen. -/
theorem pact (settings : ProbingSettings) (streams : List Stream) :
    Company.Pact (venue around settings streams.length) (Spares streams) (Minds streams) where
  others place site after := by
    rintro rfl
    exact ⟨fun _ => rfl, Iff.rfl, fun _ => rfl⟩
  apart place other differ site later minds := by
    refine ⟨fun stopped => minds.stopped.trans stopped, minds.probed _ ?_, fun distinct => minds.record _ ?_⟩
    · exact fun same => differ (Fin.ext same.symm)
    · intro same
      have inside (place : Fin streams.length) : place.val < (streams.map (·.id)).length := by simp
      have ids : (streams.map (·.id)).get ⟨other, inside other⟩ =
          (streams.map (·.id)).get ⟨place, inside place⟩ := by
        simpa using same
      exact differ (Fin.ext (Fin.mk.inj (distinct.get_inj_iff.mp ids)).symm)

/-- How a question of a run may be answered. -/
def answers : (ask : Ask) → Site → Option ask.Reply → Site → Prop
  | .remote (.streams number _), site, reply, after => reply = some (around.pages number) ∧ after = site
  | .remote (.streamsByIds ids), site, reply, after => reply = some (around.byIds ids) ∧ after = site
  | .remote _, site, reply, after => reply.isSome = true ∧ after = site
  | .wallClock, site, reply, after => reply.isSome = true ∧ after = site
  | .probeStreams settings streams, site, reply, after =>
    ∃ last, Company.Reaches (venue around settings streams.length) (crew settings streams site) last ∧
      last.IsOver ∧ reply = some (last.ended.map (·.2)) ∧
      after = { last.state with outcomes := last.ended.map fun result => (result.1.val, result.2.2) }
  | _, site, reply, after => reply = none ∧ after = site

/-- What there is around a run. -/
def surroundings : Surroundings Site Ask Ask.Reply where
  answers := answers around
  others site after := after = site.stop

end StreamWatch.Engine
