/-
**A probe run on behalf of a task, under the eyes of an onlooker.**

Once an answer had to be waited for, what the task watches beside its run has been carried out at least
once, and from then on whatever asks the task to stop has reached the engine. So when a listing had to be
waited for, that is so before the first stream of the run has its turn.

* `Aside`, `Amid`: what happens without a stream having to do with it;
* `Before`, `Underway`: a run that does not have the engine yet, and one that has not got its streams yet;
* `Probing`, `harmony`: a run whose streams are under way;
* `fares_probeStreams`: what its streams come to.
-/

import StreamWatch.Proofs.Task.Desk

namespace StreamWatch.ProbeTask

open Engine Program

namespace Desk

/-- The desk with the engine given back. -/
def freed (desk : Desk) : Desk := desk.putEngine desk.task.engine.free

/-- The desk with the run no longer the task's own. -/
def disowned (desk : Desk) : Desk := desk.putTask desk.task.disown

/-- The desk after what is done beside a run. -/
def followed (desk : Desk) : Desk := desk.putTask desk.task.follow

end Desk

open Desk

/-- The manner in which a task runs. -/
abbrev manner : Manner Desk := { rely := Others }

/-! ### What happens aside from streams -/

/-- What happens aside from streams: none of them has anything to do with it, nor has a listing. -/
structure Aside (desk later : Desk) : Prop where
  log : ∃ more, later.log = desk.log ++ more ∧ ∀ event ∈ more, event.place? = none ∧ event.isListing = false
  store : later.store = desk.store

/-- What happens aside from streams while the run is the task's own. -/
structure Amid (desk later : Desk) : Prop extends Aside desk later where
  owns : later.task.ownsRun = desk.task.ownsRun
  isOurs : later.isOurs = desk.isOurs
  stopped : desk.task.engine.isCancelled = true → later.task.engine.isCancelled = true
  linked : Linked desk → Linked later

section
variable {around : Circumstances} {desk later : Desk}

theorem aside_of_log_eq (log : later.log = desk.log) (store : later.store = desk.store) : Aside desk later :=
  ⟨⟨[], by rw [log, List.append_nil], fun _ among => absurd among List.not_mem_nil⟩, store⟩

theorem Aside.listingWaited (aside : Aside desk later) : listingWaited later.log = listingWaited desk.log := by
  obtain ⟨more, log, unlisted⟩ := aside.log
  have none : ProbeTask.listingWaited more = false := List.any_eq_false.mpr fun event among listing => by
    rw [(unlisted event among).2] at listing
    cases listing
  rw [log, listingWaited_append, none, Bool.or_false]

theorem aside_note {event : Event} (nobody : event.place? = none) (unlisted : event.isListing = false)
    (log : later.log = desk.log ++ [event]) (store : later.store = desk.store) : Aside desk later := by
  refine ⟨⟨[event], log, fun other among => ?_⟩, store⟩
  rw [List.mem_singleton.mp among]
  exact ⟨nobody, unlisted⟩

/-- Others keep away from streams. -/
theorem aside_of_others (changed : Others desk later) : Aside desk later := by
  cases changed with
  | asks =>
    rw [askToStop_eq]
    exact aside_note rfl rfl rfl rfl
  | stops | occupies => exact aside_of_log_eq rfl rfl

theorem Aside.spares (aside : Aside desk later)
    (stopped : desk.task.engine.isCancelled = true → later.task.engine.isCancelled = true)
    (linked : Linked desk → Linked later) (place : Nat) : Spares place desk later := by
  obtain ⟨more, log, nobody⟩ := aside.log
  refine ⟨⟨more, log, fun event among => ?_⟩, stopped, linked⟩
  rw [(nobody event among).1]
  exact nofun

theorem Amid.spares (amid : Amid desk later) (place : Nat) : Spares place desk later :=
  amid.toAside.spares amid.stopped amid.linked place

theorem amid_of_others (changed : Others desk later) (owns : desk.task.ownsRun = true) (isOurs : desk.isOurs = true) :
    Amid desk later := by
  have aside := aside_of_others changed
  cases changed with
  | asks =>
    rw [askToStop_eq] at aside ⊢
    rw [if_pos owns] at aside ⊢
    exact ⟨aside, rfl, rfl, fun _ => rfl, fun linked => ⟨linked.owns, linked.isOurs, fun _ => rfl, fun _ => rfl⟩⟩
  | stops =>
    have same : (desk.putEngine desk.task.engine.cancel).isOurs = desk.isOurs := if_pos rfl
    exact ⟨aside, rfl, same, fun _ => rfl, fun linked =>
      ⟨linked.owns, same.trans linked.isOurs, fun _ => rfl, fun _ => rfl⟩⟩
  | occupies engine free =>
    rw [isOurs] at free
    cases free

/-- What is done beside a run passes requests to stop on. -/
theorem passed_followed (desk : Desk) (asked : desk.followed.task.cell.isCancelled = true) :
    desk.followed.task.engine.isCancelled = true := by
  have asked : desk.task.cell.isCancelled = true := (isCancelled_cell_follow _).symm.trans asked
  exact (isCancelled_engine_follow _).trans (by rw [asked, Bool.true_or])

theorem amid_followed (desk : Desk) : Amid desk desk.followed := by
  have isOurs : desk.followed.isOurs = desk.isOurs := if_pos (isProbing_engine_follow _)
  have owns : desk.followed.task.ownsRun = desk.task.ownsRun := ownsRun_follow _
  have stopped (before : desk.task.engine.isCancelled = true) : desk.followed.task.engine.isCancelled = true :=
    (isCancelled_engine_follow _).trans (by rw [before, Bool.or_true])
  refine ⟨aside_of_log_eq rfl rfl, owns, isOurs, stopped, fun linked => ?_⟩
  exact ⟨owns.trans linked.owns, isOurs.trans linked.isOurs, passed_followed desk, fun noted =>
    stopped (linked.noted noted)⟩

/-- A write of the run itself that has to do with no request to stop and not with who has the engine. -/
theorem amid_putEngine {change : EngineCell → EngineCell} (gentle : IsGentle change) (desk : Desk) :
    Amid desk (desk.putEngine (change desk.task.engine)) := by
  obtain ⟨stopped, probing⟩ := gentle desk.task.engine
  have isOurs : (desk.putEngine (change desk.task.engine)).isOurs = desk.isOurs := if_pos probing
  refine ⟨aside_of_log_eq rfl rfl, rfl, isOurs, stopped.trans, fun linked => ?_⟩
  exact ⟨linked.owns, isOurs.trans linked.isOurs, fun asked => stopped.trans (linked.passed asked), fun noted =>
    stopped.trans (linked.noted noted)⟩

/-- An answer that had to be waited for, and was not that of a listing. -/
theorem amid_noted (isAsleep : Bool) {ask : Ask} (unlisted : (Event.waited ask).isListing = false) (desk : Desk) :
    Amid desk ((Desk.stage around).noted isAsleep ask desk) := by
  unfold Stage.noted
  split
  · refine ⟨aside_note rfl unlisted rfl rfl, rfl, rfl, fun stopped => stopped, fun linked => ?_⟩
    refine ⟨linked.owns, linked.isOurs, linked.passed, fun noted => linked.noted ?_⟩
    have noted : (desk.log ++ [Event.waited ask]).any Event.stops = true := noted
    simpa [Event.stops] using noted
  · exact ⟨aside_of_log_eq rfl rfl, rfl, rfl, fun stopped => stopped, fun linked => linked⟩

end

/-! ### Before the streams -/

/-- Whether no stream has had anything done yet, when every request to stop stands. -/
structure Quiet (store : Memory) (desk : Desk) : Prop where
  store : desk.store = store
  nobody : Nobody desk.log
  asked : .cancelled ∈ desk.log → desk.task.cell.isCancelled = true

/-- Whether a task has not got the engine yet, nor waited for a listing. -/
structure Before (store : Memory) (desk : Desk) : Prop extends Quiet store desk where
  isNotOurs : desk.isOurs = false
  unlisted : listingWaited desk.log = false

/-- Whether a run has the engine on behalf of the task, but not its streams yet. What is watched has been
carried out once a listing had to be waited for, and passes requests to stop on. -/
structure Underway (store : Memory) (beside : Beside Desk) (desk : Desk) : Prop extends Quiet store desk where
  held : beside.held = [freed, disowned]
  owns : desk.task.ownsRun = true
  isOurs : desk.isOurs = true
  watch : (beside.watch = .due followed ∧ listingWaited desk.log = false) ∨
    (beside.watch = .again followed ∧ (desk.task.cell.isCancelled = true → desk.task.engine.isCancelled = true))

section
variable {around : Circumstances} {store : Memory} {beside : Beside Desk} {desk later : Desk}

/-- What leaves the streams alone, and the requests to stop the task as well. -/
theorem Quiet.aside (quiet : Quiet store desk) (aside : Aside desk later)
    (asked : desk.task.cell.isCancelled = true → later.task.cell.isCancelled = true)
    (noted : .cancelled ∈ later.log → .cancelled ∈ desk.log ∨ later.task.cell.isCancelled = true) :
    Quiet store later := by
  obtain ⟨more, log, nobody⟩ := aside.log
  refine ⟨aside.store.trans quiet.store, ?_, fun among => ?_⟩
  · rw [log]
    exact quiet.nobody.append fun event among => (nobody event among).1
  · exact (noted among).elim (fun earlier => asked (quiet.asked earlier)) id

theorem Quiet.others (quiet : Quiet store desk) (changed : Others desk later) : Quiet store later := by
  have aside := aside_of_others changed
  cases changed with
  | asks =>
    refine quiet.aside aside (fun _ => ?_) fun _ => .inr ?_ <;> rw [askToStop_eq] <;> rfl
  | stops => exact quiet.aside aside (fun asked => asked) .inl
  | occupies => exact quiet.aside aside (fun asked => asked) .inl

theorem Quiet.noted (quiet : Quiet store desk) (ask : Ask) : Quiet store (desk.note (.waited ask)) where
  store := quiet.store
  nobody := quiet.nobody.append fun event among => by rw [List.mem_singleton.mp among]; rfl
  asked among := quiet.asked ((List.mem_append.mp among).resolve_right fun last => by
    cases List.mem_singleton.mp last)

theorem Quiet.putTask (quiet : Quiet store desk) {task : ProbeTask}
    (asked : task.cell.isCancelled = desk.task.cell.isCancelled) : Quiet store (desk.putTask task) where
  store := quiet.store
  nobody := quiet.nobody
  asked among := asked.trans (quiet.asked among)

theorem Before.others (before : Before store desk) (changed : Others desk later) : Before store later := by
  refine ⟨before.toQuiet.others changed, ?_, ?_⟩
  · cases changed with
    | asks =>
      rw [askToStop_eq]
      exact before.isNotOurs
    | stops => exact (if_pos rfl : _ = desk.isOurs).trans before.isNotOurs
    | occupies => exact before.isNotOurs
  · exact (aside_of_others changed).listingWaited.trans before.unlisted

theorem Before.noted (before : Before store desk) {isAsleep : Bool} {ask : Ask}
    (unlisted : (Event.waited ask).isListing = false) :
    Before store ((Desk.stage around).noted isAsleep ask desk) := by
  have amid : Amid desk ((Desk.stage around).noted isAsleep ask desk) := amid_noted isAsleep unlisted desk
  refine ⟨?_, amid.isOurs.trans before.isNotOurs, amid.listingWaited.trans before.unlisted⟩
  unfold Stage.noted
  split
  · exact before.toQuiet.noted ask
  · exact before.toQuiet

/-- What the task writes to its own cell. -/
theorem Before.putCell (before : Before store desk) (cell : TaskCell)
    (asked : cell.isCancelled = desk.task.cell.isCancelled) :
    Before store (desk.putTask { desk.task with cell }) :=
  ⟨before.toQuiet.putTask asked, (if_pos rfl).trans before.isNotOurs, before.unlisted⟩

theorem Underway.amid (underway : Underway store beside desk) (amid : Amid desk later) (quiet : Quiet store later)
    (passed : later.task.cell.isCancelled = true →
      desk.task.cell.isCancelled = true ∨ later.task.engine.isCancelled = true) : Underway store beside later where
  toQuiet := quiet
  held := underway.held
  owns := amid.owns.trans underway.owns
  isOurs := amid.isOurs.trans underway.isOurs
  watch := by
    refine underway.watch.imp (And.imp_right amid.listingWaited.trans) (And.imp_right fun before asked => ?_)
    exact (passed asked).elim (fun earlier => amid.stopped (before earlier)) id

theorem Underway.others (underway : Underway store beside desk) (changed : Others desk later) :
    Underway store beside later := by
  refine underway.amid (amid_of_others changed underway.owns underway.isOurs) (underway.toQuiet.others changed) ?_
  cases changed with
  | asks =>
    intro _
    rw [askToStop_eq, if_pos underway.owns]
    exact .inr rfl
  | stops | occupies => exact .inl

theorem Underway.putEngine (underway : Underway store beside desk) {change : EngineCell → EngineCell}
    (gentle : IsGentle change) : Underway store beside (desk.putEngine (change desk.task.engine)) :=
  underway.amid (amid_putEngine gentle desk) (underway.toQuiet.putTask rfl) .inl

/-- What is watched is what is done beside a run. -/
theorem Underway.watched (underway : Underway store beside desk) {action : Desk → Desk}
    (watches : beside.watch.action? = some action) :
    action = Desk.followed ∧ Underway store beside.carriedOut desk.followed := by
  have quiet : Quiet store desk.followed := underway.toQuiet.putTask (isCancelled_cell_follow _)
  have amid := amid_followed desk
  have passed := passed_followed desk
  obtain ⟨held, watch⟩ := beside
  rcases underway.watch with ⟨rfl, -⟩ | ⟨rfl, -⟩
  all_goals
    cases watches
    exact ⟨rfl, quiet, underway.held, amid.owns.trans underway.owns, amid.isOurs.trans underway.isOurs,
      .inr ⟨rfl, passed⟩⟩

/-- An answer that had to be waited for came after what is watched had been carried out. -/
theorem Underway.noted (underway : Underway store beside desk) {isAsleep : Bool} (isFree : beside.IsFree isAsleep)
    (ask : Ask) : Underway store beside ((Desk.stage around).noted isAsleep ask desk) := by
  cases isAsleep with
  | false => exact underway
  | true =>
    refine ⟨underway.toQuiet.noted ask, underway.held, underway.owns, underway.isOurs, .inr ?_⟩
    rcases underway.watch with ⟨isDue, -⟩ | again
    · have isNotDue := isFree rfl
      rw [isDue] at isNotDue
      cases isNotDue
    · exact again

theorem steady_underway : Steady manner (Underway store) where
  others _ _ _ changed underway := underway.others changed
  rest _ := trivial
  watched underway watches := by
    obtain ⟨rfl, underway⟩ := underway.watched watches
    exact ⟨trivial, underway⟩

theorem carries_underway : (Desk.stage around).Carries manner (Underway store) Ask.IsPlain where
  steady := steady_underway
  lets gentle _ _ underway := ⟨trivial, underway.putEngine gentle⟩
  waits _ _ _ _ underway isFree := ⟨trivial, underway.noted isFree _⟩

end

/-! ### The streams -/

/-- What the log and the store show of the streams of a run: no more than there is room for were in flight
at any time, and what is kept of others than those asked about is what was kept before. -/
structure Ledger (limit : Nat) (streams : List Stream) (store : Memory) (desk : Desk) : Prop where
  bounded : Bounded limit streams.length desk.log
  inside : ∀ event ∈ desk.log, ∀ place, event.place? = some place → place < streams.length
  kept : ∀ id, desk.store.get? id = store.get? id ∨
    ∃ place : Fin streams.length, (streams.get place).id = id ∧ ∃ ask, .asked place ask ∈ desk.log

/-- Whether the streams of a run are under way, or have come to an end. Had a listing to be waited for, the
run is on the alert: whatever asks the task to stop has reached the engine. -/
structure Probing (alert : Prop) (limit : Nat) (streams : List Stream) (store : Memory) (beside : Beside Desk)
    (desk : Desk) : Prop extends Ledger limit streams store desk where
  listed : listingWaited desk.log = true → alert
  held : beside.held = [freed, disowned]
  watch : beside.watch.action? = some followed
  owns : desk.task.ownsRun = true
  isOurs : desk.isOurs = true
  linked : alert → Linked desk

section
variable {around : Circumstances} {settings : ProbingSettings} {streams : List Stream} {store : Memory}
  {alert : Prop} {limit : Nat} {beside : Beside Desk} {desk later : Desk}

theorem Ledger.aside (ledger : Ledger limit streams store desk) (aside : Aside desk later) :
    Ledger limit streams store later := by
  obtain ⟨⟨more, log, nobody⟩, same⟩ := aside
  refine ⟨?_, ?_, fun id => ?_⟩
  · rw [log]
    exact ledger.bounded.append fun event among => (nobody event among).1
  · intro event among place about
    rw [log, List.mem_append] at among
    refine among.elim (fun earlier => ledger.inside event earlier place about) fun last => ?_
    rw [(nobody event last).1] at about
    cases about
  · rw [same, log]
    refine (ledger.kept id).imp_right fun ⟨place, same, question, among⟩ => ?_
    exact ⟨place, same, question, List.mem_append_left _ among⟩

theorem Probing.amid (probing : Probing alert limit streams store beside desk) (amid : Amid desk later) :
    Probing alert limit streams store beside later :=
  ⟨probing.toLedger.aside amid.toAside, fun waited => probing.listed (amid.listingWaited.symm.trans waited),
    probing.held, probing.watch, amid.owns.trans probing.owns, amid.isOurs.trans probing.isOurs,
    fun known => amid.linked (probing.linked known)⟩

theorem Probing.others (probing : Probing alert limit streams store beside desk) (changed : Others desk later) :
    Amid desk later :=
  amid_of_others changed probing.owns probing.isOurs

theorem Probing.carriedOut (probing : Probing alert limit streams store beside desk) :
    Probing alert limit streams store beside.carriedOut desk :=
  { probing with watch := (Watch.action?_carriedOut _).trans probing.watch }

/-- What one stream does, when no more than there is room for are in flight then. -/
theorem Probing.minds (probing : Probing alert limit streams store beside desk) {place : Fin streams.length}
    (minds : Minds place (streams.get place).id desk later)
    (room : (inFlight streams.length later.log).length ≤ limit) : Probing alert limit streams store beside later := by
  have linked := minds.linked
  obtain ⟨⟨event, log, about, -⟩, -, owns, isOurs, -, kept⟩ := minds
  have unlisted : event.isListing = false := by
    cases event with
    | acted | asked => rfl
    | cancelled | waited => cases about
  refine ⟨⟨?_, ?_, fun id => ?_⟩, fun waited => ?_, probing.held, probing.watch, owns.trans probing.owns,
    isOurs.trans probing.isOurs, fun known => linked (probing.linked known)⟩
  · rw [log] at room ⊢
    exact probing.bounded.note room
  · intro other among place' about'
    rw [log, List.mem_append] at among
    refine among.elim (fun earlier => probing.inside other earlier place' about') fun last => ?_
    rw [List.mem_singleton.mp last, about] at about'
    cases about'
    exact place.isLt
  · rcases kept id with same | ⟨rfl, question, among⟩
    · rw [same, log]
      refine (probing.kept id).imp_right fun ⟨place, same, question, among⟩ => ?_
      exact ⟨place, same, question, List.mem_append_left _ among⟩
    · exact .inr ⟨place, rfl, question, among⟩
  · rw [log, listingWaited_append, Bool.or_eq_true] at waited
    refine probing.listed (waited.resolve_right ?_)
    simp [listingWaited, unlisted]

/-- No more streams are in flight than have their turn. -/
theorem room_of_turns {company : Crew Desk streams}
    (turns : Turns (Desk.stage around) settings (fun place => Spares place)
      (fun place => Minds place (streams.get place).id) (fun place => Settled alert place)
      (fun place => Fresh alert place) company) :
    (inFlight streams.length company.state.log).length ≤ settings.concurrency := by
  let flying (place : Nat) : Bool := started company.state.log place && !counted company.state.log place
  let under := (List.finRange streams.length).filter (flying ∘ fun place => place.val)
  have flies {place : Fin streams.length} (among : place ∈ under) :
      started company.state.log place = true ∧ counted company.state.log place = false := by
    simpa [under, flying] using among
  have same : inFlight streams.length company.state.log = under.map fun place => place.val := by
    rw [inFlight, ← List.map_coe_finRange_eq_range, List.filter_map]
  rw [same, List.length_map]
  refine turns.length_le ((List.nodup_finRange _).filter _) (fun place _ => List.mem_finRange place) ?_ ?_
  · intro place among fresh
    have unstarted := fresh.foreign.started
    rw [(flies among).1] at unstarted
    cases unstarted
  · rintro place among value (⟨-, alone⟩ | ⟨-, through⟩)
    · have unstarted := alone.unstarted
      rw [(flies among).1] at unstarted
      cases unstarted
    · have isCounted := through.counted
      rw [(flies among).2] at isCounted
      cases isCounted

/-- **The streams of a run are in harmony with what is around them.** -/
theorem harmony (around : Circumstances) (settings : ProbingSettings) (streams : List Stream) (store : Memory)
    (alert : Prop) :
    Harmony (Desk.stage around) manner settings (fun place => Spares place)
      (fun place => Minds place (streams.get place).id) (fun place => Settled alert place)
      (fun place => Fresh alert place) (Probing alert settings.concurrency streams store) where
  apart place other differ desk later minds := minds.spares fun same => differ (Fin.ext same)
  stays place desk later spares fresh := fresh.spared spares
  rest _ := trivial
  others probing changed :=
    ⟨fun place => (probing.others changed).spares place, probing.amid (probing.others changed)⟩
  watched {beside desk action} probing watches := by
    cases probing.watch.symm.trans watches
    exact ⟨trivial, fun place => (amid_followed desk).spares place, (probing.amid (amid_followed desk)).carriedOut⟩
  idle _ := trivial
  acts probing minds turns := ⟨trivial, probing.minds minds (room_of_turns turns)⟩

/-- Whether what is done beside a run has been carried out. -/
def HasFollowed (beside : Beside Desk) : Prop := beside.watch = .again followed

/-- A run that has got its streams has them under way, on the alert if what is watched has been carried
out. -/
theorem Underway.probing (underway : Underway store beside desk) (limit : Nat) (streams : List Stream) :
    Probing (HasFollowed beside) limit streams store beside desk ∧
      ∀ place, Fresh (HasFollowed beside) place desk := by
  have linked (again : HasFollowed beside) : Linked desk := by
    obtain ⟨isDue, -⟩ | ⟨-, passed⟩ := underway.watch
    · cases isDue.symm.trans again
    · refine ⟨underway.owns, underway.isOurs, passed, fun noted => passed (underway.asked ?_)⟩
      obtain ⟨event, among, stops⟩ := List.any_eq_true.mp noted
      have nobody := underway.nobody event among
      cases event with
      | cancelled => exact among
      | waited => cases stops
      | acted | asked => cases nobody
  refine ⟨⟨⟨underway.nobody.bounded _ _, ?_, fun _ => .inl (by rw [underway.store])⟩, fun listed => ?_,
    underway.held, ?_, underway.owns, underway.isOurs, linked⟩, fun place => ⟨underway.nobody.foreign place, linked⟩⟩
  · intro event among place about
    rw [underway.nobody event among] at about
    cases about
  · obtain ⟨-, unlisted⟩ | ⟨again, -⟩ := underway.watch
    · rw [unlisted] at listed
      cases listed
    · exact again
  · obtain ⟨same, -⟩ | ⟨same, -⟩ := underway.watch <;> rw [same] <;> rfl

/-- Whether the streams of a run have come to some results. -/
structure Reported (alert : Prop) (limit : Nat) (streams : List Stream) (store : Memory)
    (results : List (Fin streams.length × Int × StreamOutcome)) (beside : Beside Desk) (desk : Desk) : Prop where
  probing : Probing alert limit streams store beside desk
  everyone : (results.map (·.1)).Perm (List.finRange streams.length)
  settled : ∀ result ∈ results, Settled alert result.1 result.2 desk

section
variable {results : List (Fin streams.length × Int × StreamOutcome)}

theorem Reported.amid (reported : Reported alert limit streams store results beside desk) (amid : Amid desk later) :
    Reported alert limit streams store results beside later :=
  ⟨reported.probing.amid amid, reported.everyone, fun result known =>
    (reported.settled result known).spared (amid.spares result.1)⟩

theorem steady_reported : Steady manner (Reported alert limit streams store results) where
  others _ _ _ changed reported := reported.amid (reported.probing.others changed)
  rest _ := trivial
  watched {beside desk action} reported watches := by
    cases reported.probing.watch.symm.trans watches
    have later := reported.amid (amid_followed desk)
    exact ⟨trivial, later.probing.carriedOut, later.everyone, later.settled⟩

end

/-- **The streams of a run are probed**, or left alone after a request to stop. -/
theorem fares_probeStreams (underway : Underway store beside desk) :
    ((Desk.stage around).work (Work.probeStreams settings streams)).Fares (Desk.stage around).outside manner
      (fun reply later last => ∃ results, reply = results.map (·.2) ∧
        Reported (HasFollowed beside) settings.concurrency streams store results later last)
      beside desk := by
  refine (harmony around settings streams store (HasFollowed beside)).fares_probeStreams
    (fun later meanwhile => ?_) (fun results beside => steady_reported.others beside) ?_
  · obtain ⟨probing, fresh⟩ :=
      ((steady_underway.others beside).meanwhile meanwhile underway).probing settings.concurrency streams
    exact ⟨probing, turns_crew (fun place => ensures_probeStream (fresh place) _ _)
      (fun place => within_probeStream _ _) fun place => fresh place⟩
  · intro results beside desk isAsleep probing isFree everyone settled
    have amid : Amid desk ((Desk.stage around).noted isAsleep (.probeStreams settings streams) desk) :=
      amid_noted isAsleep rfl desk
    exact ⟨trivial, Reported.amid ⟨probing, everyone, settled⟩ amid⟩

end

end StreamWatch.ProbeTask
