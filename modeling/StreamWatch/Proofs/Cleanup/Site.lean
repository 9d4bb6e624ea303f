/-
**What a cleanup works on.**

The site of a cleanup is the cell of its task, the store of records and the channels of the remote.
An onlooker notes down every call that may change something, and every request to stop. The
circumstances say what the listing of channels is, which channels cannot be changed and which calls
to the store fail; requests to stop come at any moment.

* `answer`: how the outside answers in some circumstances;
* `Stand`: what was noted down, what the channels carry and what the store keeps, after some
  channels were changed and some streams were forgotten;
* `ensures_change`, `ensures_lookIsCancelled`: the task's own actions leave all that as it is.
-/

import StreamWatch.Proofs.Program.Run
import StreamWatch.Proofs.Store.Memory
import StreamWatch.Task.Cleanup

namespace StreamWatch.Cleanup

open Program

/-- What is noted down while a cleanup runs. -/
inductive Note where
  /-- a channel was to be given other streams -/
  | update (channel : Int) (streams : List Int)
  /-- the runs of failures of some streams were to be forgotten -/
  | reset (ids : List Int)
  /-- the task was asked to stop -/
  | stop
deriving DecidableEq

namespace Note

/-- Whether something was asked of the remote or of the store. -/
def isCall : Note → Bool
  | stop => false
  | _ => true

/-- Whether a channel was to be changed. -/
def isUpdate : Note → Bool
  | update .. => true
  | _ => false

/-- What is noted down of a call to the store. -/
def ofStore : StoreCall → List Note
  | .reset ids => [reset ids]
  | _ => []

/-- The calls among some notes. -/
def calls (notes : List Note) : List Note := notes.filter isCall

/-- How many channels were to be changed after the first request to stop. -/
def late : List Note → Nat
  | [] => 0
  | stop :: rest => rest.countP isUpdate
  | _ :: rest => late rest

@[simp] theorem calls_append (notes more : List Note) :
    calls (notes ++ more) = calls notes ++ calls more :=
  List.filter_append ..

theorem late_of_no_stop {notes : List Note} (none : stop ∉ notes) : late notes = 0 := by
  induction notes with
  | nil => rfl
  | cons note rest ih =>
    have later := ih fun noted => none (List.mem_cons_of_mem note noted)
    cases note with
    | stop => exact absurd List.mem_cons_self none
    | update | reset => exact later

/-- What is no update counts for nothing, whenever it is noted down. -/
theorem late_append_of_not {note : Note} (other : note.isUpdate = false) (notes : List Note) :
    late (notes ++ [note]) = late notes := by
  induction notes with
  | nil => cases note <;> rfl
  | cons first rest ih =>
    cases first with
    | stop =>
      show (rest ++ [note]).countP isUpdate = rest.countP isUpdate
      rw [List.countP_append, List.countP_singleton, other]
      rfl
    | update | reset => exact ih

theorem late_append_le (notes : List Note) (note : Note) : late (notes ++ [note]) ≤ late notes + 1 := by
  induction notes with
  | nil => cases note <;> exact Nat.zero_le 1
  | cons first rest ih =>
    cases first with
    | stop =>
      show (rest ++ [note]).countP isUpdate ≤ rest.countP isUpdate + 1
      rw [List.countP_append]
      exact Nat.add_le_add_left List.countP_le_length _
    | update | reset => exact ih

end Note

/-- What a cleanup works on, and what was noted down. -/
structure Site where
  cell : TaskCell
  store : Memory
  /-- the streams that each channel carries -/
  carried : Int → List Int
  notes : List Note := []

/-- What there is around a cleanup. -/
structure Circumstances where
  /-- the pages of the listing of channels -/
  pages : Nat → Except RemoteError (Page Channel)
  /-- why a channel cannot be changed, if it cannot -/
  refusal : Int → Option RemoteError
  /-- why a call to the store fails, if it does -/
  fault : StoreCall → Option StoreError
  now : Instant

namespace Site

/-- The site with some notes more. -/
def note (notes : List Note) (site : Site) : Site := { site with notes := site.notes ++ notes }

@[simp] theorem note_nil (site : Site) : site.note [] = site := by
  rw [note, List.append_nil]

/-- The site with other streams given to a channel. -/
def give (id : Int) (streams : List Int) (site : Site) : Site :=
  { site with carried := fun other => if other = id then streams else site.carried other }

/-- The site after a request to stop. -/
def stop (site : Site) : Site := { site.note [.stop] with cell := site.cell.cancel }

/-- The site with the cell of the task written. -/
def putCell (cell : TaskCell) (site : Site) : Site := { site with cell }

end Site

/-- A program of the task, over the site. -/
def onSite {α : Type} (work : Work TaskCell α) : Work Site α := work.zoom (·.cell) Site.putCell

variable (around : Circumstances)

/-- How the outside answers a question that a cleanup may ask. -/
def answer : (ask : Ask) → Site → Option ask.Reply × Site
  | .remote (.channels number _), site => (some (around.pages number), site)
  | .remote (.updateChannel id update), site =>
    match around.refusal id with
    | some error => (some (.error error), site.note [.update id update.streams])
    | none => (some (.ok ⟨⟩), (site.note [.update id update.streams]).give id update.streams)
  | .store call, site =>
    match around.fault call with
    | some error => (some (.error error), site.note (Note.ofStore call))
    | none =>
      let answered := site.store.answer around.now call
      (some answered.1, { site.note (Note.ofStore call) with store := answered.2 })
  | _, site => (none, site)

/-- The outside answers, and others ask the task to stop. -/
def surroundings : Surroundings Site Ask Ask.Reply where
  answers question site reply after := answer around question site = (reply, after)
  others site after := after = site.stop

theorem answers_answer (question : Ask) (site : Site) :
    (surroundings around).answers question site (answer around question site).1 (answer around question site).2 :=
  rfl

theorem answered (question : Ask) (site : Site) :
    ∃ reply after, (surroundings around).answers question site reply after :=
  ⟨_, _, answers_answer around question site⟩

/-! ### Where a cleanup stands -/

/-- The call by which struck streams are taken out of a channel. -/
def updateOf (struck : List Int) (channel : Channel) : Note :=
  .update channel.id (channel.streams.filter fun id => !struck.contains id)

/-- The call by which runs of failures are forgotten, if there are any to forget. -/
def resetOf (ids : List Int) : List Note := if ids = [] then [] else [.reset ids]

/-- What the channels carry after struck streams were to be taken out of one of them. -/
def carriedWithout (struck : List Int) (carried : Int → List Int) (channel : Channel) (id : Int) :
    List Int :=
  if id = channel.id ∧ around.refusal id = none then channel.streams.filter fun id => !struck.contains id
  else carried id

/-- What the channels carry after struck streams were to be taken out of some of them. -/
def carriedAfter (struck : List Int) (carried : Int → List Int) (made : List Channel) :
    Int → List Int :=
  made.foldl (carriedWithout around struck) carried

theorem carriedAfter_append (struck : List Int) (carried : Int → List Int) (made : List Channel)
    (channel : Channel) :
    carriedAfter around struck carried (made ++ [channel]) =
      carriedWithout around struck (carriedAfter around struck carried made) channel :=
  List.foldl_append ..

/-- What the store keeps after runs of failures were forgotten, should that not fail. -/
def storeAfter (store : Memory) (ids : List Int) : Memory :=
  if around.fault (.reset ids) = none then store.reset ids else store

@[simp] theorem storeAfter_nil (store : Memory) : storeAfter around store [] = store := by
  unfold storeAfter
  split
  · rfl
  · rfl

/-- **Where a cleanup stands** that has begun to change some channels and has had the runs of
failures of some streams forgotten, with no more than so many channels begun after the first request
to stop. -/
structure Stand (start : Site) (struck : List Int) (made : List Channel) (forgotten : List Int)
    (bound : Nat) (site : Site) : Prop where
  calls : Note.calls site.notes = made.map (updateOf struck) ++ resetOf forgotten
  carried : site.carried = carriedAfter around struck start.carried made
  store : site.store = storeAfter around start.store forgotten
  stopped : site.cell.isCancelled = true ↔ start.cell.isCancelled = true ∨ Note.stop ∈ site.notes
  late : Note.late site.notes ≤ bound

variable {around} {start site : Site} {struck : List Int} {made : List Channel}
  {forgotten : List Int} {bound : Nat}

theorem Stand.stop (stand : Stand around start struck made forgotten bound site) :
    Stand around start struck made forgotten bound site.stop where
  calls := by
    show Note.calls (site.notes ++ [.stop]) = _
    rw [Note.calls_append, stand.calls]
    exact List.append_nil _
  carried := stand.carried
  store := stand.store
  stopped := ⟨fun _ => .inr (List.mem_append_right _ List.mem_cons_self), fun _ => rfl⟩
  late := by
    show Note.late (site.notes ++ [.stop]) ≤ bound
    rw [Note.late_append_of_not rfl]
    exact stand.late

/-- Where a cleanup stands that has not begun. -/
theorem stand_unbegun (around : Circumstances) (cell : TaskCell) (store : Memory) (carried : Int → List Int)
    (struck : List Int) :
    Stand around { cell, store, carried } struck [] [] 1 { cell, store, carried } where
  calls := rfl
  carried := rfl
  store := (storeAfter_nil around store).symm
  stopped := ⟨.inl, fun either => either.resolve_right nofun⟩
  late := Nat.zero_le 1

/-- A request to stop changes nothing of where a cleanup stands. -/
theorem stable_stand :
    Stable (surroundings around) (Stand around start struck made forgotten bound) := by
  rintro site after rfl stand
  exact stand.stop

/-- Writing the cell changes nothing of where a cleanup stands, but for whether it was asked to stop. -/
theorem Stand.putCell (stand : Stand around start struck made forgotten bound site) {cell : TaskCell}
    (same : cell.isCancelled = site.cell.isCancelled) :
    Stand around start struck made forgotten bound (site.putCell cell) where
  calls := stand.calls
  carried := stand.carried
  store := stand.store
  stopped := by
    show cell.isCancelled = true ↔ _
    rw [same]
    exact stand.stopped
  late := stand.late

/-- A cleanup that finds that it was not asked to stop has begun no channel after such a request. -/
theorem Stand.onTime (stand : Stand around start struck made forgotten bound site)
    (goesOn : site.cell.isCancelled = false) :
    Stand around start struck made forgotten 0 site where
  calls := stand.calls
  carried := stand.carried
  store := stand.store
  stopped := stand.stopped
  late := by
    refine Nat.le_of_eq (Note.late_of_no_stop fun noted => ?_)
    rw [stand.stopped.mpr (.inr noted)] at goesOn
    exact nomatch goesOn

/-- A call that was noted down adds no request to stop, and at most one channel begun after one. -/
theorem Stand.note {call : Note} (stand : Stand around start struck made forgotten bound site)
    (isCall : call.isCall = true) :
    (site.cell.isCancelled = true ↔ start.cell.isCancelled = true ∨ Note.stop ∈ site.notes ++ [call]) ∧
      Note.late (site.notes ++ [call]) ≤ bound + 1 := by
  constructor
  · rw [stand.stopped, List.mem_append, List.mem_singleton]
    have differ : Note.stop ≠ call := fun same => by
      rw [← same] at isCall
      exact nomatch isCall
    simp only [differ, or_false]
  · exact Nat.le_trans (Note.late_append_le _ _) (Nat.add_le_add_right stand.late 1)

/-- The channel that cannot be changed carries what it carried before. -/
theorem Stand.refused (stand : Stand around start struck made [] bound site) {channel : Channel}
    {error : RemoteError} (refused : around.refusal channel.id = some error) :
    Stand around start struck (made ++ [channel]) [] (bound + 1)
      (site.note [updateOf struck channel]) where
  calls := by
    show Note.calls (site.notes ++ _) = _
    rw [Note.calls_append, stand.calls, List.map_append]
    simp only [resetOf, if_true, List.append_nil]
    rfl
  carried := by
    show site.carried = _
    rw [carriedAfter_append, ← stand.carried]
    funext id
    refine (if_neg ?_).symm
    rintro ⟨rfl, granted⟩
    exact nomatch refused.symm.trans granted
  store := stand.store
  stopped := (stand.note rfl).1
  late := (stand.note rfl).2

/-- The channel that can be changed carries what it was given. -/
theorem Stand.granted (stand : Stand around start struck made [] bound site) {channel : Channel}
    (granted : around.refusal channel.id = none) :
    Stand around start struck (made ++ [channel]) [] (bound + 1)
      ((site.note [updateOf struck channel]).give channel.id
        (channel.streams.filter fun id => !struck.contains id)) where
  calls := by
    show Note.calls (site.notes ++ _) = _
    rw [Note.calls_append, stand.calls, List.map_append]
    simp only [resetOf, if_true, List.append_nil]
    rfl
  carried := by
    rw [carriedAfter_append, ← stand.carried]
    funext id
    by_cases same : id = channel.id
    · subst same
      exact (if_pos rfl).trans (if_pos ⟨rfl, granted⟩).symm
    · exact (if_neg same).trans (if_neg fun both => same both.1).symm
  store := stand.store
  stopped := (stand.note rfl).1
  late := (stand.note rfl).2

/-- The runs of failures of some streams are forgotten, unless the store fails. -/
theorem Stand.forgot (stand : Stand around start struck made [] bound site) {ids : List Int}
    (some : ids ≠ []) :
    Stand around start struck made ids bound
      { site.note [.reset ids] with store := storeAfter around site.store ids } where
  calls := by
    show Note.calls (site.notes ++ _) = _
    rw [Note.calls_append, stand.calls, resetOf, if_pos rfl, List.append_nil, resetOf, if_neg some]
    rfl
  carried := stand.carried
  store := by
    show storeAfter around site.store ids = _
    rw [stand.store, storeAfter_nil]
  stopped := (stand.note rfl).1
  late := by
    show Note.late (site.notes ++ [.reset ids]) ≤ bound
    rw [Note.late_append_of_not rfl]
    exact stand.late

/-! ### What the task does by itself -/

theorem onSite_bind {α β : Type} (first : Work TaskCell α) (next : α → Work TaskCell β) :
    onSite (first >>= next) = onSite first >>= fun value => onSite (next value) :=
  zoom_bind _ _ first next

/-- A statement about a site that neither requests to stop undo nor what the task writes to its cell
besides them. -/
structure Firm (around : Circumstances) (holds : Site → Prop) : Prop where
  stable : Stable (surroundings around) holds
  putCell : ∀ {site cell}, holds site → cell.isCancelled = site.cell.isCancelled →
    holds (site.putCell cell)

theorem firm_stand : Firm around (Stand around start struck made forgotten bound) where
  stable := stable_stand
  putCell stand same := stand.putCell same

variable {α β : Type} {goal : α → Site → Prop} {holds : Site → Prop}

/-- What the task writes to its cell besides requests to stop undoes nothing firm. -/
theorem ensures_change {f : TaskCell → TaskCell} {next : Unit → Work TaskCell α}
    (firm : Firm around holds) (keeps : ∀ cell, (f cell).isCancelled = cell.isCancelled) (before : holds site)
    (rest : ∀ later, holds later → (onSite (next ⟨⟩)).Ensures (surroundings around) goal later) :
    (onSite (change f >>= next)).Ensures (surroundings around) goal site := by
  refine ensures_act firm.stable before fun seen stands => ?_
  exact rest _ (firm.putCell stands (keeps seen.cell))

/-- A look at the cell undoes nothing firm, whatever is seen. -/
theorem ensures_look {f : TaskCell → β} {next : β → Work TaskCell α} (firm : Firm around holds)
    (before : holds site) (rest : ∀ value later, holds later →
      (onSite (next value)).Ensures (surroundings around) goal later) :
    (onSite (look f >>= next)).Ensures (surroundings around) goal site := by
  refine ensures_act firm.stable before fun seen stands => ?_
  exact rest _ _ (firm.putCell stands rfl)

/-- A cleanup that looks whether it was asked to stop finds that it was, or has begun no channel too
late. -/
theorem ensures_lookIsCancelled (stand : Stand around start struck made forgotten bound site) :
    (onSite (look (·.isCancelled))).Ensures (surroundings around)
      (fun isStopped later =>
        (isStopped = true → later.cell.isCancelled = true) ∧
          (isStopped = false → start.cell.isCancelled = false) ∧
            Stand around start struck made forgotten (if isStopped = true then bound else 0) later)
      site := by
  refine ensures_act stable_stand stand fun seen stand => ?_
  have stays (isStopped : Bool) : Stable (surroundings around) fun later : Site =>
      isStopped = true → later.cell.isCancelled = true := by
    rintro state later rfl - -
    rfl
  refine ensures_done ((stays _).and ((stable_const _).and stable_stand)) ⟨id, fun goesOn => ?_, ?_⟩
  · refine Bool.eq_false_iff.mpr fun stopped => ?_
    have goesOn : seen.cell.isCancelled = false := goesOn
    rw [stand.stopped.mpr (.inl stopped)] at goesOn
    exact nomatch goesOn
  · refine Stand.putCell ?_ rfl
    split
    · exact stand
    · next goesOn => exact stand.onTime (Bool.eq_false_iff.mpr goesOn)

end StreamWatch.Cleanup
