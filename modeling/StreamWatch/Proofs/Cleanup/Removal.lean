/-
**What a cleanup leaves behind.**

An execution is spoken of from the outside: by what it asked of the remote and of the store, by what
the channels carry afterwards, and by what the store keeps.

* `Removal`: struck streams were taken out of channels, and nothing else was changed;
* `run_removes_struck`: an execution always comes to its end, and its end is such a removal;
* `carriedAfter_of_untouched`, `carriedAfter_of_granted`: what a channel carries in the end.
-/

import StreamWatch.Proofs.Cleanup.Run

namespace StreamWatch.Cleanup

open Program

variable {around : Circumstances} {start last : Site} {struck : List Int} {made : List Channel}
  {forgotten : List Int}

/-! ### What channels carry in the end -/

theorem carriedAfter_of_untouched {id : Int}
    (untouched : ∀ channel ∈ made, channel.id = id → around.refusal id ≠ none)
    (carried : Int → List Int) :
    carriedAfter around struck carried made id = carried id := by
  induction made generalizing carried with
  | nil => rfl
  | cons first rest ih =>
    have later := ih fun channel member => untouched channel (List.mem_cons_of_mem _ member)
    refine (later (carriedWithout around struck carried first)).trans (if_neg ?_)
    rintro ⟨same, granted⟩
    exact untouched first List.mem_cons_self same.symm granted

theorem carriedAfter_of_granted {id : Int} (granted : around.refusal id = none)
    (begun : ∃ channel ∈ made, channel.id = id) (carried : Int → List Int) :
    ∃ channel ∈ made, channel.id = id ∧
      carriedAfter around struck carried made id =
        channel.streams.filter fun id => !struck.contains id := by
  induction made generalizing carried with
  | nil =>
    obtain ⟨channel, none, -⟩ := begun
    exact nomatch none
  | cons first rest ih =>
    by_cases later : ∃ channel ∈ rest, channel.id = id
    · obtain ⟨channel, member, same, carries⟩ := ih later (carriedWithout around struck carried first)
      exact ⟨channel, List.mem_cons_of_mem _ member, same, carries⟩
    · obtain ⟨channel, member, same⟩ := begun
      rcases List.mem_cons.mp member with rfl | member
      · refine ⟨channel, List.mem_cons_self, same, ?_⟩
        have untouched : ∀ other ∈ rest, other.id = id → around.refusal id ≠ none :=
          fun other member same => absurd ⟨other, member, same⟩ later
        exact (carriedAfter_of_untouched untouched _).trans (if_pos ⟨same.symm, granted⟩)
      · exact absurd ⟨channel, member, same⟩ later

/-! ### The whole -/

/-- The channels that carry a struck stream, in the order of the listing. There are none when the
struck streams or the channels cannot be had. -/
def struckChannels (around : Circumstances) (store : Memory) (threshold : UInt32) : List Channel :=
  match around.fault (.listStruck threshold), Pages.collect around.pages with
  | none, .ok channels => channels.filter fun channel => channel.streams.any (store.strikes threshold)
  | _, _ => []

theorem due_eq {store : Memory} (keyed : store.Keyed) (threshold : UInt32) :
    due around store threshold = struckChannels around store threshold := by
  unfold due struckChannels
  cases around.fault (.listStruck threshold) with
  | some error => rfl
  | none =>
    cases Pages.collect around.pages with
    | error error => rfl
    | ok channels =>
      show affected _ channels = _
      rw [affected, Memory.contains_struckIds keyed]

/-- **Struck streams were taken out of channels, and nothing else was changed.** -/
structure Removal (around : Circumstances) (threshold : UInt32) (start : Site) (made : List Channel)
    (forgotten : List Int) (last : Site) : Prop where
  /-- the channels begun are the first of those that carry a struck stream -/
  begun : made <+: struckChannels around start.store threshold
  /-- they are all of those, unless the task was asked to stop -/
  all : start.cell.isCancelled = false → Note.stop ∉ last.notes →
    made = struckChannels around start.store threshold
  /-- they are none, if it had been asked to stop before -/
  early : start.cell.isCancelled = true → made = []
  /-- after a request to stop no more than the one channel is begun whose turn it was -/
  late : Note.late last.notes ≤ 1
  /-- each of them was to be given its streams without the struck ones, once and in the order of the
  listing, and after that the streams taken out were to be forgotten, if there were any -/
  calls : Note.calls last.notes =
    made.map (fun channel =>
        .update channel.id (channel.streams.filter fun id => !start.store.strikes threshold id)) ++
      if forgotten = [] then [] else [.reset forgotten]
  ascending : forgotten.Pairwise (· < ·)
  /-- the streams taken out are the struck ones of those of the channels that could be changed -/
  forgotten_iff : ∀ id, id ∈ forgotten ↔
    ∃ channel ∈ made, around.refusal channel.id = none ∧ id ∈ channel.streams ∧
      start.store.strikes threshold id = true
  /-- their runs of failures are forgotten, unless the store failed, and no other record is changed -/
  store : ∀ id, last.store.get? id =
    if id ∈ forgotten ∧ around.fault (.reset forgotten) = none then
      (start.store.get? id).map fun stats => { stats with consecutiveFailures := 0 }
    else start.store.get? id
  /-- a channel that was begun and could be changed carries what it was given -/
  given : ∀ channel ∈ made, around.refusal channel.id = none → ∃ same ∈ made, same.id = channel.id ∧
    last.carried channel.id = same.streams.filter fun id => !start.store.strikes threshold id
  /-- any other channel carries what it carried before -/
  untouched : ∀ id, (∀ channel ∈ made, channel.id = id → around.refusal id ≠ none) →
    last.carried id = start.carried id
  /-- when nothing failed and nobody asked the task to stop, no channel of the listing carries a
  struck stream, and a channel that carried none is untouched -/
  cleared : start.cell.isCancelled = false → Note.stop ∉ last.notes → (∀ id, around.refusal id = none) →
    around.fault (.listStruck threshold) = none →
    ∀ channels, Pages.collect around.pages = .ok channels →
    (∀ channel ∈ channels, start.carried channel.id = channel.streams) →
    (∀ channel ∈ channels, ∀ id ∈ last.carried channel.id, start.store.strikes threshold id = false) ∧
      ∀ id, (∀ stream ∈ start.carried id, start.store.strikes threshold stream = false) →
        last.carried id = start.carried id
  /-- when the task is turned off, or the struck streams or the channels cannot be had, nothing is
  changed -/
  idle : (threshold = 0 ∨ (∃ error, around.fault (.listStruck threshold) = some error) ∨
      ∃ error, Pages.collect around.pages = .error error) →
    last.carried = start.carried ∧ last.store = start.store ∧ Note.calls last.notes = []

theorem struckChannels_eq_nil {store : Memory} (keyed : store.Keyed) {threshold : UInt32}
    (idle : threshold = 0 ∨ (∃ error, around.fault (.listStruck threshold) = some error) ∨
      ∃ error, Pages.collect around.pages = .error error) :
    struckChannels around store threshold = [] := by
  rcases idle with rfl | ⟨error, fails⟩ | ⟨error, fails⟩
  · rw [← due_eq keyed, due_of_no_struck store.struckIds_zero]
  · rw [struckChannels, fails]
  · rw [struckChannels, fails]
    split
    · next same => exact nomatch same
    · rfl

section
variable {threshold : UInt32}
  (ended : Ended around start (start.store.struckIds threshold) (due around start.store threshold)
    made forgotten last)
include ended

theorem Ended.get?_store (id : Int) : last.store.get? id =
    if id ∈ forgotten ∧ around.fault (.reset forgotten) = none then
      (start.store.get? id).map fun stats => { stats with consecutiveFailures := 0 }
    else start.store.get? id := by
  rw [ended.stand.store, storeAfter]
  by_cases works : around.fault (.reset forgotten) = none
  · simp only [works, if_true, and_true]
    exact Memory.get?_reset start.store forgotten id
  · simp only [works, if_false, and_false]

theorem Ended.untouched {id : Int}
    (others : ∀ channel ∈ made, channel.id = id → around.refusal id ≠ none) :
    last.carried id = start.carried id := by
  rw [ended.stand.carried]
  exact carriedAfter_of_untouched others start.carried

variable (keyed : start.store.Keyed)
include keyed

theorem Ended.forgotten_iff (id : Int) : id ∈ forgotten ↔
    ∃ channel ∈ made, around.refusal channel.id = none ∧ id ∈ channel.streams ∧
      start.store.strikes threshold id = true := by
  rw [ended.taken]
  simp only [TakenOut, Memory.mem_struckIds keyed]

theorem Ended.calls : Note.calls last.notes =
    made.map (fun channel =>
        .update channel.id (channel.streams.filter fun id => !start.store.strikes threshold id)) ++
      if forgotten = [] then [] else [.reset forgotten] := by
  rw [ended.stand.calls, ← Memory.contains_struckIds keyed]
  rfl

theorem Ended.given {id : Int} (begun : ∃ channel ∈ made, channel.id = id)
    (granted : around.refusal id = none) :
    ∃ same ∈ made, same.id = id ∧
      last.carried id = same.streams.filter fun id => !start.store.strikes threshold id := by
  obtain ⟨same, member, identical, carries⟩ := carriedAfter_of_granted granted begun start.carried
  rw [← ended.stand.carried, Memory.contains_struckIds keyed] at carries
  exact ⟨same, member, identical, carries⟩

/-- A channel that has no struck stream to begin with has none in the end, and neither has one that
was changed. -/
theorem Ended.cleared {channels : List Channel} (granted : ∀ channel ∈ made, around.refusal channel.id = none)
    (all : made = channels.filter fun channel => channel.streams.any (start.store.strikes threshold))
    (listed : ∀ channel ∈ channels, start.carried channel.id = channel.streams) :
    (∀ channel ∈ channels, ∀ id ∈ last.carried channel.id, start.store.strikes threshold id = false) ∧
      ∀ id, (∀ stream ∈ start.carried id, start.store.strikes threshold stream = false) →
        last.carried id = start.carried id := by
  constructor
  · intro channel member id carries
    by_cases begun : ∃ same ∈ made, same.id = channel.id
    · obtain ⟨twin, among, identical⟩ := begun
      obtain ⟨same, -, -, given⟩ := ended.given keyed ⟨twin, among, identical⟩ (identical ▸ granted twin among)
      rw [given] at carries
      simpa using (List.mem_filter.mp carries).2
    · have untouched := ended.untouched fun other made same _ => begun ⟨other, made, same⟩
      rw [untouched, listed channel member] at carries
      refine Bool.eq_false_iff.mpr fun struck => begun ⟨channel, ?_, rfl⟩
      rw [all]
      exact List.mem_filter.mpr ⟨member, List.any_eq_true.mpr ⟨id, carries, struck⟩⟩
  · intro id clean
    refine ended.untouched fun channel member same _ => ?_
    rw [all] at member
    obtain ⟨member, struck⟩ := List.mem_filter.mp member
    obtain ⟨stream, carries, struck⟩ := List.any_eq_true.mp struck
    rw [← listed channel member, same] at carries
    rw [clean stream carries] at struck
    exact nomatch struck

/-- An execution that has nothing to change changes nothing. -/
theorem Ended.idle (nothing : struckChannels around start.store threshold = []) :
    last.carried = start.carried ∧ last.store = start.store ∧ Note.calls last.notes = [] := by
  have begun := ended.begun
  rw [due_eq keyed, nothing] at begun
  have made := List.prefix_nil.mp begun
  subst made
  have forgotten : forgotten = [] := by
    refine List.eq_nil_iff_forall_not_mem.mpr fun id member => ?_
    obtain ⟨channel, none, -⟩ := (ended.forgotten_iff keyed id).mp member
    exact nomatch none
  subst forgotten
  refine ⟨ended.stand.carried, ?_, ended.stand.calls⟩
  rw [ended.stand.store, storeAfter_nil]

/-- The end of an execution is a removal of struck streams. -/
theorem Ended.removal : Removal around threshold start made forgotten last where
  begun := due_eq keyed threshold ▸ ended.begun
  all fresh unasked := due_eq keyed threshold ▸ ended.all unasked fresh
  early := ended.early
  late := ended.stand.late
  calls := ended.calls keyed
  ascending := ended.ascending
  forgotten_iff := ended.forgotten_iff keyed
  store := ended.get?_store
  given channel member granted := ended.given keyed ⟨channel, member, rfl⟩ granted
  untouched id others := ended.untouched others
  cleared fresh unasked granted works channels listing listed := by
    have all := ended.all unasked fresh
    rw [due_eq keyed, struckChannels, works, listing] at all
    exact ended.cleared keyed (fun channel _ => granted channel.id) all listed
  idle nothing := ended.idle keyed (struckChannels_eq_nil keyed nothing)

end

/-- **A cleanup takes out the struck streams, and nothing else.** Whatever is in the store,
whichever pages the listing has, whichever channels cannot be changed and calls to the store fail,
and whenever the task is asked to stop: the execution comes to its end, and what it leaves behind is
a removal of struck streams. -/
theorem run_removes_struck (around : Circumstances) (settings : CleanupSettings) (size : UInt32)
    (cell : TaskCell) (store : Memory) (carried : Int → List Int) (keyed : store.Keyed) :
    Settles (surroundings around)
      (fun _ last => ∃ made forgotten,
        Removal around settings.threshold { cell, store, carried } made forgotten last)
      (onSite (run settings size)) { cell, store, carried } := by
  let start : Site := { cell, store, carried }
  have stand : Stand around start (start.store.struckIds settings.threshold) [] [] 1 start :=
    { calls := rfl
      carried := rfl
      store := (storeAfter_nil around store).symm
      stopped := ⟨.inl, fun either => either.resolve_right nofun⟩
      late := Nat.zero_le 1 }
  refine settles_of_ensures (answered around) ((ensures_run settings size stand).mono ?_)
  rintro report last ⟨made, forgotten, ended⟩
  exact ⟨made, forgotten, ended.removal keyed⟩

/-- A remote with one channel, which carries a stream twice and another one in between, and where
nothing fails. -/
def oneChannel : Circumstances where
  pages _ := .ok { results := [⟨1, "News", none, [7, 8, 7]⟩] }
  refusal _ := none
  fault _ := none
  now := default

/-- A store after two failures of one stream in a row. -/
def twoFailures : Memory :=
  .after [(default, .recordFailure 7 .failed none), (default, .recordFailure 7 .timeout none)]

/-- An execution that has something to do comes to its end. -/
theorem run_removes_struck_of_twoFailures :
    twoFailures.Keyed ∧ (struckChannels oneChannel twoFailures 2).map (·.id) = [1] ∧
      Settles (surroundings oneChannel)
        (fun _ last => ∃ made forgotten,
          Removal oneChannel 2 { cell := {}, store := twoFailures, carried := fun _ => [7, 8, 7] }
            made forgotten last)
        (onSite (run ⟨2⟩ 50)) { cell := {}, store := twoFailures, carried := fun _ => [7, 8, 7] } := by
  refine ⟨Memory.keyed_after _, rfl, ?_⟩
  exact run_removes_struck oneChannel ⟨2⟩ 50 {} twoFailures (fun _ => [7, 8, 7]) (Memory.keyed_after _)

end StreamWatch.Cleanup
