/-
**Tasks that go through items account for what they do.**

A cleanup goes through channels and a refresh through guide sources, in the same way: before each item the task looks
whether it was asked to stop. Whatever the remote and the store answer, and whenever the task is asked to stop, every
item that was begun is finished and counted as one, none is begun after the task was asked to stop, and the report
tells all that.

* `Round`: where a task stands, and how many lines there are to tell;
* `GoesThrough`, `ensures_through`: going through items;
* `Reported`, `Reported.accounts`: what is reported in the end;
* `Cleanup.ensures_reported`, `GuideRefresh.ensures_reported`: what the two tasks come to.
-/

import StreamWatch.Proofs.Remote.Pages
import StreamWatch.Proofs.Task.Sheet
import StreamWatch.Task.GuideRefresh

namespace StreamWatch

open Program TaskReport

theorem onSheet_bind {α β : Type} (first : Work TaskCell α) (next : α → Work TaskCell β) :
    onSheet (first >>= next) = onSheet first >>= fun value => onSheet (next value) :=
  zoom_bind _ _ first next

theorem ensures_onSheet {α β : Type} {first : Work TaskCell α} {next : α → Work TaskCell β} {sheet : Sheet}
    {middle : α → Sheet → Prop} {goal : β → Sheet → Prop} (begun : (onSheet first).Ensures anyone middle sheet)
    (rest : ∀ value later, middle value later → (onSheet (next value)).Ensures anyone goal later) :
    (onSheet (first >>= next)).Ensures anyone goal sheet := by
  rw [onSheet_bind]
  exact ensures_bind (begun.mono rest)

/-! ### Rounds -/

/-- Where a task stands that has so many lines to tell of items that failed, and has not tried in vain to have
runs of failures forgotten. -/
structure Round (items total left lines : Nat) (isAmid : Bool) (sheet : Sheet) : Prop
    extends Underway items total left isAmid sheet where
  failed : sheet.cell.progress.failed = lines
  unfailed : sheet.notes.resetFailed = false

section
variable {items total left lines : Nat} {isAmid : Bool} {sheet : Sheet}

/-- What the task writes has to do neither with what the store told nor with what it failed to do. -/
theorem Notes.kept_acted (notes : Notes) (before after : TaskCell) :
    (notes.acted before after).struck = notes.struck ∧
      (notes.acted before after).resetFailed = notes.resetFailed := by
  have begin : notes.begin.struck = notes.struck ∧ notes.begin.resetFailed = notes.resetFailed := by
    unfold Notes.begin
    split <;> exact ⟨rfl, rfl⟩
  unfold Notes.acted
  split
  · exact begin
  · split
    · split
      · exact ⟨rfl, rfl⟩
      · exact begin
    · exact ⟨rfl, rfl⟩

theorem stable_round : Stable anyone (Round items total left lines isAmid) := by
  rintro sheet after rfl round
  exact { round with toUnderway := round.toUnderway.stop }

theorem Unbegun.round (unbegun : Unbegun sheet) (status : String) :
    Round 0 0 0 0 false (sheet.put (sheet.cell.start status)) :=
  ⟨unbegun.start status, rfl, (Notes.kept_acted ..).2.trans unbegun.resetFailed⟩

theorem Round.keeps (round : Round items total left lines isAmid sheet)
    (idle : isAmid = true ∨ sheet.cell.isCancelled = true ∨ left = 0) {cell : TaskCell}
    (same : SameCounts cell sheet.cell) : Round items total left lines isAmid (sheet.put cell) :=
  ⟨round.toUnderway.keeps idle same, (congrArg Tally.failed same.tally).trans round.failed,
    (Notes.kept_acted ..).2.trans round.unfailed⟩

theorem Round.list (round : Round items 0 0 lines false sheet) (update : ProgressUpdate)
    (tells : update.total = some items) :
    Round items items items lines false (sheet.put (sheet.cell.update update)) :=
  ⟨round.toUnderway.list update tells, round.failed, (Notes.kept_acted ..).2.trans round.unfailed⟩

theorem Round.begin (round : Round items total (left + 1) lines false sheet) (goesOn : sheet.cell.isCancelled = false) :
    Round items total left lines true (sheet.put sheet.cell) :=
  ⟨round.toUnderway.begin goesOn, round.failed, (Notes.kept_acted ..).2.trans round.unfailed⟩

theorem Round.finish (round : Round items total left lines true sheet) {succeeded failed skipped : Nat}
    (one : succeeded + failed + skipped = 1) :
    Round items total left (lines + failed) false (sheet.put (sheet.cell.count succeeded failed skipped)) :=
  ⟨round.toUnderway.finish one, congrArg (· + failed) round.failed, (Notes.kept_acted ..).2.trans round.unfailed⟩

theorem Unbegun.ensures_start {α : Type} {goal : α → Sheet → Prop} {next : Unit → Work TaskCell α}
    (unbegun : Unbegun sheet) (status : String)
    (rest : ∀ later, Round 0 0 0 0 false later → (onSheet (next ⟨⟩)).Ensures anyone goal later) :
    (onSheet (change (·.start status) >>= next)).Ensures anyone goal sheet :=
  ensures_act stable_unbegun unbegun fun _ unbegun => rest _ (unbegun.round status)

/-- What is asked amid an item, anything but a listing, changes nothing of where the task stands. -/
theorem Round.ensures_remote (round : Round items total left lines true sheet) (call : RemoteCall)
    (unlisted : ∀ reply notes, Notes.listing call reply notes = notes) :
    (onSheet (Work.remote call)).Ensures anyone (fun _ later => Round items total left lines true later) sheet := by
  refine ensures_ask stable_round round fun seen round reply after answered => ?_
  obtain ⟨value, rfl, rfl⟩ := answered
  have heard := round.toUnderway.heard (unlisted value seen.notes)
  refine ⟨value, rfl, ensures_done stable_round ⟨heard, round.failed, ?_⟩⟩
  show (Notes.listing call value _).resetFailed = false
  rw [unlisted]
  unfold Notes.begin
  split
  · split <;> exact round.unfailed
  · exact round.unfailed

/-- What the task writes besides its counts while it begins no item. -/
theorem Round.ensures_write {α : Type} {goal : α → Sheet → Prop} {f : TaskCell → TaskCell}
    {next : Unit → Work TaskCell α} (round : Round items total left lines isAmid sheet)
    (idle : isAmid = true ∨ left = 0) (same : ∀ cell, SameCounts (f cell) cell)
    (rest : ∀ later, Round items total left lines isAmid later → (onSheet (next ⟨⟩)).Ensures anyone goal later) :
    (onSheet (change f >>= next)).Ensures anyone goal sheet := by
  refine ensures_act stable_round round fun seen round => ?_
  exact rest _ (round.keeps (idle.imp id .inr) (same _))

end

theorem sameCounts_update (update : ProgressUpdate) (unsaid : update.total = none) (cell : TaskCell) :
    SameCounts (cell.update update) cell where
  isCancelled := rfl
  total := by
    show update.total.getD _ = _
    rw [unsaid]
    rfl
  tally := rfl

theorem sameCounts_self (cell : TaskCell) : SameCounts cell cell := ⟨rfl, rfl, rfl⟩

/-! ### Going through items -/

/-- Whether a program goes through items, each of them in some way, until the task is asked to stop. -/
structure GoesThrough {ι Log : Type} (item : Log → ι → Work TaskCell Log)
    (through : Log → List ι → Work TaskCell (Bool × Log)) : Prop where
  nil : ∀ log, through log [] = pure (false, log)
  cons : ∀ log first rest, through log (first :: rest) = look (·.isCancelled) >>= fun isStopped =>
    if isStopped then pure (true, log) else item log first >>= fun log => through log rest

/-- Whether a task has gone through its items, or was asked to stop with some left. -/
structure Through (items lines : Nat) (isStopped : Bool) (sheet : Sheet) : Prop where
  round : ∃ left, Round items items left lines false sheet ∧ (isStopped = true ↔ 0 < left)
  asked : isStopped = true → sheet.cell.isCancelled = true

theorem stable_through {items lines : Nat} {isStopped : Bool} : Stable anyone (Through items lines isStopped) := by
  rintro sheet after rfl ⟨⟨left, round, some⟩, asked⟩
  exact ⟨⟨left, stable_round _ _ rfl round, some⟩, fun _ => rfl⟩

/-- **A task that goes through items** begins every one of them, unless it is asked to stop. -/
theorem ensures_through {ι Log : Type} {item : Log → ι → Work TaskCell Log}
    {through : Log → List ι → Work TaskCell (Bool × Log)} (goes : GoesThrough item through) (lines : Log → Nat)
    {items : Nat}
    (ensures : ∀ log first left sheet, Round items items left (lines log) true sheet →
      (onSheet (item log first)).Ensures anyone (fun log later => Round items items left (lines log) false later) sheet)
    (all : List ι) (log : Log) {sheet : Sheet} (round : Round items items all.length (lines log) false sheet) :
    (onSheet (through log all)).Ensures anyone (fun ended later => Through items (lines ended.2) ended.1 later)
      sheet := by
  -- the items still to be gone through are those that the round has left
  induction all generalizing log sheet with
  | nil =>
    rw [goes.nil]
    exact ensures_done stable_through ⟨⟨0, round, iff_of_false Bool.false_ne_true (Nat.lt_irrefl 0)⟩, nofun⟩
  | cons first rest ih =>
    rw [goes.cons]
    refine ensures_act stable_round round fun seen round => ?_
    show (onSheet (if seen.cell.isCancelled = true then _ else _)).Ensures _ _ _
    cases asked : seen.cell.isCancelled with
    | true =>
      have still := round.keeps (.inr (.inl asked)) (sameCounts_self _)
      exact ensures_done stable_through ⟨⟨_, still, iff_of_true rfl (Nat.succ_pos _)⟩, fun _ => asked⟩
    | false =>
      rw [if_neg Bool.false_ne_true]
      exact ensures_onSheet (ensures log first _ _ (round.begin asked)) fun log later round => ih log round

/-! ### What is reported -/

/-- Whether a task is done with its items, or was asked to stop with some left, with so many lines to tell. One that may
try to have runs of failures forgotten has a line to tell of that when it tried in vain. -/
structure Settled (mayReset : Bool) (lines : Nat) (isStopped : Bool) (sheet : Sheet) : Prop where
  underway : ∃ items left, Underway items items left false sheet ∧ (isStopped = true ↔ 0 < left)
  asked : isStopped = true → sheet.cell.isCancelled = true
  lines : sheet.cell.progress.failed + (mayReset && sheet.notes.resetFailed).toNat = lines

/-- What is reported of an execution: that it was kept from its work, with nothing listed or begun, or what it came
to. -/
inductive Reported (mayReset : Bool) (report : TaskReport) (sheet : Sheet) : Prop
  | hindered (fault : TaskFault) (message : String) (hinders : fault ∈ hindrances)
      (fatal : report = .fatal fault message) (none : Round 0 0 0 0 false sheet)
  | ended {lines : Nat} {isStopped : Bool} (settled : Settled mayReset lines isStopped sheet)
      (tells : Tells sheet.cell.progress isStopped lines report)

section
variable {mayReset isStopped : Bool} {report : TaskReport} {lines items : Nat} {sheet : Sheet}

theorem stable_settled : Stable anyone (Settled mayReset lines isStopped) := by
  rintro sheet after rfl ⟨⟨items, left, underway, some⟩, -, told⟩
  exact ⟨⟨items, left, underway.stop, some⟩, fun _ => rfl, told⟩

theorem stable_reported : Stable anyone (Reported mayReset report) := by
  rintro sheet after rfl (⟨fault, message, hinders, fatal, none⟩ | ⟨settled, tells⟩)
  · exact .hindered fault message hinders fatal (stable_round _ _ rfl none)
  · exact .ended (stable_settled _ _ rfl settled) tells

theorem Through.settled (through : Through items lines isStopped sheet) (mayReset : Bool) :
    Settled mayReset lines isStopped sheet := by
  obtain ⟨⟨left, round, some⟩, asked⟩ := through
  refine ⟨⟨items, left, round.toUnderway, some⟩, asked, ?_⟩
  rw [round.unfailed, Bool.and_false, round.failed]
  rfl

theorem Round.settled (round : Round 0 0 0 0 false sheet) (mayReset : Bool) : Settled mayReset 0 false sheet :=
  Through.settled ⟨⟨0, round, iff_of_false Bool.false_ne_true (Nat.lt_irrefl 0)⟩, nofun⟩ mayReset

/-- What the task still writes then begins no item. -/
theorem Settled.keeps (settled : Settled mayReset lines isStopped sheet) {cell : TaskCell}
    (same : SameCounts cell sheet.cell) : Settled mayReset lines isStopped (sheet.put cell) := by
  obtain ⟨⟨items, left, underway, some⟩, asked, told⟩ := settled
  have idle : sheet.cell.isCancelled = true ∨ left = 0 := by
    cases isStopped with
    | true => exact .inl (asked rfl)
    | false => exact .inr (Nat.eq_zero_of_not_pos fun more => Bool.false_ne_true (some.mpr more))
  refine ⟨⟨items, left, underway.keeps (.inr idle) same, some⟩, fun stopped => ?_, ?_⟩
  · exact same.isCancelled.trans (asked stopped)
  · show cell.progress.failed + (mayReset && (sheet.notes.acted sheet.cell cell).resetFailed).toNat = lines
    rw [(Notes.kept_acted ..).2, ← told]
    exact congrArg (fun tally : Tally => tally.failed + _) same.tally

theorem Settled.ensures_report (settled : Settled mayReset lines isStopped sheet) (tell : Progress → TaskReport)
    (tells : ∀ p, Tells p isStopped lines (tell p)) :
    (onSheet (look (·.progress) >>= fun p => pure (tell p))).Ensures anyone
      (fun report later => Settled mayReset lines isStopped later ∧ Tells later.cell.progress isStopped lines report)
      sheet := by
  refine ensures_act stable_settled settled fun seen settled => ?_
  refine ensures_done (stable_settled.and ?_) ⟨settled.keeps (sameCounts_self _), tells _⟩
  rintro seen later rfl tells
  exact tells

/-- **What is reported accounts for what was done.** -/
theorem Reported.accounts (reported : Reported mayReset report sheet) :
    Accounts (report.failed + (mayReset && sheet.notes.resetFailed).toNat) report := by
  cases reported with
  | hindered fault message hinders fatal none =>
    rw [fatal, none.unfailed, Bool.and_false]
    exact accounts_fatal hinders message
  | ended settled tells =>
    obtain ⟨⟨items, left, underway, some⟩, asked, told⟩ := settled
    have processed : sheet.cell.progress.processed + 0 + left = items := underway.processed
    have said := underway.said
    rw [(Tally.mk.inj tells.tally).2.1, told]
    refine tells.accounts (by omega) ?_
    rw [some]
    omega

end

/-! ### Listings -/

/-- Before the task has said how many items there are, a listing changes no more than how many were listed. -/
theorem Round.heard_listing {items lines : Nat} {sheet : Sheet} (round : Round items 0 0 lines false sheet)
    (call : RemoteCall) (reply : call.Reply) :
    sheet.heard (.remote call) reply = ⟨sheet.cell, sheet.notes.listing call reply⟩ := by
  have unopened : sheet.notes.isListed = false := round.opened
  show Sheet.mk sheet.cell (Notes.listing call reply (if sheet.notes.isListed = true then _ else _)) = _
  rw [unopened]
  rfl

/-- Before the task has said how many items there are, any number of them may be listed. -/
theorem Round.relist {items lines : Nat} {sheet : Sheet} (round : Round items 0 0 lines false sheet) (more : Nat) :
    Round more 0 0 lines false ⟨sheet.cell, { sheet.notes with items := more }⟩ :=
  { round with toHeedful := ⟨round.known, round.inTime⟩, listed := rfl }

/-! ### Cleanups -/

namespace Cleanup

section
variable {items left total lines : Nat} {sheet : Sheet}

/-- How many channels a listing gives that carry struck streams. -/
def affectedCount (struck : List Int) : Except RemoteError (List Channel) → Nat
  | .ok channels => (affected struck channels).length
  | .error _ => 0

/-- Whether the task waits for its channels, of which so many were listed so far. -/
structure Listing (struck : List Int) (items : Nat) (sheet : Sheet) : Prop extends Round items 0 0 0 false sheet where
  struck : sheet.notes.struck = struck

theorem stable_listing {struck : List Int} : Stable anyone (Listing struck items) := by
  rintro sheet after rfl ⟨round, known⟩
  exact ⟨stable_round _ _ rfl round, known⟩

/-- How many channels were listed that carry struck streams, once one more page was asked for. -/
def countedWith (struck : List Int) (items : Nat) : Except RemoteError (Page Channel) → Nat
  | .ok page => items + (affected struck page.results).length
  | .error _ => 0

theorem Listing.ensures_page {struck : List Int} (listing : Listing struck items sheet) (number : Nat)
    (size : UInt32) :
    (onSheet (Work.remote (.channels number size))).Ensures anyone
      (fun reply later => Listing struck (countedWith struck items reply) later) sheet := by
  refine ensures_ask stable_listing listing fun seen listing reply after answered => ?_
  obtain ⟨reply, rfl, rfl⟩ := answered
  refine ⟨reply, rfl, ensures_done stable_listing ?_⟩
  rw [listing.heard_listing]
  cases reply with
  | error error => exact ⟨listing.relist 0, listing.struck⟩
  | ok page =>
    have counted : seen.notes.items + (affected seen.notes.struck page.results).length =
        countedWith struck items (.ok page) := by
      rw [listing.listed, listing.struck]
      rfl
    rw [← counted]
    exact ⟨listing.relist _, listing.struck⟩

theorem ensures_walkFrom (struck : List Int) (size : UInt32) (pages number : Nat) (before : List Channel)
    (listing : Listing struck (affected struck before).length sheet) :
    (Pages.walkFrom (fun number => onSheet (Work.remote (.channels number size))) pages number before).Ensures anyone
      (fun reply later => Listing struck (affectedCount struck reply) later) sheet := by
  induction pages generalizing number before sheet with
  | zero => exact ensures_done stable_listing listing
  | succ pages ih =>
    refine ensures_bind ((listing.ensures_page number size).mono fun reply later listing => ?_)
    cases reply with
    | error error => exact ensures_done stable_listing listing
    | ok page =>
      have counted : countedWith struck (affected struck before).length (.ok page) =
          (affected struck (before ++ page.results)).length := by
        rw [affected.eq_1 struck (before ++ page.results), List.filter_append, List.length_append]
        rfl
      rw [counted] at listing
      show (if _ then _ else _ : Work Sheet _).Ensures _ _ _
      split
      · exact ih _ _ listing
      · exact ensures_done stable_listing listing

/-- The channels there are, of which those are the items that carry struck streams. -/
theorem Listing.ensures_channels {struck : List Int} (listing : Listing struck 0 sheet) (size : UInt32) :
    (onSheet (Pages.channels size)).Ensures anyone
      (fun reply later => Listing struck (affectedCount struck reply) later) sheet := by
  show (Program.zoom _ _ (Pages.walkFrom _ _ _ _)).Ensures _ _ _
  rw [Pages.zoom_walkFrom]
  exact ensures_walkFrom struck size _ _ [] listing

theorem runChannel_counts (struck : List Int) (log : CleanupLog) (channel : Channel)
    (round : Round items total left log.errors.length true sheet) :
    (onSheet (runChannel struck log channel)).Ensures anyone
      (fun log later => Round items total left log.errors.length false later) sheet := by
  unfold runChannel
  refine round.ensures_write (.inl rfl) (sameCounts_update _ rfl) fun later round => ?_
  generalize channel.streams.partition struck.contains = parts
  obtain ⟨dropped, kept⟩ := parts
  refine ensures_onSheet (round.ensures_remote _ fun _ _ => rfl) fun reply later round => ?_
  cases reply with
  | ok =>
    refine ensures_act stable_round round fun seen round => ?_
    exact ensures_done stable_round (round.finish (show 1 + 0 + 0 = 1 from rfl))
  | error error =>
    refine ensures_act stable_round round fun seen round => ?_
    refine ensures_done stable_round ?_
    show Round _ _ _ (log.errors ++ [_]).length _ _
    rw [List.length_append]
    exact round.finish (show 0 + 1 + 0 = 1 from rfl)

theorem goesThrough (struck : List Int) : GoesThrough (runChannel struck) (runChannels struck) :=
  ⟨fun _ => rfl, fun _ _ _ => rfl⟩

/-- **The streams that were taken out of channels are forgotten**, or there is a line to tell that this failed. -/
theorem resetRemoved_settles {isStopped : Bool} {log : CleanupLog}
    (through : Through items log.errors.length isStopped sheet) :
    (onSheet (resetRemoved log)).Ensures anyone
      (fun log later => Settled true log.errors.length isStopped later) sheet := by
  unfold resetRemoved
  split
  · exact ensures_done stable_settled (through.settled true)
  · rw [onSheet_bind]
    refine ensures_bind (ensures_ask stable_through through fun seen through reply after answered => ?_)
    obtain ⟨reply, rfl, rfl⟩ := answered
    refine ⟨reply, rfl, fun later meanwhile => ?_⟩
    cases reply with
    | ok count => exact ensures_done stable_settled (stable_settled.meanwhile meanwhile (through.settled true))
    | error error =>
      refine ensures_done stable_settled (stable_settled.meanwhile meanwhile ?_)
      obtain ⟨⟨left, round, some⟩, asked⟩ := through
      have underway : Underway items items left false (seen.heard (.store (.reset log.removed.keys)) (.error error)) :=
        { round.toUnderway with toHeedful := ⟨round.known, round.inTime⟩ }
      refine ⟨⟨items, left, underway, some⟩, asked, ?_⟩
      show seen.cell.progress.failed + 1 = (log.errors ++ [_]).length
      rw [round.failed, List.length_append]
      rfl

theorem idle_settles (round : Round 0 0 0 0 false sheet) (message : String) :
    (onSheet (idle message)).Ensures anyone
      (fun report later => Settled true 0 false later ∧ report.Tells later.cell.progress false 0) sheet := by
  unfold idle
  refine round.ensures_write (.inr rfl) (sameCounts_update _ rfl) fun later round => ?_
  exact (round.settled true).ensures_report _ fun p => tells_ofProgress p message

theorem runStruck_reports {struck : List Int} (listing : Listing struck 0 sheet) (size : UInt32) :
    (onSheet (runStruck size struck)).Ensures anyone (Reported true) sheet := by
  unfold runStruck
  refine ensures_act stable_listing listing fun seen listing => ?_
  have said := listing.toRound.keeps (.inr (.inr rfl)) (sameCounts_update { status := some "loading channels" } rfl _)
  have listing : Listing struck 0 (seen.put (seen.cell.update { status := some "loading channels" })) :=
    ⟨said, (Notes.kept_acted ..).1.trans listing.struck⟩
  show (onSheet (Pages.channels size >>= _)).Ensures _ _ _
  refine ensures_onSheet (listing.ensures_channels size) fun reply later listing => ?_
  cases reply with
  | error error => exact ensures_done stable_reported (.hindered _ _ (by decide) rfl listing.toRound)
  | ok channels =>
    refine ensures_act stable_listing listing fun seen listing => ?_
    have round := listing.list
      { status := some "updating channels", total := some (affected struck channels).length } rfl
    show (onSheet (runChannels struck {} (affected struck channels) >>= _)).Ensures _ _ _
    refine ensures_onSheet (ensures_through (goesThrough struck) (fun log => log.errors.length)
      (fun log channel _ _ round => runChannel_counts struck log channel round) _ _ round) ?_
    rintro ⟨isStopped, log⟩ later through
    refine ensures_onSheet (resetRemoved_settles through) fun log later settled => ?_
    cases isStopped with
    | true =>
      refine (settled.ensures_report _ fun p => ?_).mono fun report later ended => .ended ended.1 ended.2
      exact ((tells_cancelled p _).withDetail (by decide) _).withErrors _
    | false =>
      refine ensures_act stable_settled settled fun seen settled => ?_
      have settled := settled.keeps (sameCounts_update { status := some "completed", item := some none } rfl _)
      refine (settled.ensures_report _ fun p => ?_).mono fun report later ended => .ended ended.1 ended.2
      exact (((tells_ofProgress p _).withDetail (by decide) _).withDetail (by decide) _).withErrors _

/-- **A cleanup reports what it did**, whatever it is answered and whenever it is asked to stop. -/
theorem ensures_reported (settings : CleanupSettings) (size : UInt32) (unbegun : Unbegun sheet) :
    (onSheet (run settings size)).Ensures anyone (Reported true) sheet := by
  unfold run
  refine unbegun.ensures_start _ fun later round => ?_
  show (onSheet (if settings.threshold = 0 then _ else _)).Ensures _ _ _
  split
  · show (onSheet (idle _ >>= _)).Ensures _ _ _
    refine ensures_onSheet (idle_settles round _) fun report later ⟨settled, tells⟩ => ?_
    exact ensures_done stable_reported (.ended settled (tells.withDetail (by decide) _))
  · show (onSheet (Work.store (.listStruck settings.threshold) >>= _)).Ensures _ _ _
    rw [onSheet_bind]
    refine ensures_bind (ensures_ask stable_round round fun seen round reply after answered => ?_)
    obtain ⟨reply, rfl, rfl⟩ := answered
    refine ⟨reply, rfl, fun later meanwhile => ?_⟩
    cases reply with
    | error error =>
      exact ensures_done stable_reported (.hindered _ _ (by decide) rfl (stable_round.meanwhile meanwhile round))
    | ok records =>
      have told : Listing (records.map (·.streamId)) 0
          (seen.heard (.store (.listStruck settings.threshold)) (.ok records)) :=
        ⟨{ round with toHeedful := ⟨round.known, round.inTime⟩ }, rfl⟩
      have listing := stable_listing.meanwhile meanwhile told
      cases records with
      | nil =>
        exact (idle_settles listing.toRound _).mono fun report later ended => .ended ended.1 ended.2
      | cons record rest => exact runStruck_reports listing size

end

end Cleanup

/-! ### Refreshes of guide sources -/

namespace GuideRefresh

section
variable {items left total lines : Nat} {sheet : Sheet}

/-- What is asked while a source is refreshed changes nothing of where the task stands. -/
theorem ensures_unheard (round : Round items total left lines true sheet) (ask : Ask)
    (unheard : ∀ reply notes, Notes.heard ask reply notes = notes) :
    (onSheet (Program.get ask)).Ensures anyone (fun _ later => Round items total left lines true later) sheet := by
  refine ensures_ask stable_round round fun seen round reply after answered => ?_
  obtain ⟨value, rfl, rfl⟩ := answered
  refine ⟨value, rfl, ensures_done stable_round ?_⟩
  unfold Sheet.heard
  rw [unheard]
  exact round

theorem ensures_watch (settings : RefreshSettings) (source : GuideSource) (since looks : Nat)
    (round : Round items total left lines true sheet) :
    (onSheet (watch settings source since looks)).Ensures anyone
      (fun _ later => Round items total left lines true later) sheet := by
  induction looks generalizing sheet with
  | zero => exact ensures_done stable_round round
  | succ looks ih =>
    refine ensures_onSheet (ensures_unheard round .clock fun _ _ => rfl) fun now later round => ?_
    show (onSheet (if _ then _ else _)).Ensures _ _ _
    split
    · exact ensures_done stable_round round
    · show (onSheet (Work.sleep settings.pollInterval >>= _)).Ensures _ _ _
      refine ensures_onSheet (ensures_unheard round (.sleep _) fun _ _ => rfl) fun _ later round => ?_
      refine ensures_onSheet (round.ensures_remote (.guideSource source.id) fun _ _ => rfl) ?_
      intro reply later round
      cases reply with
      | error error => exact ih round
      | ok current =>
        refine ensures_onSheet (ensures_unheard round .clock fun _ _ => rfl) fun now later round => ?_
        cases verdict? settings source.updatedAt current (now - since) with
        | none => exact ih round
        | some verdict => exact ensures_done stable_round round

theorem ensures_refresh (settings : RefreshSettings) (source : GuideSource)
    (round : Round items total left lines true sheet) :
    (onSheet (refresh settings source)).Ensures anyone (fun _ later => Round items total left lines true later)
      sheet := by
  unfold refresh
  refine ensures_onSheet (round.ensures_remote (.refreshGuideSource source.id) fun _ _ => rfl) ?_
  intro reply later round
  cases reply with
  | error error => exact ensures_done stable_round round
  | ok =>
    refine ensures_onSheet (ensures_unheard round .clock fun _ _ => rfl) fun now later round => ?_
    exact ensures_watch settings source now _ round

theorem runSource_counts (settings : RefreshSettings) (log : GuideLog) (source : GuideSource)
    (round : Round items total left log.errors.length true sheet) :
    (onSheet (runSource settings log source)).Ensures anyone
      (fun log later => Round items total left log.errors.length false later) sheet := by
  unfold runSource
  cases source.isActive with
  | false =>
    refine ensures_act stable_round round fun seen round => ?_
    exact ensures_done stable_round (round.finish (show 0 + 0 + 1 = 1 from rfl))
  | true =>
    refine round.ensures_write (.inl rfl) (sameCounts_update _ rfl) fun later round => ?_
    refine ensures_onSheet (ensures_refresh settings source round) fun reply later round => ?_
    cases reply with
    | ok verdict =>
      refine ensures_act stable_round round fun seen round => ?_
      refine ensures_done stable_round ?_
      have lines : (if verdict = .assumed then { log with assumed := log.assumed ++ [source.id] } else log).errors =
          log.errors := by
        split <;> rfl
      rw [lines]
      exact round.finish (show 1 + 0 + 0 = 1 from rfl)
    | error fault =>
      refine ensures_act stable_round round fun seen round => ?_
      refine ensures_done stable_round ?_
      show Round _ _ _ (log.errors ++ [_]).length _ _
      rw [List.length_append]
      exact round.finish (show 0 + 1 + 0 = 1 from rfl)

theorem goesThrough (settings : RefreshSettings) : GoesThrough (runSource settings) (runSources settings) :=
  ⟨fun _ => rfl, fun _ _ _ => rfl⟩

/-- **A refresh reports what it did**, whatever it is answered and whenever it is asked to stop. -/
theorem ensures_reported (settings : RefreshSettings) (unbegun : Unbegun sheet) :
    (onSheet (run settings)).Ensures anyone (Reported false) sheet := by
  unfold run
  refine unbegun.ensures_start _ fun later round => ?_
  cases settings.check with
  | error message => exact ensures_done stable_reported (.hindered _ _ (by decide) rfl round)
  | ok =>
    show (onSheet (Work.remote .guideSources >>= _)).Ensures _ _ _
    rw [onSheet_bind]
    refine ensures_bind (ensures_ask stable_round round fun seen round reply after answered => ?_)
    obtain ⟨reply, rfl, rfl⟩ := answered
    refine ⟨reply, rfl, fun later meanwhile => ?_⟩
    rw [round.heard_listing] at meanwhile
    cases reply with
    | error error =>
      exact ensures_done stable_reported (.hindered _ _ (by decide) rfl (stable_round.meanwhile meanwhile round))
    | ok sources =>
      have round := stable_round.meanwhile meanwhile (round.relist sources.length)
      refine ensures_act stable_round round fun seen round => ?_
      have round := round.list { status := some "refreshing", total := some sources.length } rfl
      show (onSheet (runSources settings {} sources >>= _)).Ensures _ _ _
      refine ensures_onSheet (ensures_through (goesThrough settings) (fun log => log.errors.length)
        (fun log source _ _ round => runSource_counts settings log source round) _ _ round) ?_
      rintro ⟨isStopped, log⟩ later through
      have settled := through.settled false
      cases isStopped with
      | true =>
        refine (settled.ensures_report _ fun p => ?_).mono fun report later ended => .ended ended.1 ended.2
        exact (tells_cancelled p _).withErrors _
      | false =>
        refine ensures_act stable_settled settled fun seen settled => ?_
        have settled := settled.keeps (sameCounts_update { status := some "completed", item := some none } rfl _)
        refine (settled.ensures_report _ fun p => ?_).mono fun report later ended => .ended ended.1 ended.2
        exact ((tells_ofProgress p _).withDetail (by decide) _).withErrors _

end

end GuideRefresh
end StreamWatch
