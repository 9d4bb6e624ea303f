/-
**What can be read of a run at any time.**

The numbers of a progress are written in small steps, and anyone may read them between two of those. Only the run
writes them: at first it leaves alone what an earlier run has left, then it sets all of them back in one step, and
from then on it only adds to them. A question of a run may take a while; when its streams count themselves in the
meantime, there is room for all of them beforehand.

* `Progress.IsConsistent`, `Progress.Precedes`: what is said of one snapshot, and of two;
* `Tells`: whether a program writes as it should, told along every path through it;
* `tells_told`, `tells_total`, `tells_count`, `tells_quiet`: how that is shown;
* `Telling.step`, `Telling.reaches`: one step of a run that does, and a whole run;
* `truthful_of_tells`: what can be read of such a run.
-/

import StreamWatch.Proofs.Engine.Hall
import StreamWatch.Proofs.Program.Frame

namespace StreamWatch

open Program

/-! ### Snapshots -/

namespace Progress

variable {p later last : Progress} {isCounting : Bool} {left : Nat}

/-- Whether the items that were counted are those that are done with, and no more than there are. -/
structure IsConsistent (p : Progress) : Prop where
  counted : p.current = p.processed
  within : p.current ≤ p.total

/-- Whether no number is any less later. -/
structure Precedes (p later : Progress) : Prop where
  total : p.total ≤ later.total
  current : p.current ≤ later.current
  succeeded : p.succeeded ≤ later.succeeded
  failed : p.failed ≤ later.failed
  skipped : p.skipped ≤ later.skipped

/-- Whether the progress is consistent, and so many items more can be counted. -/
structure HasRoom (left : Nat) (p : Progress) : Prop where
  counted : p.current = p.processed
  room : p.current + left ≤ p.total

/-- What a step of a run may make of the progress, other than to set it back: nothing, or more of it once the run
counts. -/
def Advances (isCounting : Bool) (p later : Progress) : Prop :=
  later = p ∨ isCounting = true ∧ later.IsConsistent ∧ p.Precedes later

theorem Precedes.refl (p : Progress) : p.Precedes p :=
  ⟨Nat.le_refl _, Nat.le_refl _, Nat.le_refl _, Nat.le_refl _, Nat.le_refl _⟩

theorem Precedes.trans (first : p.Precedes later) (second : later.Precedes last) : p.Precedes last where
  total := first.total.trans second.total
  current := first.current.trans second.current
  succeeded := first.succeeded.trans second.succeeded
  failed := first.failed.trans second.failed
  skipped := first.skipped.trans second.skipped

theorem HasRoom.isConsistent (room : p.HasRoom left) : p.IsConsistent :=
  ⟨room.counted, (Nat.le_add_right _ _).trans room.room⟩

theorem IsZero.isConsistent (zero : p.IsZero) : p.IsConsistent := by
  rw [IsZero] at zero
  rw [zero]
  exact ⟨rfl, Nat.le_refl 0⟩

/-- Nothing is less than nothing. -/
theorem IsZero.precedes (zero : p.IsZero) (later : Progress) : p.Precedes later := by
  rw [IsZero] at zero
  rw [zero]
  exact ⟨Nat.zero_le _, Nat.zero_le _, Nat.zero_le _, Nat.zero_le _, Nat.zero_le _⟩

theorem Advances.isConsistent (advances : p.Advances isCounting later) (consistent : p.IsConsistent) :
    later.IsConsistent := by
  rcases advances with rfl | ⟨-, grown, -⟩
  · exact consistent
  · exact grown

theorem Advances.precedes (advances : p.Advances isCounting later) : p.Precedes later := by
  rcases advances with rfl | ⟨-, -, precedes⟩
  · exact .refl _
  · exact precedes

theorem Advances.eq_of_not_counting (advances : p.Advances false later) : later = p :=
  advances.resolve_right fun grown => Bool.noConfusion grown.1

theorem Advances.trans (first : p.Advances isCounting later) (second : later.Advances isCounting last) :
    p.Advances isCounting last := by
  rcases second with rfl | ⟨counting, consistent, precedes⟩
  · exact first
  · exact .inr ⟨counting, consistent, first.precedes.trans precedes⟩

end Progress

namespace Ask

variable {p later : Progress} {isCounting : Bool}

/-- Whether a question may be asked where the progress is such: streams are probed only by a run that counts, and that
has room for all of them. -/
def Suits (isCounting : Bool) (p : Progress) : Ask → Prop
  | probeStreams _ streams => isCounting = true ∧ p.HasRoom streams.length
  | _ => True

/-- What the progress may be while a question is under way, and after it, when it was such at first. -/
def Yields (p later : Progress) : Ask → Prop
  | probeStreams .. => later.IsConsistent ∧ p.Precedes later
  | _ => later = p

theorem suits_of_isPlain {ask : Ask} (plain : ask.IsPlain) : ask.Suits isCounting p := by
  cases ask with
  | probeStreams => exact plain.elim
  | remote | store | probe | sample | sleep | clock | wallClock => trivial

theorem yields_iff_of_isPlain {ask : Ask} (plain : ask.IsPlain) : ask.Yields p later ↔ later = p := by
  cases ask with
  | probeStreams => exact plain.elim
  | remote | store | probe | sample | sleep | clock | wallClock => exact Iff.rfl

end Ask

/-! ### Programs -/

namespace Program

variable {σ τ α β : Type} {read : σ → Progress} {isCounting : Bool} {p : Progress}
  {ends : α → Bool → Progress → Prop}

/-- Whether a program writes the progress as it should that is at first such as is given, and whether it ends as it
should: it leaves the progress alone until it sets it back, whatever it was, and counts from then on. -/
def Tells (read : σ → Progress) (ends : α → Bool → Progress → Prop) : Work σ α → Bool → Progress → Prop
  | done value, isCounting, p => ends value isCounting p
  | act change next, isCounting, p =>
    (isCounting = false ∧ (∀ state, (read (change state)).IsZero) ∧
        ∀ state, (next state).Tells read ends true (read (change state))) ∨
      ∀ state, read state = p → p.Advances isCounting (read (change state)) ∧
        (next state).Tells read ends isCounting (read (change state))
  | ask question next, isCounting, p =>
    question.Suits isCounting p ∧
      ∀ reply later, question.Yields p later → (next reply).Tells read ends isCounting later
  | hold release next, isCounting, p =>
    (∀ state, read (release state) = read state) ∧ next.Tells read ends isCounting p
  | letGo next, isCounting, p => next.Tells read ends isCounting p
  | watch _ action next, isCounting, p =>
    (∀ state, read (action state) = read state) ∧ next.Tells read ends isCounting p
  | unwatch next, isCounting, p => next.Tells read ends isCounting p
  | breakOff, _, _ => True

theorem tells_bind {last : β → Bool → Progress → Prop} {first : Work σ α} {next : α → Work σ β}
    (tells : first.Tells read ends isCounting p)
    (rest : ∀ value isCounting p, ends value isCounting p → (next value).Tells read last isCounting p) :
    (first >>= next).Tells read last isCounting p := by
  show (first.bind next).Tells read last isCounting p
  induction first generalizing isCounting p with
  | done value => exact rest value isCounting p tells
  | act change further ih =>
    rcases tells with ⟨begins, zero, resets⟩ | goesOn
    · exact .inl ⟨begins, zero, fun state => ih state (resets state)⟩
    · exact .inr fun state same => ⟨(goesOn state same).1, ih state (goesOn state same).2⟩
  | ask question further ih => exact ⟨tells.1, fun reply later yields => ih reply (tells.2 reply later yields)⟩
  | hold release further ih => exact ⟨tells.1, ih tells.2⟩
  | letGo further ih => exact ih tells
  | watch period action further ih => exact ⟨tells.1, ih tells.2⟩
  | unwatch further ih => exact ih tells
  | breakOff => trivial

/-- A program over a part of a state writes the progress of the part as it does alone. -/
theorem tells_zoom {get : τ → σ} {put : σ → τ → τ} (puts : ∀ part state, get (put part state) = part)
    {program : Work σ α} (tells : program.Tells read ends isCounting p) :
    (program.zoom get put).Tells (fun state => read (get state)) ends isCounting p := by
  have wrote (part : σ → σ) (state : τ) : read (get (put (part (get state)) state)) = read (part (get state)) :=
    congrArg read (puts _ _)
  induction program generalizing isCounting p with
  | done value => exact tells
  | act change rest ih =>
    rcases tells with ⟨begins, zero, resets⟩ | goesOn
    · refine .inl ⟨begins, fun state => ?_, fun state => ?_⟩
      · simp only [wrote]
        exact zero (get state)
      · simp only [wrote]
        exact ih _ (resets (get state))
    · refine .inr fun state same => ?_
      simp only [wrote]
      exact ⟨(goesOn (get state) same).1, ih _ (goesOn (get state) same).2⟩
  | ask question rest ih => exact ⟨tells.1, fun reply later yields => ih reply (tells.2 reply later yields)⟩
  | hold release rest ih => exact ⟨fun state => (wrote release state).trans (tells.1 _), ih tells.2⟩
  | letGo rest ih => exact ih tells
  | watch period action rest ih => exact ⟨fun state => (wrote action state).trans (tells.1 _), ih tells.2⟩
  | unwatch rest ih => exact ih tells
  | breakOff => trivial

section
variable {change : σ → σ} {next : Unit → Work σ α} {left : Nat}

/-- A change that leaves the progress alone. -/
theorem tells_aside (writes : ∀ state, read (change state) = read state)
    (rest : (next ⟨⟩).Tells read ends isCounting p) :
    (Program.change change >>= next).Tells read ends isCounting p := by
  refine .inr fun state same => ?_
  rw [writes, same]
  exact ⟨.inl rfl, rest⟩

/-- The change with which a run begins to count. -/
theorem tells_reset {status : String} (writes : ∀ state, read (change state) = { status })
    (rest : ∀ p : Progress, p.HasRoom 0 → p.total = 0 → (next ⟨⟩).Tells read ends true p) :
    (Program.change change >>= next).Tells read ends false p := by
  refine .inl ⟨rfl, fun state => ?_, fun state => ?_⟩
  · rw [writes]
    exact rfl
  · rw [writes]
    exact rest _ ⟨rfl, le_rfl⟩ rfl

/-- A change with which a run tells what it is doing, and leaves the numbers alone. -/
theorem tells_told (room : p.HasRoom left)
    (writes : ∀ state, ∃ status item, read (change state) = { read state with status, item })
    (rest : ∀ later : Progress, later.HasRoom left → later.total = p.total → (next ⟨⟩).Tells read ends true later) :
    (Program.change change >>= next).Tells read ends true p := by
  refine .inr fun state same => ?_
  obtain ⟨status, item, wrote⟩ := writes state
  rw [wrote, same]
  refine ⟨.inr ⟨rfl, ⟨room.counted, room.isConsistent.within⟩, ⟨le_rfl, le_rfl, le_rfl, le_rfl, le_rfl⟩⟩, ?_⟩
  exact rest _ ⟨room.counted, room.room⟩ rfl

/-- The change with which a run that has counted nothing tells how many items there are. -/
theorem tells_total (room : p.HasRoom 0) (none : p.total = 0)
    (writes : ∀ state, ∃ status, read (change state) = { read state with total := left, status })
    (rest : ∀ later : Progress, later.HasRoom left → (next ⟨⟩).Tells read ends true later) :
    (Program.change change >>= next).Tells read ends true p := by
  refine .inr fun state same => ?_
  obtain ⟨status, wrote⟩ := writes state
  have begun : p.current = 0 := Nat.le_zero.mp (none ▸ room.isConsistent.within)
  have grown : Progress.HasRoom left { p with total := left, status } := by
    refine ⟨room.counted, ?_⟩
    show p.current + left ≤ left
    rw [begun, Nat.zero_add]
  rw [wrote, same]
  refine ⟨.inr ⟨rfl, grown.isConsistent, ⟨?_, le_rfl, le_rfl, le_rfl, le_rfl⟩⟩, rest _ grown⟩
  exact none ▸ Nat.zero_le left

/-- A change that counts one item. -/
theorem tells_count {succeeded failed skipped : Nat} (one : succeeded + failed + skipped = 1)
    (room : p.HasRoom (left + 1)) (writes : ∀ state, read (change state) = (read state).count succeeded failed skipped)
    (rest : ∀ later : Progress, later.HasRoom left → (next ⟨⟩).Tells read ends true later) :
    (Program.change change >>= next).Tells read ends true p := by
  obtain ⟨counted, room⟩ := room
  refine .inr fun state same => ?_
  have grown : (p.count succeeded failed skipped).HasRoom left := by
    simp only [Progress.processed] at counted
    constructor <;> simp only [Progress.count, Progress.processed] <;> omega
  rw [writes, same]
  refine ⟨.inr ⟨rfl, grown.isConsistent, ?_⟩, rest _ grown⟩
  exact ⟨le_rfl, Nat.le_add_right _ _, Nat.le_add_right _ _, Nat.le_add_right _ _, Nat.le_add_right _ _⟩

end

theorem tells_look {f : σ → β} {next : β → Work σ α} (rest : ∀ seen, (next seen).Tells read ends isCounting p) :
    (look f >>= next).Tells read ends isCounting p := by
  refine .inr fun state same => ?_
  rw [id, same]
  exact ⟨.inl rfl, rest (f state)⟩

/-! ### Programs that leave the progress alone -/

/-- Whether a program leaves the progress alone, and asks only what is answered in one moment. -/
abbrev IsQuiet (read : σ → Progress) (program : Work σ α) : Prop :=
  program.Phased (fun (_ : Unit) change _ => ∀ state, read (change state) = read state)
    (fun _ question => question.IsPlain) (fun _ _ => True) ⟨⟩

theorem isQuiet_get {question : Ask} (plain : question.IsPlain) :
    IsQuiet read (get question : Work σ question.Reply) := ⟨plain, fun _ => trivial⟩

theorem isQuiet_bind {first : Work σ α} {next : α → Work σ β} (quiet : IsQuiet read first)
    (later : ∀ value, IsQuiet read (next value)) : IsQuiet read (first >>= next) :=
  phased_bind (quiet.mono fun value _ _ => later value)

theorem tells_quiet {ends : β → Bool → Progress → Prop} {first : Work σ α} {next : α → Work σ β}
    (quiet : IsQuiet read first) (rest : ∀ value, (next value).Tells read ends isCounting p) :
    (first >>= next).Tells read ends isCounting p := by
  show (first.bind next).Tells read ends isCounting p
  induction first with
  | done value => exact rest value
  | act change further ih =>
    obtain ⟨later, same, quiet⟩ := quiet
    refine .inr fun state shown => ?_
    rw [same, shown]
    exact ⟨.inl rfl, ih state (quiet state)⟩
  | ask question further ih =>
    refine ⟨Ask.suits_of_isPlain quiet.1, fun reply later yields => ?_⟩
    rw [(Ask.yields_iff_of_isPlain quiet.1).mp yields]
    exact ih reply (quiet.2 reply)
  | hold | letGo | watch | unwatch | breakOff => exact quiet.elim

theorem tells_of_quiet {program : Work σ α} (quiet : IsQuiet read program)
    (ended : ∀ value, ends value isCounting p) : program.Tells read ends isCounting p := by
  rw [← bind_done program]
  exact tells_quiet quiet ended

theorem isQuiet_remote (call : RemoteCall) : IsQuiet read (Work.remote call : Work σ _) := isQuiet_get trivial

theorem isQuiet_walkFrom {page : Nat → Work σ (Except RemoteError (Page α))}
    (asked : ∀ number, IsQuiet read (page number)) (left number : Nat) (before : List α) :
    IsQuiet read (Pages.walkFrom page left number before) := by
  induction left generalizing number before with
  | zero => trivial
  | succ left ih =>
    refine isQuiet_bind (asked number) fun reply => ?_
    cases reply with
    | error error => trivial
    | ok batch =>
      show IsQuiet read (if _ then _ else _)
      split
      · exact ih _ _
      · trivial

/-! ### Threads -/

section
variable {outside : Outside σ Ask Ask.Reply} {others : σ → σ → Prop} {question : Ask}
  {thread next : Thread outside α} {state later : σ}

/-- What goes on while a question is under way that was asked when the progress was such. Nothing matters to it but
the progress. -/
structure Bears (outside : Outside σ Ask Ask.Reply) (read : σ → Progress) (question : Ask) (p : Progress)
    (during : outside.Course → σ → Prop) : Prop where
  begins : ∀ {state}, read state = p → during (outside.begins question state) state
  yields : ∀ {course state}, during course state → question.Yields p (read state)
  spares : ∀ {course state later}, during course state → read later = read state → during course later
  goesOn : ∀ {course next state later}, during course state → outside.goesOn question course state next later →
    during next later ∧ (read state).Precedes (read later)
  answers : ∀ {course isAsleep state reply after}, during course state →
    outside.answers question course isAsleep state reply after → read after = read state

/-- Whether nobody writes the progress but the run, and what it asks to be done. -/
structure Honest (outside : Outside σ Ask Ask.Reply) (others : σ → σ → Prop) (read : σ → Progress) : Prop where
  others : ∀ {state later}, others state later → read later = read state
  bears : ∀ {question isCounting p}, p.IsConsistent → question.Suits isCounting p →
    ∃ during, Bears outside read question p during

/-- Whether an action of a thread sets the progress back, whatever it was. -/
inductive Thread.Resets (read : σ → Progress) : Thread outside α × σ → Thread outside α × σ → Prop
  | act {change : σ → σ} {next : σ → Work σ α} {beside : Beside σ} {state : σ}
      (zero : ∀ state, (read (change state)).IsZero) :
      Resets read (.awake (.act change next) beside, state) (.awake (next state) beside, change state)

/-- Whether the progress was set back on the way from one point to another. -/
def Thread.WasReset (others : σ → σ → Prop) (read : σ → Progress) (first last : Thread outside α × σ) : Prop :=
  ∃ before after, Reaches outside others first before ∧ Resets read before after ∧ Reaches outside others after last

theorem Thread.Resets.isZero {before after : Thread outside α × σ} (resets : Resets read before after) :
    (read after.2).IsZero := by
  cases resets with
  | act zero => exact zero _

theorem Thread.Resets.move {before after : Thread outside α × σ} (resets : Resets read before after) :
    Move outside others before after := by
  cases resets with
  | act => exact .own .act

/-- Whether a thread goes on to write the progress as it should. -/
inductive Telling (read : σ → Progress) (ends : α → Bool → Progress → Prop) : Thread outside α → σ → Bool → Prop
  | awake {program : Work σ α} {beside : Beside σ} {state : σ} {isCounting : Bool}
      (tells : program.Tells read ends isCounting (read state)) (leaves : beside.Leaves read) :
      Telling read ends (.awake program beside) state isCounting
  | waiting {question : Ask} {p : Progress} {during : outside.Course → σ → Prop} {course : outside.Course}
      {next : question.Reply → Work σ α} {isAsleep : Bool} {beside : Beside σ} {state : σ} {isCounting : Bool}
      (bears : Bears outside read question p during) (under : during course state)
      (suits : question.Suits isCounting p)
      (rest : ∀ reply later, question.Yields p later → (next reply).Tells read ends isCounting later)
      (leaves : beside.Leaves read) :
      Telling read ends (.waiting question course next isAsleep beside) state isCounting

theorem Telling.spared (telling : Telling read ends thread state isCounting) (same : read later = read state) :
    Telling read ends thread later isCounting := by
  cases telling with
  | awake tells leaves => exact .awake (same ▸ tells) leaves
  | waiting bears under suits rest leaves => exact .waiting bears (bears.spares under same) suits rest leaves

section
variable {beside : Beside σ} (leaves : beside.Leaves read)
include leaves

theorem Beside.Leaves.holding {release : σ → σ} (same : ∀ state, read (release state) = read state) :
    (beside.holding release).Leaves read where
  held other among := by
    rcases List.mem_cons.mp among with rfl | earlier
    · exact same
    · exact leaves.held other earlier
  watch := leaves.watch

theorem Beside.Leaves.lettingGo (state : σ) :
    beside.lettingGo.Leaves read ∧ read (beside.held.headD id state) = read state := by
  refine ⟨⟨fun release among => leaves.held release (List.mem_of_mem_tail among), leaves.watch⟩, ?_⟩
  cases held : beside.held with
  | nil => rfl
  | cons release rest => exact leaves.held release (by rw [held]; exact List.mem_cons_self) state

theorem Beside.Leaves.watching {action : σ → σ} (same : ∀ state, read (action state) = read state) :
    (beside.watching action).Leaves read where
  held := leaves.held
  watch other watches := by
    cases watches
    exact same

theorem Beside.Leaves.carriedOut : beside.carriedOut.Leaves read where
  held := leaves.held
  watch action again := leaves.watch action ((Watch.action?_carriedOut _).symm.trans again)

end

/-- Where streams are probed, the run counts. -/
theorem advances_of_suits (suits : question.Suits isCounting p) {earlier now : Progress}
    (before : question.Yields p earlier) (yields : question.Yields p now) (precedes : earlier.Precedes now) :
    earlier.Advances isCounting now := by
  cases question with
  | probeStreams => exact .inr ⟨suits.1, yields.1, precedes⟩
  | remote | store | probe | sample | sleep | clock | wallClock => exact .inl (yields.trans before.symm)

/-- **A step of a thread** adds to the progress at most, and only once the thread counts, or it sets the progress
back. -/
theorem Telling.step (telling : Telling read ends thread state isCounting) (honest : Honest outside others read)
    (consistent : (read state).IsConsistent) (step : Thread.Step outside thread state next later) :
    (read state).Advances isCounting (read later) ∧ Telling read ends next later isCounting ∨
      isCounting = false ∧ Thread.Resets read (thread, state) (next, later) ∧ Telling read ends next later true := by
  cases telling with
  | awake tells leaves =>
    cases step with
    | act =>
      rcases tells with ⟨begins, zero, resets⟩ | goesOn
      · exact .inr ⟨begins, .act zero, .awake (resets state) leaves⟩
      · obtain ⟨advances, tells⟩ := goesOn state rfl
        exact .inl ⟨advances, .awake tells leaves⟩
    | asks =>
      obtain ⟨suits, rest⟩ := tells
      obtain ⟨during, bears⟩ := honest.bears consistent suits
      exact .inl ⟨.inl rfl, .waiting bears (bears.begins rfl) suits rest leaves⟩
    | hold => exact .inl ⟨.inl rfl, .awake tells.2 (leaves.holding tells.1)⟩
    | letGo =>
      obtain ⟨leaves, same⟩ := leaves.lettingGo state
      refine .inl ⟨.inl same, .awake ?_ leaves⟩
      rw [same]
      exact tells
    | watch => exact .inl ⟨.inl rfl, .awake tells.2 (leaves.watching tells.1)⟩
    | unwatch => exact .inl ⟨.inl rfl, .awake tells ⟨leaves.held, nofun⟩⟩
    | release isOver =>
      have same := leaves.held _ List.mem_cons_self state
      refine .inl ⟨.inl same, .awake (same ▸ tells) ⟨fun release among => ?_, leaves.watch⟩⟩
      exact leaves.held release (List.mem_cons_of_mem _ among)
  | waiting bears under suits rest leaves =>
    cases step with
    | fallsAsleep => exact .inl ⟨.inl rfl, .waiting bears under suits rest leaves⟩
    | watched watches =>
      have same := leaves.watch _ watches state
      exact .inl ⟨.inl same, .waiting bears (bears.spares under same) suits rest leaves.carriedOut⟩
    | goesOn isFree goes =>
      obtain ⟨going, precedes⟩ := bears.goesOn under goes
      have advances := advances_of_suits suits (bears.yields under) (bears.yields going) precedes
      exact .inl ⟨advances, .waiting bears going suits rest leaves⟩
    | answered isFree answered =>
      have same := bears.answers under answered
      exact .inl ⟨.inl same, .awake (same ▸ rest _ _ (bears.yields under)) leaves⟩
    | unanswered isFree unanswered =>
      exact .inl ⟨.inl (bears.answers under unanswered), .awake trivial leaves⟩

/-- What others do matters no more than a step that leaves the progress alone. -/
theorem Telling.move (telling : Telling read ends thread state isCounting) (honest : Honest outside others read)
    (consistent : (read state).IsConsistent) (move : Thread.Move outside others (thread, state) (next, later)) :
    (read state).Advances isCounting (read later) ∧ Telling read ends next later isCounting ∨
      isCounting = false ∧ Thread.Resets read (thread, state) (next, later) ∧ Telling read ends next later true := by
  cases move with
  | own step => exact telling.step honest consistent step
  | others changed =>
    have same := honest.others changed
    exact .inl ⟨.inl same, telling.spared same⟩

variable {first last : Thread outside α × σ}

/-- **A thread that has run for some time** has added to the progress at most, and only if it counted already, or it
has set the progress back on the way. -/
theorem Telling.reaches (telling : Telling read ends first.1 first.2 isCounting) (honest : Honest outside others read)
    (consistent : (read first.2).IsConsistent) (reached : Thread.Reaches outside others first last) :
    (read last.2).IsConsistent ∧
      ((read first.2).Advances isCounting (read last.2) ∧ Telling read ends last.1 last.2 isCounting ∨
        isCounting = false ∧ Telling read ends last.1 last.2 true ∧ Thread.WasReset others read first last) := by
  induction reached with
  | refl => exact ⟨consistent, .inl ⟨.inl rfl, telling⟩⟩
  | @tail middle last reached move ih =>
    obtain ⟨consistent, ⟨advances, telling⟩ | ⟨idle, telling, before, after, earlier, resets, later⟩⟩ := ih
    · rcases telling.move honest consistent move with ⟨further, telling⟩ | ⟨idle, resets, telling⟩
      · exact ⟨further.isConsistent consistent, .inl ⟨advances.trans further, telling⟩⟩
      · exact ⟨resets.isZero.isConsistent, .inr ⟨idle, telling, middle, last, reached, resets, .refl⟩⟩
    -- a thread that counts does not set the progress back again
    · rcases telling.move honest consistent move with ⟨further, telling⟩ | ⟨counts, -⟩
      · exact ⟨further.isConsistent consistent,
          .inr ⟨idle, telling, before, after, earlier, resets, later.tail move⟩⟩
      · cases counts

/-! ### What can be read -/

/-- **What can be read of a run**: at every point a consistent progress; and it is the one that was there at first until
the run sets it back, from where on no number ever decreases. A run that has come to such a result has set it back. -/
structure Truthful (outside : Outside σ Ask Ask.Reply) (others : σ → σ → Prop) (read : σ → Progress) (ran : α → Prop)
    (start : Thread outside α × σ) : Prop where
  consistent : ∀ point, Thread.Reaches outside others start point → (read point.2).IsConsistent
  untouched : ∀ point, Thread.Reaches outside others start point →
    read point.2 = read start.2 ∨ Thread.WasReset others read start point
  grows : ∀ before after early late, Thread.Reaches outside others start before →
    Thread.Resets read before after → Thread.Reaches outside others after early →
    Thread.Reaches outside others early late → (read early.2).Precedes (read late.2)
  resets : ∀ value beside state, Thread.Reaches outside others start (.awake (.done value) beside, state) → ran value →
    Thread.WasReset others read start (.awake (.done value) beside, state)

/-- Whether a thread counts, or there is nothing to be read so far. -/
def IsBegun (read : σ → Progress) (ends : α → Bool → Progress → Prop) (point : Thread outside α × σ) : Prop :=
  ∃ isCounting, Telling read ends point.1 point.2 isCounting ∧ (isCounting = false → (read point.2).IsZero)

/-- From there on no number decreases. -/
theorem IsBegun.reaches (begun : IsBegun read ends first) (honest : Honest outside others read)
    (consistent : (read first.2).IsConsistent) (reached : Thread.Reaches outside others first last) :
    IsBegun read ends last ∧ (read first.2).Precedes (read last.2) := by
  obtain ⟨isCounting, telling, zero⟩ := begun
  rcases (telling.reaches honest consistent reached).2 with ⟨advances, telling⟩ | ⟨idle, telling, -⟩
  · refine ⟨⟨isCounting, telling, fun idle => ?_⟩, advances.precedes⟩
    subst idle
    rw [advances.eq_of_not_counting]
    exact zero rfl
  · exact ⟨⟨true, telling, nofun⟩, (zero idle).precedes _⟩

/-- **A program that writes the progress as it should** lets everyone read the truth. -/
theorem truthful_of_tells (honest : Honest outside others read) {program : Work σ α} {ran : α → Prop}
    (tells : program.Tells read ends false (read state))
    (counted : ∀ value isCounting p, ends value isCounting p → ran value → isCounting = true)
    (consistent : (read state).IsConsistent) : Truthful outside others read ran (.awake program {}, state) := by
  have begins : Telling read ends (.awake program {} : Thread outside α) state false :=
    .awake tells ⟨fun _ among => absurd among List.not_mem_nil, nofun⟩
  refine ⟨fun point reached => ?_, fun point reached => ?_, ?_, fun value beside last reached own => ?_⟩
  · exact (begins.reaches honest consistent reached).1
  · rcases (begins.reaches honest consistent reached).2 with ⟨advances, -⟩ | ⟨-, -, resets⟩
    · exact .inl advances.eq_of_not_counting
    · exact .inr resets
  · intro before after early late reached resets meanwhile later
    have reset : Thread.Reaches outside others (.awake program {}, state) after := reached.tail resets.move
    have begun : IsBegun read ends after := by
      rcases (begins.reaches honest consistent reset).2 with ⟨-, telling⟩ | ⟨-, telling, -⟩
      · exact ⟨false, telling, fun _ => resets.isZero⟩
      · exact ⟨true, telling, nofun⟩
    have now : (read early.2).IsConsistent := (begins.reaches honest consistent (reset.trans meanwhile)).1
    exact ((begun.reaches honest resets.isZero.isConsistent meanwhile).1.reaches honest now later).2
  · rcases (begins.reaches honest consistent reached).2 with ⟨-, telling⟩ | ⟨-, -, resets⟩
    · cases telling with
      | awake tells leaves => exact Bool.noConfusion (counted value false _ tells own)
    · exact resets

end

end Program
end StreamWatch
