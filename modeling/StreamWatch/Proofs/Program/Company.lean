/-
**Programs that run beside each other over one state.**

A company is a list of labelled programs of which so many run at a time. Their actions come in any
order, with whatever others do in between, and their results in the order of their ends. What the
members of a company come to is told from what each of them ensures alone, when nobody does what
another one relies on not to happen.

* `Step.cases`: what one step makes of the members;
* `Keeps.reaches`: what every member ensures alone it ensures in company;
* `Keeps.exists_end`: a company can come to its end at any time;
* `Balanced.reaches`: what its members add to some numbers adds up;
* `Balanced.le`: before their ends it is no more than their results are worth.
-/

import Mathlib.Algebra.Order.BigOperators.Group.List
import Mathlib.Algebra.Order.Group.Nat
import Mathlib.Data.List.Nodup
import StreamWatch.Proofs.Program.Run

namespace StreamWatch.Program

/-- Labelled programs of which some have begun and some have ended, over a state. -/
structure Company (ι σ Ask : Type) (Reply : Ask → Type) (α : Type) where
  /-- those whose turn has not come, in the order of their turns -/
  waiting : List (ι × Program σ Ask Reply α)
  begun : List (ι × Program σ Ask Reply α) := []
  /-- results in the order of their ends -/
  ended : List (ι × α) := []
  state : σ

/-- What there is around a company. -/
structure Venue (ι σ Ask : Type) (Reply : Ask → Type) where
  /-- how many may run at a time -/
  limit : Nat
  /-- how a question of a member may be answered, if it is, and what the state is after that -/
  answers : ι → (question : Ask) → σ → Option (Reply question) → σ → Prop
  /-- what others may make of the state -/
  others : σ → σ → Prop

variable {ι σ Ask κ : Type} {Reply : Ask → Type} {α : Type}

/-- What there is around one member, but for the other ones. -/
def Venue.around (venue : Venue ι σ Ask Reply) (label : ι) : Surroundings σ Ask Reply :=
  ⟨venue.answers label, venue.others⟩

namespace Company

variable {venue : Venue ι σ Ask Reply} {company next : Company ι σ Ask Reply α}

/-- What may happen next in a company. Its members hold and watch nothing. -/
inductive Step (venue : Venue ι σ Ask Reply) : Company ι σ Ask Reply α → Company ι σ Ask Reply α → Prop
  | others {company : Company ι σ Ask Reply α} {state : σ}
      (changed : venue.others company.state state) :
      Step venue company { company with state }
  | begins {member : ι × Program σ Ask Reply α} {waiting begun : List (ι × Program σ Ask Reply α)}
      {ended : List (ι × α)} {state : σ} (room : begun.length < venue.limit) :
      Step venue ⟨member :: waiting, begun, ended, state⟩ ⟨waiting, begun ++ [member], ended, state⟩
  | goesOn {waiting : List (ι × Program σ Ask Reply α)} (before : List (ι × Program σ Ask Reply α))
      {after : List (ι × Program σ Ask Reply α)} {ended : List (ι × α)} {label : ι}
      {program rest : Program σ Ask Reply α} {state later : σ}
      (step : Program.Step (venue.around label) ⟨program, [], none, state⟩ ⟨rest, [], none, later⟩) :
      Step venue ⟨waiting, before ++ (label, program) :: after, ended, state⟩
        ⟨waiting, before ++ (label, rest) :: after, ended, later⟩
  | ends {waiting : List (ι × Program σ Ask Reply α)} (before : List (ι × Program σ Ask Reply α))
      {after : List (ι × Program σ Ask Reply α)} {ended : List (ι × α)} {label : ι} {value : α} {state : σ} :
      Step venue ⟨waiting, before ++ (label, .done value) :: after, ended, state⟩
        ⟨waiting, before ++ after, ended ++ [(label, value)], state⟩

/-- What may have become of a company after some time. -/
abbrev Reaches (venue : Venue ι σ Ask Reply) :
    Company ι σ Ask Reply α → Company ι σ Ask Reply α → Prop :=
  Relation.ReflTransGen (Step venue)

/-- Whether every member has ended. -/
def IsOver (company : Company ι σ Ask Reply α) : Prop := company.waiting = [] ∧ company.begun = []

/-- Everyone, with a result as the program that is at its end. -/
def members (company : Company ι σ Ask Reply α) : List (ι × Program σ Ask Reply α) :=
  company.waiting ++ company.begun ++ company.ended.map fun result => (result.1, .done result.2)

/-- **What one step makes of the members**: it moves one from one list to another, or it is a step of
one of them. -/
theorem Step.cases (step : Step venue company next) :
    (next.members.Perm company.members ∧
        (next.state = company.state ∨ venue.others company.state next.state)) ∨
      ∃ before label program rest after, company.members = before ++ (label, program) :: after ∧
        next.members = before ++ (label, rest) :: after ∧
        Program.Step (venue.around label) ⟨program, [], none, company.state⟩
          ⟨rest, [], none, next.state⟩ := by
  cases step with
  | others changed => exact .inl ⟨.refl _, .inr changed⟩
  | @begins member waiting begun ended state room =>
    refine .inl ⟨?_, .inl rfl⟩
    simp only [members]
    refine .append_right _ ?_
    rw [← List.append_assoc]
    exact List.perm_append_singleton member (waiting ++ begun)
  | @goesOn waiting before after ended label program rest state later step =>
    refine .inr ⟨waiting ++ before, label, program, rest,
      after ++ ended.map fun result => (result.1, .done result.2), ?_, ?_, step⟩
    · simp [members]
    · simp [members]
  | @ends waiting before after ended label value state =>
    refine .inl ⟨?_, .inl rfl⟩
    let results := ended.map fun result => (result.1, (done result.2 : Program σ Ask Reply α))
    let ending := (label, (done value : Program σ Ask Reply α))
    have last : (waiting ++ before ++ after ++ results ++ [ending]).Perm
        (ending :: (waiting ++ before ++ after ++ results)) := List.perm_append_singleton _ _
    have amid : (waiting ++ before ++ ending :: (after ++ results)).Perm
        (ending :: (waiting ++ before ++ (after ++ results))) := List.perm_middle
    simpa [members, results, ending] using last.trans (by simpa using amid.symm)

end Company

/-! ### What a program does by itself -/

/-- Whether all that a program makes of the state by itself is allowed, its questions included, which
all have to be answered, and whether what it returns is. A program that holds or watches something is
not spoken of. -/
def Within (answers : (question : Ask) → σ → Option (Reply question) → σ → Prop)
    (allowed : σ → σ → Prop) (returns : α → Prop) : Program σ Ask Reply α → Prop
  | done value => returns value
  | act change next =>
    (∀ state, allowed state (change state)) ∧ ∀ state, (next state).Within answers allowed returns
  | ask question next =>
    ∀ state reply after, answers question state reply after →
      ∃ value, reply = some value ∧ allowed state after ∧ (next value).Within answers allowed returns
  | hold _ _ | letGo _ | watch _ _ _ | unwatch _ | breakOff => False

section Member

variable {β : Type} {answers : (question : Ask) → σ → Option (Reply question) → σ → Prop}
  {others rely allowed : σ → σ → Prop} {returns : α → Prop} {goal : α → σ → Prop}
  {program rest : Program σ Ask Reply α} {state later : σ}

theorem Within.mono (within : program.Within answers allowed returns) {weaker : σ → σ → Prop}
    (weaken : ∀ state later, allowed state later → weaker state later) :
    program.Within answers weaker returns := by
  induction program with
  | done => exact within
  | act change next ih =>
    exact ⟨fun state => weaken _ _ (within.1 state), fun state => ih state (within.2 state)⟩
  | ask question next ih =>
    intro state reply after answered
    obtain ⟨value, same, permitted, rest⟩ := within state reply after answered
    exact ⟨value, same, weaken _ _ permitted, ih value rest⟩
  | hold | letGo | watch | unwatch | breakOff => exact within.elim

theorem within_bind {next : α → Program σ Ask Reply β} {last : β → Prop}
    (within : program.Within answers allowed returns)
    (later : ∀ value, returns value → (next value).Within answers allowed last) :
    (program >>= next).Within answers allowed last := by
  show (program.bind next).Within answers allowed last
  induction program with
  | done value => exact later value within
  | act change rest ih => exact ⟨within.1, fun state => ih state (within.2 state)⟩
  | ask question rest ih =>
    intro state reply after answered
    obtain ⟨value, same, permitted, rest⟩ := within state reply after answered
    exact ⟨value, same, permitted, ih value rest⟩
  | hold | letGo | watch | unwatch | breakOff => exact within.elim

/-- What a program returns is as allowed, whatever others do. -/
theorem Within.ensures (within : program.Within answers allowed returns) (state : σ) :
    program.Ensures ⟨answers, rely⟩ (fun value _ => returns value) state := by
  induction program generalizing state with
  | done value => exact fun _ _ => within
  | act change next ih => exact fun later _ => ih later (within.2 later) _
  | ask question next ih =>
    intro later _ reply after answered
    obtain ⟨value, same, -, rest⟩ := within later reply after answered
    exact ⟨value, same, ih value rest after⟩
  | hold | letGo | watch | unwatch | breakOff => exact within.elim

/-- What neither others undo nor anything that a program does by itself is there at its end. -/
theorem Within.ensures_and (within : program.Within answers allowed returns) {holds : σ → Prop}
    (stable : Stable ⟨answers, rely⟩ holds)
    (kept : ∀ state later, allowed state later → holds state → holds later) (before : holds state) :
    program.Ensures ⟨answers, rely⟩ (fun value later => returns value ∧ holds later) state := by
  induction program generalizing state with
  | done value => exact fun later meanwhile => ⟨within, stable.meanwhile meanwhile before⟩
  | act change next ih =>
    exact fun later meanwhile =>
      ih later (within.2 later) (kept _ _ (within.1 later) (stable.meanwhile meanwhile before))
  | ask question next ih =>
    intro later meanwhile reply after answered
    obtain ⟨value, same, permitted, rest⟩ := within later reply after answered
    exact ⟨value, same, ih value rest (kept _ _ permitted (stable.meanwhile meanwhile before))⟩
  | hold | letGo | watch | unwatch | breakOff => exact within.elim

/-- A step of a member is allowed to it, or is one of others. It goes on ensuring what it ensured. -/
theorem Ensures.step (ensures : program.Ensures ⟨answers, rely⟩ goal state)
    (within : program.Within answers allowed returns)
    (relied : ∀ state later, others state later → rely state later)
    (step : Step ⟨answers, others⟩ ⟨program, [], none, state⟩ ⟨rest, [], none, later⟩) :
    rest.Ensures ⟨answers, rely⟩ goal later ∧ rest.Within answers allowed returns ∧
      (allowed state later ∨ others state later) := by
  cases step with
  | others changed => exact ⟨ensures.later (.single (relied _ _ changed)), within, .inr changed⟩
  | watched runs beside => exact nomatch beside
  | act => exact ⟨ensures _ .refl, within.2 _, .inl (within.1 _)⟩
  | answered answered =>
    obtain ⟨value, same, ensures⟩ := ensures _ .refl _ _ answered
    obtain ⟨value, again, permitted, within⟩ := within _ _ _ answered
    cases same
    cases again
    exact ⟨ensures, within, .inl permitted⟩
  | unanswered unanswered =>
    obtain ⟨value, same, -⟩ := ensures _ .refl _ _ unanswered
    exact nomatch same
  | letGoNothing | unwatch => exact ensures.elim

end Member

/-! ### What members ensure in company -/

namespace Company

variable {venue : Venue ι σ Ask Reply} {company next : Company ι σ Ask Reply α}
  {rely own : ι → σ → σ → Prop} {goal : ι → α → σ → Prop}

/-- Whether nobody does what a member relies on not to happen: neither the others around a company nor
another member of it. -/
structure Pact (venue : Venue ι σ Ask Reply) (rely own : ι → σ → σ → Prop) : Prop where
  others : ∀ label state later, venue.others state later → rely label state later
  apart : ∀ label other, label ≠ other → ∀ state later, own label state later → rely other state later

/-- Whether the members of a company are told apart by their labels, and each of them ensures its goal
and does only what is its own to do. -/
structure Keeps (venue : Venue ι σ Ask Reply) (rely own : ι → σ → σ → Prop) (goal : ι → α → σ → Prop)
    (company : Company ι σ Ask Reply α) : Prop where
  distinct : (company.members.map (·.1)).Nodup
  ensures : ∀ member ∈ company.members,
    member.2.Ensures ⟨venue.answers member.1, rely member.1⟩ (goal member.1) company.state
  within : ∀ member ∈ company.members,
    member.2.Within (venue.answers member.1) (own member.1) fun _ => True

theorem ne_of_distinct {before after : List (ι × Program σ Ask Reply α)} {label : ι}
    {program : Program σ Ask Reply α}
    (distinct : ((before ++ (label, program) :: after).map (·.1)).Nodup) :
    ∀ member ∈ before ++ after, member.1 ≠ label := by
  rw [List.map_append, List.map_cons, List.nodup_middle, List.nodup_cons, ← List.map_append] at distinct
  intro member known same
  exact distinct.1 (List.mem_map.mpr ⟨member, known, same⟩)

/-- Where one of some members told apart by labels is replaced, all others were there before, under
other labels. -/
theorem eq_or_mem_of_replaced {before after : List (ι × Program σ Ask Reply α)} {label : ι}
    {program rest : Program σ Ask Reply α}
    (distinct : ((before ++ (label, program) :: after).map (·.1)).Nodup)
    {member : ι × Program σ Ask Reply α} (known : member ∈ before ++ (label, rest) :: after) :
    member = (label, rest) ∨ member ∈ before ++ (label, program) :: after ∧ member.1 ≠ label := by
  rw [List.mem_append, List.mem_cons, or_left_comm, ← List.mem_append] at known
  refine known.imp id fun elsewhere => ⟨?_, ne_of_distinct distinct member elsewhere⟩
  exact ((List.sublist_cons_self _ _).append_left before).subset elsewhere

/-- One step keeps everyone to the pact, and is a step of somebody who may take it. -/
theorem Keeps.step (keeps : Keeps venue rely own goal company) (pact : Pact venue rely own)
    (step : Step venue company next) :
    Keeps venue rely own goal next ∧ (next.members.map (·.1)).Perm (company.members.map (·.1)) ∧
      (next.state = company.state ∨ venue.others company.state next.state ∨
        ∃ label, own label company.state next.state) := by
  obtain ⟨distinct, ensures, within⟩ := keeps
  rcases step.cases with ⟨moved, changed⟩ | ⟨before, label, program, rest, after, members, replaced, step⟩
  · refine ⟨⟨?_, fun member known => ?_, fun member known => ?_⟩, moved.map _, ?_⟩
    · exact (moved.map (·.1)).nodup_iff.mpr distinct
    · have ensured := ensures member (moved.mem_iff.mp known)
      rcases changed with same | changed
      · rw [same]
        exact ensured
      · exact ensured.later (.single (pact.others member.1 _ _ changed))
    · exact within member (moved.mem_iff.mp known)
    · exact changed.imp id .inl
  · have labels : next.members.map (·.1) = company.members.map (·.1) := by
      rw [members, replaced]
      simp
    have acting : (label, program) ∈ company.members := by rw [members]; simp
    obtain ⟨goesOn, stays, changed⟩ :=
      (ensures _ acting).step (within _ acting) (pact.others label) step
    rw [members] at distinct
    refine ⟨⟨?_, fun member known => ?_, fun member known => ?_⟩, .of_eq labels,
      .inr (changed.symm.imp id fun acts => ⟨label, acts⟩)⟩
    · rw [labels, members]
      exact distinct
    · rw [replaced] at known
      rcases eq_or_mem_of_replaced distinct known with rfl | ⟨there, other⟩
      · exact goesOn
      -- to everyone else the step is one of others
      · refine (ensures member (members ▸ there)).later (.single ?_)
        rcases changed with acts | changed
        · exact pact.apart label member.1 (Ne.symm other) _ _ acts
        · exact pact.others member.1 _ _ changed
    · rw [replaced] at known
      rcases eq_or_mem_of_replaced distinct known with rfl | ⟨there, -⟩
      · exact stays
      · exact within member (members ▸ there)

/-- **What every member ensures alone it ensures in company**, and what nobody's own doing undoes
stays. -/
theorem Keeps.reaches (keeps : Keeps venue rely own goal company) (pact : Pact venue rely own)
    (reached : Reaches venue company next) :
    Keeps venue rely own goal next ∧ (next.members.map (·.1)).Perm (company.members.map (·.1)) := by
  induction reached with
  | refl => exact ⟨keeps, .refl _⟩
  | tail _ step ih =>
    obtain ⟨keeps, labels⟩ := ih
    obtain ⟨keeps, same, -⟩ := keeps.step pact step
    exact ⟨keeps, same.trans labels⟩

theorem Keeps.holds (keeps : Keeps venue rely own goal company) (pact : Pact venue rely own)
    (holds : σ → Prop) (stable : ∀ state later, venue.others state later → holds state → holds later)
    (kept : ∀ label state later, own label state later → holds state → holds later)
    (reached : Reaches venue company next) (before : holds company.state) : holds next.state := by
  induction reached with
  | refl => exact before
  | tail reached step ih =>
    obtain ⟨-, -, changed⟩ := (keeps.reaches pact reached).1.step pact step
    rcases changed with same | changed | ⟨label, acts⟩
    · rw [same]
      exact ih
    · exact stable _ _ changed ih
    · exact kept label _ _ acts ih

/-- What has ended as it should. -/
theorem Keeps.goal_of_ended (keeps : Keeps venue rely own goal company) {result : ι × α}
    (ended : result ∈ company.ended) : goal result.1 result.2 company.state := by
  have member : (result.1, (done result.2 : Program σ Ask Reply α)) ∈ company.members :=
    List.mem_append_right _ (List.mem_map_of_mem ended)
  exact keeps.ensures _ member _ .refl

theorem members_of_isOver (isOver : company.IsOver) :
    company.members = company.ended.map fun result => (result.1, done result.2) := by
  rw [members, isOver.1, isOver.2]
  rfl

/-- When all have ended there is one result of everyone. -/
theorem labels_of_isOver (isOver : company.IsOver) :
    company.members.map (·.1) = company.ended.map (·.1) := by
  rw [members_of_isOver isOver, List.map_map]
  rfl

/-! ### The end of a company -/

/-- The first of those who have begun can come to its end, the others standing still. -/
theorem exists_result {label : ι} {program : Program σ Ask Reply α}
    {waiting begun : List (ι × Program σ Ask Reply α)} {ended : List (ι × α)} {state : σ}
    {rely : σ → σ → Prop} {goal : α → σ → Prop}
    (answered : ∀ question state, ∃ reply after, venue.answers label question state reply after)
    (ensures : program.Ensures ⟨venue.answers label, rely⟩ goal state) :
    ∃ value later, Reaches venue ⟨waiting, (label, program) :: begun, ended, state⟩
      ⟨waiting, begun, ended ++ [(label, value)], later⟩ := by
  induction program generalizing state with
  | done value => exact ⟨value, state, .single (.ends [])⟩
  | act change next ih =>
    obtain ⟨value, later, rest⟩ := ih state (ensures state .refl)
    exact ⟨value, later, rest.head (.goesOn [] .act)⟩
  | ask question next ih =>
    obtain ⟨reply, last, answered⟩ := answered question state
    obtain ⟨reply, rfl, ensures⟩ := ensures state .refl _ _ answered
    obtain ⟨value, later, rest⟩ := ih reply ensures
    exact ⟨value, later, rest.head (.goesOn [] (.answered answered))⟩
  | hold | letGo | watch | unwatch | breakOff => exact ensures.elim

section
variable (pact : Pact venue rely own)
  (answered : ∀ label question state, ∃ reply after, venue.answers label question state reply after)
include pact answered

theorem Keeps.exists_results {waiting begun : List (ι × Program σ Ask Reply α)} {ended : List (ι × α)}
    {state : σ} (keeps : Keeps venue rely own goal ⟨waiting, begun, ended, state⟩) :
    ∃ results later, Reaches venue ⟨waiting, begun, ended, state⟩ ⟨waiting, [], results, later⟩ := by
  induction begun generalizing ended state with
  | nil => exact ⟨ended, state, .refl⟩
  | cons member begun ih =>
    have ensures := keeps.ensures member (by simp [members])
    obtain ⟨value, later, ends⟩ := exists_result (answered member.1) ensures
    obtain ⟨results, last, rest⟩ := ih (keeps.reaches pact ends).1
    exact ⟨results, last, ends.trans rest⟩

/-- **A company can come to its end at any time**, when every question has an answer and there is room
for one at least. -/
theorem Keeps.exists_end (keeps : Keeps venue rely own goal company) (room : 0 < venue.limit) :
    ∃ last, Reaches venue company last ∧ last.IsOver := by
  obtain ⟨waiting, begun, ended, state⟩ := company
  induction waiting generalizing begun ended state with
  | nil =>
    obtain ⟨results, later, ends⟩ := keeps.exists_results pact answered
    exact ⟨_, ends, rfl, rfl⟩
  | cons member waiting ih =>
    obtain ⟨results, later, ends⟩ := keeps.exists_results pact answered
    have begins : Step venue ⟨member :: waiting, [], results, later⟩
        ⟨waiting, [] ++ [member], results, later⟩ := .begins room
    have reached := ends.tail begins
    obtain ⟨last, rest, isOver⟩ := ih _ _ _ (keeps.reaches pact reached).1
    exact ⟨last, reached.trans rest, isOver⟩

end

end Company

/-! ### What members add up to -/

/-- Whether all that a program adds to some numbers until its end is the share of its result, when it
has added so much already. -/
def Pays [Add κ] (answers : (question : Ask) → σ → Option (Reply question) → σ → Prop) (view : σ → κ)
    (share : α → κ) : Program σ Ask Reply α → κ → Prop
  | done value, paid => share value = paid
  | act change next, paid =>
    ∀ state, ∃ more, view (change state) = view state + more ∧
      (next state).Pays answers view share (paid + more)
  | ask question next, paid =>
    ∀ state reply after, answers question state reply after →
      ∃ value, reply = some value ∧ view after = view state ∧ (next value).Pays answers view share paid
  | hold _ _, _ | letGo _, _ | watch _ _ _, _ | unwatch _, _ | breakOff, _ => False

variable [AddCommMonoid κ] {view : σ → κ} {share : α → κ}

/-- What a program adds after another one that leaves the numbers alone. -/
theorem pays_bind {β : Type} {answers : (question : Ask) → σ → Option (Reply question) → σ → Prop}
    {first : Program σ Ask Reply β} {next : β → Program σ Ask Reply α} {returns : β → Prop} {paid : κ}
    (silent : first.Within answers (fun state later => view later = view state) returns)
    (later : ∀ value, returns value → (next value).Pays answers view share paid) :
    (first >>= next).Pays answers view share paid := by
  show (first.bind next).Pays answers view share paid
  induction first with
  | done value => exact later value silent
  | act change rest ih =>
    intro state
    exact ⟨0, by rw [silent.1 state, add_zero], by rw [add_zero]; exact ih state (silent.2 state)⟩
  | ask question rest ih =>
    intro state reply after answered
    obtain ⟨value, same, silent, rest⟩ := silent state reply after answered
    exact ⟨value, same, silent, ih value rest⟩
  | hold | letGo | watch | unwatch | breakOff => exact silent.elim

theorem Pays.step {answers : (question : Ask) → σ → Option (Reply question) → σ → Prop}
    {others : σ → σ → Prop} {program rest : Program σ Ask Reply α} {state later : σ} {paid : κ}
    (pays : program.Pays answers view share paid)
    (silent : ∀ state later, others state later → view later = view state)
    (step : Step ⟨answers, others⟩ ⟨program, [], none, state⟩ ⟨rest, [], none, later⟩) :
    ∃ more, view later = view state + more ∧ rest.Pays answers view share (paid + more) := by
  cases step with
  | others changed => exact ⟨0, by rw [silent _ _ changed, add_zero], by rwa [add_zero]⟩
  | watched runs beside => exact nomatch beside
  | act => exact pays state
  | answered answered =>
    obtain ⟨value, given, same, pays⟩ := pays _ _ _ answered
    cases given
    exact ⟨0, by rw [same, add_zero], by rwa [add_zero]⟩
  | unanswered unanswered =>
    obtain ⟨value, none, -⟩ := pays _ _ _ unanswered
    exact nomatch none
  | letGoNothing | unwatch => exact pays.elim

/-- Where every question has an answer, a program never adds more to a number than some result is worth. -/
theorem Pays.le {answers : (question : Ask) → σ → Option (Reply question) → σ → Prop} {count : σ → Nat}
    {worth : α → Nat} {program : Program σ Ask Reply α} {paid limit : Nat}
    (pays : program.Pays answers count worth paid)
    (answered : ∀ question state, ∃ reply after, answers question state reply after)
    (bound : ∀ value, worth value ≤ limit) (state : σ) : paid ≤ limit := by
  induction program generalizing paid state with
  | done value => exact pays ▸ bound value
  | act change next ih =>
    obtain ⟨more, -, pays⟩ := pays state
    exact Nat.le_trans (Nat.le_add_right paid more) (ih state pays state)
  | ask question next ih =>
    obtain ⟨reply, after, answered⟩ := answered question state
    obtain ⟨value, -, -, pays⟩ := pays state reply after answered
    exact ih value pays after
  | hold | letGo | watch | unwatch | breakOff => exact pays.elim

namespace Company

variable {venue : Venue ι σ Ask Reply} {company next : Company ι σ Ask Reply α} {start : κ}

/-- Whether some numbers are what they were at first and what the members have added to them, each of
whom has still to add up to the share of its result. -/
structure Balanced (venue : Venue ι σ Ask Reply) (view : σ → κ) (share : α → κ) (start : κ)
    (company : Company ι σ Ask Reply α) : Prop where
  distinct : (company.members.map (·.1)).Nodup
  paid : ∃ paid : ι → κ,
    (∀ member ∈ company.members,
      member.2.Pays (venue.answers member.1) view share (paid member.1)) ∧
    view company.state = start + (company.members.map fun member => paid member.1).sum

theorem Balanced.step (balanced : Balanced venue view share start company)
    (silent : ∀ state later, venue.others state later → view later = view state)
    (step : Step venue company next) : Balanced venue view share start next := by
  classical
  obtain ⟨distinct, paid, pays, sum⟩ := balanced
  rcases step.cases with ⟨moved, changed⟩ | ⟨before, label, program, rest, after, members, replaced, step⟩
  · have same : view next.state = view company.state := by
      rcases changed with same | changed
      · rw [same]
      · exact silent _ _ changed
    refine ⟨(moved.map (·.1)).nodup_iff.mpr distinct, paid,
      fun member known => pays member (moved.mem_iff.mp known), ?_⟩
    rw [same, sum, (moved.map fun member => paid member.1).sum_eq]
  · have acting : (label, program) ∈ company.members := by rw [members]; simp
    obtain ⟨more, added, goesOn⟩ := (pays _ acting).step silent step
    rw [members] at distinct pays sum
    have others := ne_of_distinct distinct
    -- only the account of the one that acts grows, by what it adds
    let paidThen := Function.update paid label (paid label + more)
    have unpaid : ∀ member ∈ before ++ after, paidThen member.1 = paid member.1 := fun member known =>
      Function.update_of_ne (others member known) _ _
    have own : paidThen label = paid label + more := Function.update_self _ _ _
    refine ⟨?_, paidThen, ?_, ?_⟩
    · rw [replaced]
      simpa using distinct
    · rw [replaced]
      intro member known
      rcases eq_or_mem_of_replaced distinct known with rfl | ⟨there, other⟩
      · rw [own]
        exact goesOn
      · rw [show paidThen member.1 = paid member.1 from Function.update_of_ne other _ _]
        exact pays member there
    · have early : before.map (fun member => paidThen member.1) = before.map fun member => paid member.1 :=
        List.map_congr_left fun member known => unpaid member (List.mem_append_left _ known)
      have late : after.map (fun member => paidThen member.1) = after.map fun member => paid member.1 :=
        List.map_congr_left fun member known => unpaid member (List.mem_append_right _ known)
      rw [added, sum, replaced]
      simp only [List.map_append, List.map_cons, List.sum_append, List.sum_cons, early, late, own]
      ac_rfl

/-- **What its members add to some numbers adds up**: when all have ended, it is the shares of all
results. -/
theorem Balanced.reaches (balanced : Balanced venue view share start company)
    (silent : ∀ state later, venue.others state later → view later = view state)
    (reached : Reaches venue company next) : Balanced venue view share start next := by
  induction reached with
  | refl => exact balanced
  | tail _ step ih => exact ih.step silent step

/-- **No member adds more to a number than a result is worth**, before its end either. -/
theorem Balanced.le {count : σ → Nat} {worth : α → Nat} {first limit : Nat}
    (balanced : Balanced venue count worth first company)
    (answered : ∀ label question state, ∃ reply after, venue.answers label question state reply after)
    (bound : ∀ value, worth value ≤ limit) : count company.state ≤ first + company.members.length * limit := by
  obtain ⟨-, paid, pays, sum⟩ := balanced
  rw [sum, ← List.length_map fun member : ι × Program σ Ask Reply α => paid member.1]
  refine Nat.add_le_add_left (List.sum_le_card_nsmul _ _ fun amount among => ?_) first
  obtain ⟨member, known, rfl⟩ := List.mem_map.mp among
  exact (pays member known).le (answered member.1) bound company.state

theorem Balanced.eq_of_isOver (balanced : Balanced venue view share start company)
    (isOver : company.IsOver) :
    view company.state = start + (company.ended.map fun result => share result.2).sum := by
  obtain ⟨-, paid, pays, sum⟩ := balanced
  rw [members_of_isOver isOver] at pays sum
  have shares : company.ended.map (fun result => paid result.1) =
      company.ended.map fun result => share result.2 := by
    refine List.map_congr_left fun result known => ?_
    exact (pays (result.1, done result.2) (List.mem_map.mpr ⟨result, known, rfl⟩)).symm
  rw [sum, List.map_map]
  exact congrArg (start + List.sum ·) shares

end Company
end StreamWatch.Program
