/-
**Programs that run beside each other.**

A program changes a state that it shares with others, one action at a time, and asks the outside for what it
cannot know by itself. Between two actions, and while it waits for an answer, others may run.

What a program holds is let go when the program ends, however it ends. While a program watches, an action is
carried out at once and then after every period, beside whatever the program does.

* `bind_assoc`, `bind_done`, `done_bind`: programs one after the other form a monad;
* `zoom`, `answering`: a program over a larger state, and one whose questions are answered by programs;
* `alone`: what a program comes to without anyone beside it.
-/

import StreamWatch.Time.Duration

namespace StreamWatch

/-- A program over a shared state of type `σ` that asks questions of type `Ask`. -/
inductive Program (σ : Type) (Ask : Type) (Reply : Ask → Type) (α : Type) where
  /-- the end, with a result -/
  | done (value : α)
  /-- one action on the state; the program goes on from the state as it was before -/
  | act (change : σ → σ) (next : σ → Program σ Ask Reply α)
  /-- a question, after whose answer the program goes on -/
  | ask (question : Ask) (next : Reply question → Program σ Ask Reply α)
  /-- from here on something is held -/
  | hold (release : σ → σ) (next : Program σ Ask Reply α)
  /-- what was held last is let go -/
  | letGo (next : Program σ Ask Reply α)
  /-- from here on an action is carried out beside the program -/
  | watch (period : Duration) (action : σ → σ) (next : Program σ Ask Reply α)
  /-- the action beside the program ends -/
  | unwatch (next : Program σ Ask Reply α)
  /-- the end, without a result -/
  | breakOff

namespace Program

variable {σ τ Ask : Type} {Reply : Ask → Type} {α β γ : Type}

/-- One program after the other. -/
def bind : Program σ Ask Reply α → (α → Program σ Ask Reply β) → Program σ Ask Reply β
  | done value, f => f value
  | act change next, f => act change fun before => (next before).bind f
  | ask question next, f => ask question fun reply => (next reply).bind f
  | hold release next, f => hold release (next.bind f)
  | letGo next, f => letGo (next.bind f)
  | watch period action next, f => watch period action (next.bind f)
  | unwatch next, f => unwatch (next.bind f)
  | breakOff, _ => breakOff

instance : Monad (Program σ Ask Reply) where
  pure := done
  bind := bind

@[simp] theorem done_bind (value : α) (f : α → Program σ Ask Reply β) : (done value).bind f = f value := rfl

@[simp] theorem bind_done (p : Program σ Ask Reply α) : p.bind done = p := by
  induction p with
  | done value => rfl
  | act change next ih => simp [bind, ih]
  | ask question next ih => simp [bind, ih]
  | hold release next ih => simp [bind, ih]
  | letGo next ih => simp [bind, ih]
  | watch period action next ih => simp [bind, ih]
  | unwatch next ih => simp [bind, ih]
  | breakOff => rfl

theorem bind_assoc (p : Program σ Ask Reply α) (f : α → Program σ Ask Reply β)
    (g : β → Program σ Ask Reply γ) : (p.bind f).bind g = p.bind fun value => (f value).bind g := by
  induction p with
  | done value => rfl
  | act change next ih => simp [bind, ih]
  | ask question next ih => simp [bind, ih]
  | hold release next ih => simp [bind, ih]
  | letGo next ih => simp [bind, ih]
  | watch period action next ih => simp [bind, ih]
  | unwatch next ih => simp [bind, ih]
  | breakOff => rfl

instance : LawfulMonad (Program σ Ask Reply) :=
  LawfulMonad.mk' _ (fun p => bind_done p) (fun _ _ => rfl) (fun p f g => bind_assoc p f g)

/-- Changes the state. -/
def change (f : σ → σ) : Program σ Ask Reply Unit := act f fun _ => done ()

/-- Changes the state, and tells what it was before. -/
def exchange (f : σ → σ) : Program σ Ask Reply σ := act f done

/-- Looks at the state. -/
def look (f : σ → α) : Program σ Ask Reply α := act id fun state => done (f state)

/-- Asks a question. -/
def get (question : Ask) : Program σ Ask Reply (Reply question) := ask question done

/-- Holds something from here on. -/
def holding (release : σ → σ) : Program σ Ask Reply Unit := hold release (done ())

/-- Lets go what was held last. -/
def lettingGo : Program σ Ask Reply Unit := letGo (done ())

/-- Carries out an action beside the program from here on. -/
def watching (period : Duration) (action : σ → σ) : Program σ Ask Reply Unit := watch period action (done ())

/-- Ends the action beside the program. -/
def unwatching : Program σ Ask Reply Unit := unwatch (done ())

/-- The same program over a larger state. -/
def zoom (get : τ → σ) (put : σ → τ → τ) : Program σ Ask Reply α → Program τ Ask Reply α
  | done value => done value
  | act change next => act (fun state => put (change (get state)) state) fun before =>
      (next (get before)).zoom get put
  | ask question next => ask question fun reply => (next reply).zoom get put
  | hold release next => hold (fun state => put (release (get state)) state) (next.zoom get put)
  | letGo next => letGo (next.zoom get put)
  | watch period action next =>
      watch period (fun state => put (action (get state)) state) (next.zoom get put)
  | unwatch next => unwatch (next.zoom get put)
  | breakOff => breakOff

/-- The same program where each question is answered by a program of its own. -/
def answering {Ask' : Type} {Reply' : Ask' → Type}
    (answer : (question : Ask) → Program σ Ask' Reply' (Reply question)) :
    Program σ Ask Reply α → Program σ Ask' Reply' α
  | done value => done value
  | act change next => act change fun before => (next before).answering answer
  | ask question next => (answer question).bind fun reply => (next reply).answering answer
  | hold release next => hold release (next.answering answer)
  | letGo next => letGo (next.answering answer)
  | watch period action next => watch period action (next.answering answer)
  | unwatch next => unwatch (next.answering answer)
  | breakOff => breakOff

/-- What a program comes to that runs alone: each question is answered at once, if it is answered at all, and with
nobody beside it to see them, what it holds and watches counts for nothing. -/
def alone (answer : (question : Ask) → σ → Option (Reply question) × σ) :
    Program σ Ask Reply α → σ → Option α × σ
  | done value, state => (some value, state)
  | act change next, state => (next state).alone answer (change state)
  | ask question next, state =>
    match answer question state with
    | (some reply, state) => (next reply).alone answer state
    | (none, state) => (none, state)
  | hold _ next, state => next.alone answer state
  | letGo next, state => next.alone answer state
  | watch _ _ next, state => next.alone answer state
  | unwatch next, state => next.alone answer state
  | breakOff, state => (none, state)

end Program
end StreamWatch
