/-
**What a walk through all pages asks for, and what it brings home.**

A remote answers every call always alike, so a listing is a function from page numbers to pages. The walk asks for
the pages in the order of their numbers, each of them once, up to the first one that is the last: one that cannot
be had, that names no successor or that is empty. There are only so many numbers. When even the page with the last
of them leads on, the walk breaks off and brings nothing.

* `alone_leading`: pages that lead on are asked for one after the other, by induction on how many they are;
* `alone_last`, `alone_unnumbered`: what then ends a walk;
* `IsCut`: pages that a list is cut into, of which as many are asked for as the list takes up (`IsCut.endsAfter`);
* `walk_brings_all`: all of this for the channels and for the streams of any remote;
* `not_forall_brought`: a list that takes up more pages than there are numbers is not brought home.
-/

import Mathlib.Algebra.Order.Group.Nat
import Mathlib.Data.Nat.Find
import StreamWatch.Remote.Pages

namespace StreamWatch.Pages

open Program

variable {α : Type}

/-- A remote that answers each call always alike, if there is such a call; the calls are noted in the order in which
they come. -/
def noting (server : (call : RemoteCall) → call.Reply) :
    (question : Ask) → List RemoteCall → Option question.Reply × List RemoteCall
  | .remote call, calls => if call.isNumbered then (some (server call), calls ++ [call]) else (none, calls)
  | _, calls => (none, calls)

/-- A page after which the next one is asked for. -/
def LeadsOn (reply : Except RemoteError (Page α)) : Prop :=
  ∃ batch, reply = .ok batch ∧ batch.next ≠ none ∧ batch.results ≠ []

/-- Whether so many pages are all there are: each of them leads on to the next, but the last one does not. -/
structure EndsAfter (page : Nat → Except RemoteError (Page α)) (count : Nat) : Prop where
  begun : 0 < count
  leading : ∀ number, 1 ≤ number → number < count → LeadsOn (page number)
  last : ¬ LeadsOn (page count)

/-- The items on a page, if it can be had. -/
def itemsOn : Except RemoteError (Page α) → List α
  | .ok batch => batch.results
  | .error _ => []

/-- The items on so many pages from the first on, page after page. -/
def itemsUpTo (page : Nat → Except RemoteError (Page α)) (count : Nat) : List α :=
  (List.range' 1 count).flatMap fun number => itemsOn (page number)

/-- What so many pages come to: why the last of them cannot be had, or else the items on all of them. -/
def gathered (page : Nat → Except RemoteError (Page α)) (count : Nat) : Except RemoteError (List α) :=
  match page count with
  | .error error => .error error
  | .ok _ => .ok (itemsUpTo page count)

/-- Pages that do not all lead on end after the first one that does not. -/
theorem exists_endsAfter {page : Nat → Except RemoteError (Page α)} {lastNumber : Nat}
    (ends : ¬ ∀ number, 1 ≤ number → number ≤ lastNumber → LeadsOn (page number)) :
    ∃ count, count ≤ lastNumber ∧ EndsAfter page count := by
  classical
  push Not at ends
  obtain ⟨begun, within, last⟩ := Nat.find_spec ends
  refine ⟨Nat.find ends, within, begun, fun number first earlier => ?_, last⟩
  by_contra stays
  exact Nat.find_min ends earlier ⟨first, earlier.le.trans within, stays⟩

theorem itemsUpTo_succ (page : Nat → Except RemoteError (Page α)) (count : Nat) :
    itemsUpTo page (count + 1) = itemsUpTo page count ++ itemsOn (page (count + 1)) := by
  rw [itemsUpTo, List.range'_1_concat, List.flatMap_append, Nat.add_comm 1 count]
  simp [itemsUpTo]

theorem leadsOn_ok {batch : Page α} :
    LeadsOn (.ok batch) ↔ (batch.hasNext && !batch.results.isEmpty) = true := by
  simp [LeadsOn, Page.hasNext, Option.isSome_iff_ne_none]

/-! ### One page after the other -/

theorem alone_bind {σ β γ : Type} (answer : (question : Ask) → σ → Option question.Reply × σ)
    (work : Work σ β) (next : β → Work σ γ) (state : σ) :
    (work.bind next).alone answer state =
      match work.alone answer state with
      | (some value, later) => (next value).alone answer later
      | (none, later) => (none, later) := by
  induction work generalizing state with
  | done value => rfl
  | act change rest ih => exact ih state (change state)
  | ask question rest ih =>
    simp only [Program.bind, alone]
    obtain ⟨reply | reply, later⟩ := answer question state
    · rfl
    · exact ih reply later
  | hold release rest ih => exact ih state
  | letGo rest ih => exact ih state
  | watch period action rest ih => exact ih state
  | unwatch rest ih => exact ih state
  | breakOff => rfl

/-- Whether a program asks for the page of a number. When there is no such number, it is not answered. -/
def Asks (server : (call : RemoteCall) → call.Reply) (call : Nat → RemoteCall)
    (page : Nat → Except RemoteError (Page α))
    (ask : Nat → Work (List RemoteCall) (Except RemoteError (Page α))) : Prop :=
  ∀ number calls, (ask number).alone (noting server) calls =
    if number ≤ maxPages then (some (page number), calls ++ [call number]) else (none, calls)

section
variable {page : Nat → Except RemoteError (Page α)} {server : (call : RemoteCall) → call.Reply}
  {call : Nat → RemoteCall} {ask : Nat → Work (List RemoteCall) (Except RemoteError (Page α))}

/-- A page that leads on is noted and its items are kept. -/
theorem alone_leads (asks : Asks server call page ask) {number : Nat} (numbered : number ≤ maxPages)
    (leads : LeadsOn (page number)) (left : Nat) (before : List α) (calls : List RemoteCall) :
    (walkFrom ask (left + 1) number before).alone (noting server) calls =
      (walkFrom ask left (number + 1) (before ++ itemsOn (page number))).alone (noting server)
        (calls ++ [call number]) := by
  obtain ⟨batch, found, -⟩ := id leads
  rw [found, leadsOn_ok] at leads
  refine (alone_bind _ (ask number) _ calls).trans ?_
  simp only [asks number calls, if_pos numbered, found, leads, if_true]
  rfl

/-- **The pages that lead on are asked for one after the other.** -/
theorem alone_leading (asks : Asks server call page ask) {count : Nat} (numbered : count ≤ maxPages)
    (leading : ∀ number, 1 ≤ number → number ≤ count → LeadsOn (page number)) (left : Nat) :
    (walkFrom ask (left + count) 1 []).alone (noting server) [] =
      (walkFrom ask left (count + 1) (itemsUpTo page count)).alone (noting server)
        ((List.range' 1 count).map call) := by
  induction count generalizing left with
  | zero => rfl
  | succ count ih =>
    have earlier := ih (Nat.le_of_succ_le numbered)
      (fun number positive within => leading number positive (Nat.le_succ_of_le within)) (left + 1)
    have leads := leading (count + 1) (Nat.le_add_left 1 count) (Nat.le_refl (count + 1))
    rw [← Nat.succ_add_eq_add_succ, earlier, alone_leads asks numbered leads, itemsUpTo_succ,
      List.range'_1_concat, List.map_append, Nat.add_comm 1 count]
    rfl

/-- With a page that does not lead on, the walk is over. -/
theorem alone_last (asks : Asks server call page ask) {count : Nat} (numbered : count + 1 ≤ maxPages)
    (ends : ¬ LeadsOn (page (count + 1))) (left : Nat) (calls : List RemoteCall) :
    (walkFrom ask (left + 1) (count + 1) (itemsUpTo page count)).alone (noting server) calls =
      (some (gathered page (count + 1)), calls ++ [call (count + 1)]) := by
  refine (alone_bind _ (ask (count + 1)) _ calls).trans ?_
  rw [asks (count + 1) calls, if_pos numbered, gathered, itemsUpTo_succ]
  cases found : page (count + 1) with
  | error error => rfl
  | ok batch =>
    rw [found, leadsOn_ok, Bool.not_eq_true] at ends
    simp only [ends]
    rfl

/-- Where the numbers have run out, the walk breaks off. -/
theorem alone_unnumbered (asks : Asks server call page ask) (left : Nat) (before : List α)
    (calls : List RemoteCall) :
    (walkFrom ask (left + 1) (maxPages + 1) before).alone (noting server) calls = (none, calls) := by
  refine (alone_bind _ (ask (maxPages + 1)) _ calls).trans ?_
  rw [asks (maxPages + 1) calls, if_neg (Nat.not_succ_le_self maxPages)]

/-- **A walk asks for all the pages there are**, each of them once, and gathers what they hold. -/
theorem alone_walk_of_endsAfter (asks : Asks server call page ask) {count : Nat} (numbered : count ≤ maxPages)
    (ends : EndsAfter page count) :
    (walk ask).alone (noting server) [] = (some (gathered page count), (List.range' 1 count).map call) := by
  obtain ⟨earlier, rfl⟩ := Nat.exists_eq_succ_of_ne_zero ends.begun.ne'
  obtain ⟨left, all⟩ := Nat.exists_eq_add_of_le' numbered
  have leading : ∀ number, 1 ≤ number → number ≤ earlier → LeadsOn (page number) :=
    fun number positive within => ends.leading number positive (Nat.lt_succ_of_le within)
  have enough : maxPages + 1 = left + 1 + 1 + earlier := by omega
  rw [walk, enough, alone_leading asks (Nat.le_of_succ_le numbered) leading,
    alone_last asks numbered ends.last, List.range'_1_concat, List.map_append, Nat.add_comm 1 earlier]
  rfl

/-- **A walk for which there are not numbers enough breaks off**, with every page asked for that has one. -/
theorem alone_walk_of_leading (asks : Asks server call page ask)
    (leading : ∀ number, 1 ≤ number → number ≤ maxPages → LeadsOn (page number)) :
    (walk ask).alone (noting server) [] = (none, (List.range' 1 maxPages).map call) := by
  rw [walk, Nat.add_comm maxPages 1, alone_leading asks (Nat.le_refl maxPages) leading]
  exact alone_unnumbered asks 0 _ _

end

/-! ### Pages that a list is cut into -/

/-- The items of one page, when each page has so many. -/
def slice (items : List α) (size number : Nat) : List α := (items.drop ((number - 1) * size)).take size

/-- The pages of a list that is cut into pages of one size: each has its items in their order, and each but the last
names a successor. -/
def IsCut (items : List α) (size : Nat) (page : Nat → Except RemoteError (Page α)) : Prop :=
  ∀ number, 1 ≤ number → number ≤ maxPages → ∃ batch, page number = .ok batch ∧
    batch.results = slice items size number ∧ (batch.next ≠ none ↔ number * size < items.length)

/-- How many pages a list takes up; an empty list takes up one, too. -/
def pagesOf (length size : Nat) : Nat := max 1 ((length + size - 1) / size)

/-- The pages a list takes up are as many as are needed, and no more. -/
theorem pagesOf_le_iff {length size count : Nat} (positive : 0 < size) :
    pagesOf length size ≤ count ↔ 1 ≤ count ∧ length ≤ count * size := by
  rw [pagesOf, max_le_iff, Nat.div_le_iff_le_mul_add_pred positive, Nat.mul_comm size count]
  omega

section
variable {items : List α} {size : Nat} {page : Nat → Except RemoteError (Page α)}

/-- A page leads on when there are items after it. -/
theorem IsCut.leadsOn_iff (cut : IsCut items size page) (positive : 0 < size) {number : Nat} (begun : 1 ≤ number)
    (numbered : number ≤ maxPages) : LeadsOn (page number) ↔ number * size < items.length := by
  obtain ⟨batch, found, sliced, goesOn⟩ := cut number begun numbered
  constructor
  · rintro ⟨other, same, linked, -⟩
    cases found.symm.trans same
    exact goesOn.mp linked
  · intro more
    refine ⟨batch, found, goesOn.mpr more, ?_⟩
    rw [sliced, slice, ne_eq, List.take_eq_nil_iff, List.drop_eq_nil_iff, Nat.sub_mul]
    omega

theorem IsCut.itemsUpTo_eq (cut : IsCut items size page) {count : Nat} (numbered : count ≤ maxPages) :
    itemsUpTo page count = items.take (count * size) := by
  induction count with
  | zero => simp [itemsUpTo]
  | succ count ih =>
    obtain ⟨batch, found, sliced, -⟩ := cut (count + 1) (Nat.le_add_left 1 count) numbered
    rw [itemsUpTo_succ, ih (Nat.le_of_succ_le numbered), found, itemsOn, sliced, slice, Nat.succ_mul, List.take_add,
      Nat.add_sub_cancel]

/-- **A list has the pages that it takes up**, when there are numbers for them. -/
theorem IsCut.endsAfter (cut : IsCut items size page) (positive : 0 < size)
    (numbered : pagesOf items.length size ≤ maxPages) : EndsAfter page (pagesOf items.length size) := by
  obtain ⟨begun, reaches⟩ : 1 ≤ pagesOf items.length size ∧ items.length ≤ pagesOf items.length size * size :=
    (pagesOf_le_iff positive).mp le_rfl
  refine ⟨begun, fun number first within => ?_, fun leads => ?_⟩
  · rw [cut.leadsOn_iff positive first (within.le.trans numbered)]
    by_contra short
    exact within.not_ge ((pagesOf_le_iff positive).mpr ⟨first, Nat.not_lt.mp short⟩)
  · exact Nat.not_lt.mpr reaches ((cut.leadsOn_iff positive begun numbered).mp leads)

/-- All pages lead on that have a number when the list takes up more of them. -/
theorem IsCut.leading (cut : IsCut items size page) (positive : 0 < size) (long : maxPages * size < items.length)
    (number : Nat) (begun : 1 ≤ number) (numbered : number ≤ maxPages) : LeadsOn (page number) :=
  (cut.leadsOn_iff positive begun numbered).mpr ((Nat.mul_le_mul_right size numbered).trans_lt long)

/-- The pages that a list takes up come to the list. -/
theorem IsCut.gathered_eq (cut : IsCut items size page) (positive : 0 < size)
    (numbered : pagesOf items.length size ≤ maxPages) :
    gathered page (pagesOf items.length size) = .ok items := by
  obtain ⟨begun, reaches⟩ : 1 ≤ pagesOf items.length size ∧ items.length ≤ pagesOf items.length size * size :=
    (pagesOf_le_iff positive).mp le_rfl
  obtain ⟨batch, found, -⟩ := cut _ begun numbered
  rw [gathered, found, cut.itemsUpTo_eq numbered, List.take_of_length_le reaches]

end

/-! ### Channels and streams -/

/-- What a walk does, where pages have numbers up to some last one. Either the pages end in time: then it asks for all
of them in their order, each once, and brings what they come to. Or none of those with a number is the last: then it
asks for these, and brings nothing. And when they are those of a list, cut into pages of the size that is asked for, and
there are numbers enough, it brings the list. -/
def BringsAll (lastNumber : Nat) (server : (call : RemoteCall) → call.Reply) (call : Nat → RemoteCall)
    (page : Nat → Except RemoteError (Page α)) (size : Nat)
    (work : Work (List RemoteCall) (Except RemoteError (List α))) : Prop :=
  ((∃ count, count ≤ lastNumber ∧ EndsAfter page count ∧
      work.alone (noting server) [] = (some (gathered page count), (List.range' 1 count).map call)) ∨
    (∀ number, 1 ≤ number → number ≤ lastNumber → LeadsOn (page number)) ∧
      work.alone (noting server) [] = (none, (List.range' 1 lastNumber).map call)) ∧
  ∀ items, 0 < size → items.length ≤ lastNumber * size → IsCut items size page →
    work.alone (noting server) [] = (some (.ok items), (List.range' 1 (pagesOf items.length size)).map call)

theorem bringsAll_walk {server : (call : RemoteCall) → call.Reply} {call : Nat → RemoteCall}
    {page : Nat → Except RemoteError (Page α)}
    {ask : Nat → Work (List RemoteCall) (Except RemoteError (Page α))} (size : Nat)
    (asks : Asks server call page ask) : BringsAll maxPages server call page size (walk ask) := by
  constructor
  · by_cases leading : ∀ number, 1 ≤ number → number ≤ maxPages → LeadsOn (page number)
    · exact .inr ⟨leading, alone_walk_of_leading asks leading⟩
    · obtain ⟨count, numbered, ends⟩ := exists_endsAfter leading
      exact .inl ⟨count, numbered, ends, alone_walk_of_endsAfter asks numbered ends⟩
  · intro items positive enough cut
    have numbered : pagesOf items.length size ≤ maxPages := (pagesOf_le_iff positive).mpr ⟨by decide, enough⟩
    rw [alone_walk_of_endsAfter asks numbered (cut.endsAfter positive numbered), cut.gathered_eq positive numbered]

/-- A call for the page of some number is answered when the number is not beyond the last one. -/
theorem alone_remote (server : (call : RemoteCall) → call.Reply) {call : RemoteCall} {number : Nat}
    (counted : call.isNumbered = decide (number < Number.halfBound)) (calls : List RemoteCall) :
    (Work.remote call : Work (List RemoteCall) call.Reply).alone (noting server) calls =
      if number ≤ maxPages then (some (server call), calls ++ [call]) else (none, calls) := by
  have numbered : number < Number.halfBound ↔ number ≤ maxPages := Nat.lt_iff_le_pred (by decide)
  by_cases within : number ≤ maxPages <;>
    simp [Work.remote, Program.get, alone, noting, counted, numbered, within]

/-- **A walk loses and repeats nothing**, of the channels as of the streams, whatever the remote answers, as long as
there are numbers for the pages. -/
theorem walk_brings_all (server : (call : RemoteCall) → call.Reply) (size : UInt32) :
    BringsAll (2 ^ 32 - 1) server (fun number => .channels number size)
      (fun number => server (.channels number size)) size.toNat (channels size) ∧
    BringsAll (2 ^ 32 - 1) server (fun number => .streams number size)
      (fun number => server (.streams number size)) size.toNat (streams size) :=
  ⟨bringsAll_walk _ fun _ => alone_remote server rfl, bringsAll_walk _ fun _ => alone_remote server rfl⟩

/-- The pages of a list. -/
def cutting (items : List α) (size number : Nat) : Page α where
  results := slice items size number
  count := items.length
  next := if number * size < items.length then some "next" else none

theorem isCut_cutting (items : List α) (size : Nat) :
    IsCut items size fun number => .ok (cutting items size number) := by
  intro number _ _
  refine ⟨_, rfl, rfl, ?_⟩
  by_cases more : number * size < items.length <;> simp [cutting, more]

/-- A remote with some streams and nothing else. -/
def holding (items : List Stream) : (call : RemoteCall) → call.Reply
  | .streams number size => .ok (cutting items size.toNat number)
  | _ => .error .transport

/-- Five streams. -/
def fiveStreams : List Stream :=
  [{ id := 4, name := "A", url := none, account := none }, { id := 1, name := "B", url := none, account := none },
   { id := 5, name := "C", url := none, account := none }, { id := 9, name := "D", url := none, account := none },
   { id := 2, name := "E", url := none, account := none }]

/-- In pages of two, five streams take three requests. -/
theorem walk_brings_five :
    IsCut fiveStreams 2 (fun number => holding fiveStreams (.streams number 2)) ∧
    (streams 2).alone (noting (holding fiveStreams)) [] =
      (some (.ok fiveStreams), [.streams 1 2, .streams 2 2, .streams 3 2]) :=
  have cut : IsCut fiveStreams 2 fun number => holding fiveStreams (.streams number 2) := isCut_cutting _ 2
  ⟨cut, (walk_brings_all (holding fiveStreams) 2).2.2 fiveStreams (by decide) (by decide) cut⟩

/-- A remote with two pages of streams, the first of which links to the second by an empty text. -/
def blankLinked : (call : RemoteCall) → call.Reply
  | .streams number _ =>
    .ok { results := [{ id := number, name := "A", url := none, account := none }],
          next := if number = 1 then some "" else none }
  | _ => .error .transport

/-- **Not every list is brought home**: in pages of one, a list with one stream more than there are numbers leaves the
walk without a number for its last page. And a page that links to the next one by an empty text leads on, too. -/
theorem not_forall_brought :
    (¬ ∀ (server : (call : RemoteCall) → call.Reply) (size : UInt32) (items : List Stream), 0 < size.toNat →
      IsCut items size.toNat (fun number => server (.streams number size)) →
      ((streams size).alone (noting server) []).1 = some (.ok items)) ∧
    ((streams 1).alone (noting blankLinked) []).2 = [.streams 1 1, .streams 2 1] := by
  have asks (server : (call : RemoteCall) → call.Reply) : Asks server (fun number => .streams number 1)
      (fun number => server (.streams number 1)) fun number => Work.remote (.streams number 1) :=
    fun _ => alone_remote server rfl
  constructor
  · intro brought
    let items : List Stream := List.replicate (maxPages + 1) { id := 1, name := "A", url := none, account := none }
    have cut : IsCut items 1 fun number => holding items (.streams number 1) := isCut_cutting items 1
    have long : maxPages * 1 < items.length := by
      rw [List.length_replicate]
      exact Nat.lt_succ_self maxPages
    have whole := brought (holding items) 1 items Nat.one_pos cut
    rw [streams, alone_walk_of_leading (asks _) (cut.leading Nat.one_pos long)] at whole
    cases whole
  · have ends : EndsAfter (fun number => blankLinked (.streams number 1)) 2 := by
      refine ⟨Nat.two_pos, fun number begun within => ?_, ?_⟩
      · obtain rfl : number = 1 := by omega
        exact ⟨_, rfl, nofun, nofun⟩
      · rintro ⟨batch, found, linked, -⟩
        cases found
        exact linked rfl
    rw [streams, alone_walk_of_endsAfter (asks _) (by decide) ends]
    rfl

end StreamWatch.Pages
