/-
**Walking through all pages of a listing.**

Pages are asked for one after the other, from the first on, until one has no successor or is empty. A page that
cannot be had ends the walk without a result. There are only so many numbers for pages, and the walk breaks off
when it needs one more.
-/

import StreamWatch.Engine.Ask

namespace StreamWatch.Pages

variable {σ α : Type}

/-- The number of pages a listing can have: a page is numbered by 32 bits, from one. -/
def maxPages : Nat := Number.halfBound - 1

/-- All items from a page on, after those of the pages before, when at most so many pages are left. -/
def walkFrom (page : Nat → Work σ (Except RemoteError (Page α))) :
    (left number : Nat) → (before : List α) → Work σ (Except RemoteError (List α))
  -- `walk` does not come here: somebody would have had to answer for a page without a number
  | 0, _, before => pure (.ok before)
  | left + 1, number, before => do
    match ← page number with
    | .error error => pure (.error error)
    | .ok batch =>
      let items := before ++ batch.results
      if batch.hasNext && !batch.results.isEmpty then walkFrom page left (number + 1) items
      else pure (.ok items)

/-- All items of a listing. After the page with the last number the walk may ask for one more, which has none:
there is no such call (`RemoteCall.isNumbered`), so it is not answered, and the walk breaks off. That no more
pages are `left` is therefore never what ends a walk. -/
def walk (page : Nat → Work σ (Except RemoteError (Page α))) : Work σ (Except RemoteError (List α)) :=
  walkFrom page (maxPages + 1) 1 []

/-- Every channel. -/
def channels (size : UInt32) : Work σ (Except RemoteError (List Channel)) :=
  walk fun number => Work.remote (.channels number size)

/-- Every stream. -/
def streams (size : UInt32) : Work σ (Except RemoteError (List Stream)) :=
  walk fun number => Work.remote (.streams number size)

end StreamWatch.Pages
