/-
**A task that works through a batch of items.**

Every item takes the same time. Which items fail, which are skipped and at which the task breaks off is all
set, so that such a task shows how tasks are run without any work of its own.
-/

import StreamWatch.Engine.Ask
import StreamWatch.Task.Merge
import StreamWatch.Task.Result

namespace StreamWatch

open Json

/-- What is set for a batch. Of the numbers in front of which is said every, zero means never. -/
structure BatchSettings where
  items : UInt32
  /-- every so many items one fails -/
  failEvery : UInt32 := 0
  /-- every so many items one is skipped, unless it fails -/
  skipEvery : UInt32 := 0
  /-- the item at which the task breaks off; zero for none -/
  breakAt : UInt32 := 0
  /-- whether the settings are to be refused -/
  isBad : Bool := false
deriving DecidableEq, Inhabited, Repr

namespace BatchSettings

/-- Read from a document value. -/
def decode : Decoder BatchSettings :=
  (BatchSettings.mk <$> Fields.required "items" .halfWord <*> .withDefault "fail_every" .halfWord 0
    <*> .withDefault "skip_every" .halfWord 0 <*> .withDefault "panic_at" .halfWord 0
    <*> .withDefault "bad" .bool false).decode

/-- As a document value. -/
def toJson (settings : BatchSettings) : Json :=
  .ofMembers [("items", .ofNat settings.items.toNat), ("fail_every", .ofNat settings.failEvery.toNat),
    ("skip_every", .ofNat settings.skipEvery.toNat), ("panic_at", .ofNat settings.breakAt.toNat),
    ("bad", .bool settings.isBad)]

/-- Whether a number of an item is one of every so many. -/
def isEvery (every : UInt32) (number : Nat) : Bool := every != 0 && number % every.toNat == 0

/-- The settings with a change laid over them. A batch has at least one item. -/
def change (settings : BatchSettings) (change : Json) : Except String BatchSettings := do
  let merged ← (mergeSettings toJson decode settings change).mapError (·.message)
  if merged.items = 0 then throw "items must be greater than zero"
  else pure merged

/-- Refuses bad settings. -/
def check (settings : BatchSettings) : Except String Unit :=
  if settings.isBad then .error "bad setting" else .ok ⟨⟩

end BatchSettings

namespace Batch

open Program

/-- One item. -/
def runItem (settings : BatchSettings) (pace : Duration) (number : Nat) : Work TaskCell Unit := do
  change (·.update { item := some (some s!"item {number}") })
  Work.sleep pace
  if number = settings.breakAt.toNat then
    breakOff
  else if BatchSettings.isEvery settings.failEvery number then
    change (·.count 0 1 0)
  else if BatchSettings.isEvery settings.skipEvery number then
    change (·.count 0 0 1)
  else
    change (·.count 1 0 0)

/-- The items of some numbers, one after the other. It tells whether the task was asked to stop. -/
def runItems (settings : BatchSettings) (pace : Duration) : List Nat → Work TaskCell Bool
  | [] => pure false
  | number :: rest => do
    if ← look (·.isCancelled) then
      return true
    runItem settings pace number
    runItems settings pace rest

/-- A whole execution. -/
def run (settings : BatchSettings) (pace : Duration) : Work TaskCell TaskReport := do
  change (·.start "processing")
  change (·.update { total := some settings.items.toNat })
  if ← runItems settings pace ((List.range settings.items.toNat).map (· + 1)) then
    return .cancelled (← look (·.progress)) "Batch cancelled"
  change (·.update { status := some "completed", item := some none })
  return .ofProgress (← look (·.progress)) "Batch processed"

end Batch
end StreamWatch
