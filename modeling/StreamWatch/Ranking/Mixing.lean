/-
**Mixing the streams of several providers.**

Providers take turns: every round takes the next stream of each provider that has one left. Streams
without a provider come after all others. The streams of one provider keep their order.
-/

import StreamWatch.Ranking.Candidate
import StreamWatch.Ranking.Settings

namespace StreamWatch.Mixing

/-- The candidates of each provider in their order, by ascending id of the provider. -/
def byProvider (candidates : List Candidate) : SortedMap Int (List Candidate) :=
  candidates.foldl (fun groups c =>
    match c.provider with
    | none => groups
    | some provider => groups.insert provider ((groups.get? provider).getD [] ++ [c]))
    SortedMap.empty

/-- Whether a provider's turn comes before or with another's: by falling priority where priorities
count, then by ascending id. -/
def turnsBefore (mode : Mixing) (providers : Providers) (a b : Int) : Bool :=
  match mode with
  | .priorityWeighted =>
    ((compare (providers.priority b) (providers.priority a)).then (compare a b)).isLE
  | _ => a ≤ b

/-- The groups of candidates in the order of their providers' turns. -/
def turns (mode : Mixing) (providers : Providers) (groups : SortedMap Int (List Candidate)) :
    List (List Candidate) :=
  (groups.entries.mergeSort fun a b => turnsBefore mode providers a.1 b.1).map (·.2)

/-- Takes one item of each list in turn until all are used up. -/
def interleave {α : Type} (lists : List (List α)) : List α :=
  (List.range ((lists.map List.length).foldl max 0)).flatMap fun round =>
    lists.filterMap (·[round]?)

/-- Mixes the providers of candidates. With at most one provider nothing changes. -/
def apply (mode : Mixing) (providers : Providers) (candidates : List Candidate) : List Candidate :=
  let groups := byProvider candidates
  if mode = .disabled ∨ groups.entries.length ≤ 1 then candidates
  else
    interleave (turns mode providers groups) ++ candidates.filter fun c => c.provider.isNone

end StreamWatch.Mixing
