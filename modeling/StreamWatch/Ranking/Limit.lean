/-
**Holding each provider to its limit.**

Candidates are looked at in order, and each is kept while its provider has kept fewer than its limit. A
limit of zero is none, and candidates without a provider are never held back.
-/

import StreamWatch.Ranking.Candidate
import StreamWatch.Ranking.Settings

namespace StreamWatch.LimitSettings

/-- The limit of a provider: its own when it has one, else the one for all. -/
def limitOf (settings : LimitSettings) (providers : Providers) (provider : Int) : Nat :=
  (((providers.settings? provider).bind (·.maxStreams)).getD settings.defaultLimit).toNat

/-- Splits candidates into those kept and those held back, given how many each provider has kept. -/
def split (limit : Int → Nat) :
    (kept : SortedMap Int Nat) → List Candidate → List Candidate × List Candidate
  | _, [] => ([], [])
  | kept, c :: rest =>
    match c.provider with
    | none => let (within, beyond) := split limit kept rest; (c :: within, beyond)
    | some provider =>
      let count := (kept.get? provider).getD 0
      if limit provider = 0 then
        let (within, beyond) := split limit kept rest; (c :: within, beyond)
      else if count < limit provider then
        let (within, beyond) := split limit (kept.insert provider (count + 1)) rest
        (c :: within, beyond)
      else
        let (within, beyond) := split limit kept rest; (within, c :: beyond)

/-- The candidates within the limits and those beyond them, each in their order. -/
def apply (settings : LimitSettings) (providers : Providers) (candidates : List Candidate) :
    List Candidate × List Candidate :=
  if settings.enabled then split (settings.limitOf providers) SortedMap.empty candidates
  else (candidates, [])

end StreamWatch.LimitSettings
