/-
**The share of a provider in a list of candidates.**

Mixing and limits change the order of a list and its length, but they treat every provider apart. So
they are described by what they do to the share of each provider, the candidates without one
counting as a share too.

* `perm_of_share_eq`: lists with the same shares hold the same candidates;
* `share_append`, `share_of_forall`, `share_of_forall_ne`: the share of a list made of parts.
-/

import StreamWatch.Ranking.Candidate
import Mathlib.Data.List.Perm.Basic

namespace StreamWatch.Candidate

/-- The candidates of a provider, or those without one, in their order. -/
def share (provider : Option Int) (candidates : List Candidate) : List Candidate :=
  candidates.filter fun c => c.provider = provider

variable {provider : Option Int} {candidates : List Candidate}

@[simp] theorem share_nil (provider : Option Int) : share provider [] = [] := rfl

theorem share_cons (provider : Option Int) (c : Candidate) (rest : List Candidate) :
    share provider (c :: rest) =
      if c.provider = provider then c :: share provider rest else share provider rest := by
  simp only [share, List.filter_cons, decide_eq_true_eq]

theorem share_append (provider : Option Int) (first second : List Candidate) :
    share provider (first ++ second) = share provider first ++ share provider second :=
  List.filter_append first second

theorem mem_share {c : Candidate} :
    c ∈ share provider candidates ↔ c ∈ candidates ∧ c.provider = provider := by
  simp only [share, List.mem_filter, decide_eq_true_eq]

theorem share_sublist (provider : Option Int) (candidates : List Candidate) :
    (share provider candidates).Sublist candidates :=
  List.filter_sublist

/-- A list of one provider is that provider's share. -/
theorem share_of_forall (all : ∀ c ∈ candidates, c.provider = provider) :
    share provider candidates = candidates :=
  List.filter_eq_self.mpr fun c member => decide_eq_true (all c member)

/-- A provider has no share in a list of others. -/
theorem share_of_forall_ne (apart : ∀ c ∈ candidates, c.provider ≠ provider) :
    share provider candidates = [] :=
  List.filter_eq_nil_iff.mpr fun c member same => apart c member (of_decide_eq_true same)

/-- **Lists with the same shares hold the same candidates**, each as often. -/
theorem perm_of_share_eq {first second : List Candidate}
    (same : ∀ provider, share provider first = share provider second) : first.Perm second := by
  rw [List.perm_iff_count]
  intro c
  have counted : ∀ l : List Candidate, (share c.provider l).count c = l.count c :=
    fun l => List.count_filter (decide_eq_true rfl)
  rw [← counted first, ← counted second, same]

end StreamWatch.Candidate
