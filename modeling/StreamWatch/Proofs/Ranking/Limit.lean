/-
**Limits cut every share short.**

The place of a candidate is the number of candidates of its provider before it. A candidate is kept
by its place alone: the count of kept candidates that is carried along never says more. So limits
take the first candidates of every share, whatever the order between the shares is.

* `split_eq`: who is kept is told by places;
* `share_kept`, `share_beyond`: the first candidates of each share are kept, and the others are not;
* `kept_rounds`: cutting rounds short gives the rounds over queues cut short.
-/

import StreamWatch.Ranking.Limit
import StreamWatch.Proofs.Ranking.Mixing
import Mathlib.Data.List.Basic

namespace StreamWatch.LimitSettings

open Candidate

/-! ### Places -/

/-- Candidates with the number of their provider's candidates before them, after some that came
earlier. -/
def places (before : List Candidate) : List Candidate → List (Candidate × Nat)
  | [] => []
  | c :: rest => (c, (share c.provider before).length) :: places (before ++ [c]) rest

theorem places_append (before first second : List Candidate) :
    places before (first ++ second) = places before first ++ places (before ++ first) second := by
  induction first generalizing before with
  | nil => rw [List.append_nil]; rfl
  | cons c rest ih => rw [List.cons_append, places, ih, places, List.append_assoc]; rfl

theorem places_map_fst (before candidates : List Candidate) :
    (places before candidates).map (·.1) = candidates := by
  induction candidates generalizing before with
  | nil => rfl
  | cons c rest ih => rw [places, List.map_cons, ih]

/-- The places in a share count up. -/
theorem share_places (chosen : Candidate × Nat → Bool) (provider : Option Int)
    (before candidates : List Candidate) :
    share provider (((places before candidates).filter chosen).map (·.1)) =
      (((share provider candidates).zipIdx (share provider before).length).filter chosen).map (·.1) := by
  induction candidates generalizing before with
  | nil => rfl
  | cons c rest ih =>
    have later := ih (before ++ [c])
    rw [share_append, share_cons, share_nil] at later
    rw [places, share_cons, List.filter_cons]
    by_cases belongs : c.provider = provider
    · subst belongs
      simp only [if_true, List.length_append, List.length_cons, List.length_nil, Nat.zero_add] at later
      simp only [if_true, List.zipIdx_cons, List.filter_cons]
      split
      · rw [List.map_cons, share_cons, if_pos rfl, later, List.map_cons]
      · exact later
    · simp only [belongs, if_false, List.append_nil] at later
      simp only [belongs, if_false]
      split
      · rw [List.map_cons, share_cons, if_neg belongs, later]
      · exact later

/-! ### Who is kept -/

/-- Whether a candidate at a place is within the limits. -/
def admits (limit : Int → Nat) (place : Candidate × Nat) : Bool :=
  match place.1.provider with
  | none => true
  | some provider => limit provider == 0 || decide (place.2 < limit provider)

/-- The candidates within the limits, after some that came earlier. -/
def kept (limit : Int → Nat) (before candidates : List Candidate) : List Candidate :=
  ((places before candidates).filter (admits limit)).map (·.1)

/-- The candidates beyond the limits, after some that came earlier. -/
def beyond (limit : Int → Nat) (before candidates : List Candidate) : List Candidate :=
  ((places before candidates).filter fun place => !admits limit place).map (·.1)

theorem kept_cons (limit : Int → Nat) (before : List Candidate) (c : Candidate)
    (rest : List Candidate) :
    kept limit before (c :: rest) =
      if admits limit (c, (share c.provider before).length) then c :: kept limit (before ++ [c]) rest
      else kept limit (before ++ [c]) rest := by
  rw [kept, places, List.filter_cons]
  split
  · rw [List.map_cons, kept]
  · rfl

theorem beyond_cons (limit : Int → Nat) (before : List Candidate) (c : Candidate)
    (rest : List Candidate) :
    beyond limit before (c :: rest) =
      if admits limit (c, (share c.provider before).length) then beyond limit (before ++ [c]) rest
      else c :: beyond limit (before ++ [c]) rest := by
  rw [beyond, places, List.filter_cons]
  cases admits limit (c, (share c.provider before).length) <;> rfl

/-- Whether the counts of kept candidates agree with the candidates looked at. -/
def Counted (limit : Int → Nat) (before : List Candidate) (counts : SortedMap Int Nat) : Prop :=
  ∀ provider, (counts.get? provider).getD 0 = min (limit provider) (share (some provider) before).length

namespace Counted

variable {limit : Int → Nat} {before : List Candidate} {counts : SortedMap Int Nat}

/-- A candidate that is not counted leaves the counts in agreement when its provider has no more to
keep. -/
theorem pass (counted : Counted limit before counts) {c : Candidate}
    (full : ∀ provider, c.provider = some provider →
      limit provider ≤ (share (some provider) before).length) :
    Counted limit (before ++ [c]) counts := by
  intro provider
  rw [counted provider, share_append, share_cons, share_nil]
  by_cases belongs : c.provider = some provider
  · have := full provider belongs
    simp only [belongs, if_true, List.length_append, List.length_cons, List.length_nil]
    omega
  · simp only [belongs, if_false, List.append_nil]

/-- Counting a candidate keeps the counts in agreement while its provider has more to keep. -/
theorem count (counted : Counted limit before counts) {c : Candidate} {provider : Int}
    (belongs : c.provider = some provider) (room : (counts.get? provider).getD 0 < limit provider) :
    Counted limit (before ++ [c]) (counts.insert provider ((counts.get? provider).getD 0 + 1)) := by
  intro other
  rw [share_append, share_cons, share_nil, belongs]
  by_cases same : other = provider
  · subst same
    have agreed := counted other
    rw [SortedMap.get?_insert_self]
    simp only [if_true, List.length_append, List.length_cons, List.length_nil, Option.getD_some]
    omega
  · have differ : ¬ some provider = some other := fun equal => same (Option.some.inj equal).symm
    rw [SortedMap.get?_insert_of_ne _ same, counted other]
    simp only [differ, if_false, List.append_nil]

end Counted

/-- **Who is kept is told by places.** -/
theorem split_eq (limit : Int → Nat) {before : List Candidate} {counts : SortedMap Int Nat}
    (counted : Counted limit before counts) (candidates : List Candidate) :
    split limit counts candidates = (kept limit before candidates, beyond limit before candidates) := by
  induction candidates generalizing before counts with
  | nil => rfl
  | cons c rest ih =>
    rw [split, kept_cons, beyond_cons]
    cases belongs : c.provider with
    | none =>
      have passed := counted.pass (c := c) fun provider same => by rw [belongs] at same; cases same
      have admitted : admits limit (c, (share none before).length) = true := by simp [admits, belongs]
      simp only [ih passed, admitted, if_true]
    | some provider =>
      have agreed := counted provider
      by_cases unlimited : limit provider = 0
      · have passed := counted.pass (c := c) fun other same => by
          rw [belongs] at same
          cases same
          rw [unlimited]
          exact Nat.zero_le _
        have admitted : admits limit (c, (share (some provider) before).length) = true := by
          simp [admits, belongs, unlimited]
        simp only [ih passed, admitted, unlimited, if_true]
      · by_cases room : (counts.get? provider).getD 0 < limit provider
        · have admitted : admits limit (c, (share (some provider) before).length) = true := by
            simp only [admits, belongs, Bool.or_eq_true, decide_eq_true_eq]
            omega
          simp only [ih (counted.count belongs room), admitted, unlimited, room, if_false, if_true]
        · have late : limit provider ≤ (share (some provider) before).length := by omega
          have passed := counted.pass (c := c) fun other same => by
            rw [belongs] at same
            cases same
            exact late
          have refused : admits limit (c, (share (some provider) before).length) = false := by
            simp [admits, belongs, unlimited, late]
          simp [ih passed, refused, unlimited, room]

theorem kept_sublist (limit : Int → Nat) (before candidates : List Candidate) :
    (kept limit before candidates).Sublist candidates := by
  have part := List.filter_sublist (p := admits limit) (l := places before candidates)
  have named := part.map (·.1)
  rw [places_map_fst] at named
  exact named

/-- Nobody is lost to a limit. -/
theorem kept_append_beyond_perm (limit : Int → Nat) (before candidates : List Candidate) :
    (kept limit before candidates ++ beyond limit before candidates).Perm candidates := by
  have parted := (List.filter_append_perm (admits limit) (places before candidates)).map (·.1)
  rw [List.map_append, places_map_fst] at parted
  exact parted

/-! ### Shares cut short -/

section Shares

variable {α : Type}

/-- The beginning of a list up to a limit, where zero is none. -/
def trim (limit : Nat) (l : List α) : List α := if limit = 0 then l else l.take limit

/-- What a limit leaves out of a list. -/
def excess (limit : Nat) (l : List α) : List α := if limit = 0 then [] else l.drop limit

theorem trim_sublist (limit : Nat) (l : List α) : (trim limit l).Sublist l := by
  unfold trim
  split
  · exact List.Sublist.refl l
  · exact List.take_sublist limit l

theorem trim_ne_nil_iff (limit : Nat) (l : List α) : trim limit l ≠ [] ↔ l ≠ [] := by
  unfold trim
  split
  · rfl
  · next limited => simp [limited]

theorem length_trim_le {limit : Nat} (limited : limit ≠ 0) (l : List α) :
    (trim limit l).length ≤ limit := by
  rw [trim, if_neg limited, List.length_take]
  exact Nat.min_le_left _ _

theorem getElem?_trim (limit : Nat) (l : List α) (n : Nat) :
    (trim limit l)[n]? = if limit = 0 ∨ n < limit then l[n]? else none := by
  unfold trim
  by_cases unlimited : limit = 0
  · simp [unlimited]
  · simp only [unlimited, if_false, List.getElem?_take, false_or]

/-- The entries numbered below a limit are the beginning of a list, and the others are the rest of
it. -/
theorem zipIdx_filter (l : List α) (start limit : Nat) :
    ((l.zipIdx start).filter fun place => place.2 < limit).map (·.1) = l.take (limit - start) ∧
      ((l.zipIdx start).filter fun place => !decide (place.2 < limit)).map (·.1) =
        l.drop (limit - start) := by
  induction l generalizing start with
  | nil => rw [List.take_nil, List.drop_nil]; exact ⟨rfl, rfl⟩
  | cons a rest ih =>
    obtain ⟨early, late⟩ := ih (start + 1)
    rw [List.zipIdx_cons, List.filter_cons, List.filter_cons]
    by_cases room : start < limit
    · have more : limit - start = limit - (start + 1) + 1 := by omega
      rw [more, List.take_succ_cons, List.drop_succ_cons, ← early, ← late]
      simp [room]
    · have done : limit - start = 0 ∧ limit - (start + 1) = 0 := by omega
      rw [done.2] at early late
      rw [done.1, List.take_zero, List.drop_zero]
      simp only [room, decide_false, Bool.not_false, Bool.false_eq_true, if_false, if_true,
        List.map_cons]
      exact ⟨early.trans List.take_zero, by rw [late, List.drop_zero]⟩

end Shares

theorem provider_of_mem_share {provider : Option Int} {candidates : List Candidate} {start : Nat}
    {place : Candidate × Nat} (member : place ∈ (share provider candidates).zipIdx start) :
    place.1.provider = provider :=
  (mem_share.mp (List.fst_mem_of_mem_zipIdx member)).2

/-- **The first candidates of every share are kept.** -/
theorem share_kept (limit : Int → Nat) (candidates : List Candidate) (provider : Int) :
    share (some provider) (kept limit [] candidates) =
      trim (limit provider) (share (some provider) candidates) := by
  rw [kept, share_places, share_nil, List.length_nil, trim]
  by_cases unlimited : limit provider = 0
  · have all : ∀ place ∈ (share (some provider) candidates).zipIdx, admits limit place = true := by
      intro place member
      simp [admits, provider_of_mem_share member, unlimited]
    rw [if_pos unlimited, List.filter_eq_self.mpr all, List.zipIdx_map_fst]
  · have told : ∀ place ∈ (share (some provider) candidates).zipIdx,
        admits limit place = decide (place.2 < limit provider) := by
      intro place member
      simp [admits, provider_of_mem_share member, unlimited]
    rw [if_neg unlimited, List.filter_congr told, (zipIdx_filter _ _ _).1, Nat.sub_zero]

/-- **The others of every share are left out.** -/
theorem share_beyond (limit : Int → Nat) (candidates : List Candidate) (provider : Int) :
    share (some provider) (beyond limit [] candidates) =
      excess (limit provider) (share (some provider) candidates) := by
  rw [beyond, share_places, share_nil, List.length_nil, excess]
  by_cases unlimited : limit provider = 0
  · have nobody : ∀ place ∈ (share (some provider) candidates).zipIdx,
        ¬ (!admits limit place) = true := by
      intro place member
      simp [admits, provider_of_mem_share member, unlimited]
    rw [if_pos unlimited, List.filter_eq_nil_iff.mpr nobody, List.map_nil]
  · have told : ∀ place ∈ (share (some provider) candidates).zipIdx,
        (!admits limit place) = !decide (place.2 < limit provider) := by
      intro place member
      simp [admits, provider_of_mem_share member, unlimited]
    rw [if_neg unlimited, List.filter_congr told, (zipIdx_filter _ _ _).2, Nat.sub_zero]

/-- Candidates without a provider are all kept. -/
theorem share_none_kept (limit : Int → Nat) (before candidates : List Candidate) :
    share none (kept limit before candidates) = share none candidates := by
  have all : ∀ place ∈ (share none candidates).zipIdx (share none before).length,
      admits limit place = true := by
    intro place member
    simp [admits, provider_of_mem_share member]
  rw [kept, share_places, List.filter_eq_self.mpr all, List.zipIdx_map_fst]

/-- No candidate without a provider is left out. -/
theorem share_none_beyond (limit : Int → Nat) (candidates : List Candidate) :
    share none (beyond limit [] candidates) = [] := by
  have nobody : ∀ place ∈ (share none candidates).zipIdx (share none []).length,
      ¬ (!admits limit place) = true := by
    intro place member
    simp [admits, provider_of_mem_share member]
  rw [beyond, share_places, List.filter_eq_nil_iff.mpr nobody, List.map_nil]

/-- When no share exceeds its limit, nobody is left out. -/
theorem kept_of_within (limit : Int → Nat) (candidates : List Candidate)
    (within : ∀ provider,
      limit provider = 0 ∨ (share (some provider) candidates).length ≤ limit provider) :
    kept limit [] candidates = candidates ∧ beyond limit [] candidates = [] := by
  have nobody : beyond limit [] candidates = [] := by
    refine List.perm_nil.mp (perm_of_share_eq fun provider => ?_)
    rw [share_nil]
    cases provider with
    | none => exact share_none_beyond limit candidates
    | some provider =>
      rw [share_beyond, excess]
      rcases within provider with unlimited | short
      · rw [if_pos unlimited]
      · split
        · rfl
        · exact List.drop_eq_nil_of_le short
  have all := (kept_append_beyond_perm limit [] candidates).length_eq
  rw [nobody, List.append_nil] at all
  exact ⟨(kept_sublist limit [] candidates).eq_of_length all, nobody⟩

/-! ### Rounds cut short -/

section Rounds

open Mixing

variable {owners : List Int} {queue : Int → List Candidate}

/-- In a round everyone's place is the number of the round, when as many rounds came before. -/
theorem places_round (owned : Owned queue) (nodup : owners.Nodup) (round : Nat)
    {before : List Candidate} (earlier : ∀ provider ∈ owners, round < (queue provider).length →
      (share (some provider) before).length = round) :
    places before (owners.filterMap fun owner => (queue owner)[round]?) =
      (owners.filterMap fun owner => (queue owner)[round]?).map fun c => (c, round) := by
  induction owners generalizing before with
  | nil => rfl
  | cons owner rest ih =>
    obtain ⟨notAgain, distinct⟩ := List.nodup_cons.mp nodup
    rw [List.filterMap_cons]
    cases found : (queue owner)[round]? with
    | none => exact ih distinct fun provider member => earlier provider (List.mem_cons_of_mem _ member)
    | some c =>
      have belongs := owned owner c (List.mem_of_getElem? found)
      obtain ⟨inQueue, _⟩ := List.getElem?_eq_some_iff.mp found
      have place := earlier owner List.mem_cons_self inQueue
      have later : ∀ provider ∈ rest, round < (queue provider).length →
          (share (some provider) (before ++ [c])).length = round := by
        intro provider member long
        have differ : ¬ owner = provider := fun same => notAgain (same ▸ member)
        rw [share_append, share_cons, share_nil, belongs]
        simpa [differ] using earlier provider (List.mem_cons_of_mem _ member) long
      simp only [places, List.map_cons, belongs, place, ih distinct later]

/-- **In rounds everyone's place is the number of the round.** -/
theorem places_rounds (owned : Owned queue) (nodup : owners.Nodup) (count : Nat) :
    places [] (rounds count (owners.map queue)) =
      (List.range count).flatMap fun round =>
        (owners.filterMap fun owner => (queue owner)[round]?).map fun c => (c, round) := by
  induction count with
  | zero => rfl
  | succ count ih =>
    have earlier : ∀ provider ∈ owners, count < (queue provider).length →
        (share (some provider) (rounds count (owners.map queue))).length = count := by
      intro provider member long
      rw [share_rounds owned nodup, if_pos member, List.length_take]
      exact Nat.min_eq_left (Nat.le_of_lt long)
    have last := places_round owned nodup count earlier
    rw [rounds_succ, List.filterMap_map, places_append, List.nil_append, ih, List.range_succ,
      List.flatMap_append, List.flatMap_singleton]
    exact congrArg _ last

/-- **Cutting rounds short gives the rounds over queues cut short.** Candidates without a provider
after them are not cut. -/
theorem kept_rounds (owned : Owned queue) (nodup : owners.Nodup) (limit : Int → Nat) (count : Nat)
    {unassigned : List Candidate} (free : ∀ c ∈ unassigned, c.provider = none) :
    kept limit [] (rounds count (owners.map queue) ++ unassigned) =
      rounds count (owners.map fun owner => trim (limit owner) (queue owner)) ++ unassigned := by
  have everyone : ∀ place ∈ places ([] ++ rounds count (owners.map queue)) unassigned,
      admits limit place = true := by
    intro place member
    have named : place.1 ∈ (places _ unassigned).map (·.1) := List.mem_map_of_mem member
    rw [places_map_fst] at named
    simp [admits, free place.1 named]
  have each : ∀ round owner, ((queue owner)[round]?).filter (fun c => admits limit (c, round)) =
      (trim (limit owner) (queue owner))[round]? := by
    intro round owner
    rw [getElem?_trim]
    cases found : (queue owner)[round]? with
    | none => simp
    | some c =>
      have belongs := owned owner c (List.mem_of_getElem? found)
      simp only [Option.filter_some, admits, belongs]
      simp
  have cut : ∀ round,
      (((owners.filterMap fun owner => (queue owner)[round]?).map fun c => (c, round)).filter
        (admits limit)).map (·.1) =
      owners.filterMap fun owner => (trim (limit owner) (queue owner))[round]? := by
    intro round
    rw [List.filter_map, List.map_map, List.filter_filterMap]
    simp only [Function.comp_def, List.map_id', each]
  rw [kept, places_append, List.filter_append, List.map_append, List.filter_eq_self.mpr everyone,
    places_map_fst, places_rounds owned nodup, List.filter_flatMap, List.map_flatMap]
  simp only [cut, rounds, List.filterMap_map, Function.comp_def]

end Rounds

/-! ### Limits as they are set -/

/-- How many candidates a provider may keep as limits are set; zero is no limit. -/
def allowance (settings : LimitSettings) (providers : Providers) (provider : Int) : Nat :=
  if settings.enabled then settings.limitOf providers provider else 0

/-- Limits keep the candidates within the allowances, whether they are switched on or not. -/
theorem apply_eq (settings : LimitSettings) (providers : Providers) (candidates : List Candidate) :
    settings.apply providers candidates =
      (kept (settings.allowance providers) [] candidates,
        beyond (settings.allowance providers) [] candidates) := by
  rw [apply]
  split
  · next on =>
    have limits : settings.allowance providers = settings.limitOf providers := by
      funext provider
      rw [allowance, if_pos on]
    have counted : Counted (settings.limitOf providers) [] SortedMap.empty := by
      intro provider
      rw [SortedMap.get?_empty, share_nil]
      exact (Nat.min_zero _).symm
    rw [limits, split_eq _ counted]
  · next off =>
    have unlimited : ∀ provider, settings.allowance providers provider = 0 := fun provider => if_neg off
    have all := kept_of_within (settings.allowance providers) candidates fun provider =>
      .inl (unlimited provider)
    rw [all.1, all.2]

end StreamWatch.LimitSettings
