/-
**Results in steps.**

What is worked out in two steps, each of which may fail, is worked out only if neither does. Translating its result or its
fault makes no difference to that.
-/

namespace StreamWatch

/-- A result of two steps is a result of the first and, from it, of the second. -/
theorem steps_of_bind_eq_ok {ε α β : Type} {first : Except ε α} {next : α → Except ε β} {value : β}
    (result : first >>= next = .ok value) : ∃ between, first = .ok between ∧ next between = .ok value := by
  cases first with
  | error error => exact nomatch result
  | ok between => exact ⟨between, rfl, result⟩

/-- What fails in two steps fails in the first, or in the second. -/
theorem steps_of_bind_eq_error {ε α β : Type} {first : Except ε α} {next : α → Except ε β} {error : ε}
    (failed : first >>= next = .error error) :
    first = .error error ∨ ∃ between, first = .ok between ∧ next between = .error error := by
  cases first with
  | error other => exact .inl (by cases failed; rfl)
  | ok between => exact .inr ⟨between, rfl, failed⟩

theorem mapError_eq_ok_iff {ε δ α : Type} {f : ε → δ} {result : Except ε α} {value : α} :
    result.mapError f = .ok value ↔ result = .ok value := by
  cases result with
  | error error => exact ⟨nofun, nofun⟩
  | ok found =>
    show (Except.ok found : Except δ α) = .ok value ↔ _
    rw [Except.ok.injEq, Except.ok.injEq]

theorem map_eq_ok_iff {ε α β : Type} {f : α → β} {result : Except ε α} {value : β} :
    result.map f = .ok value ↔ ∃ made, result = .ok made ∧ f made = value := by
  cases result <;> simp [Except.map]

/-- What is looked over before it is taken is taken as it is, if it will do. -/
theorem looked_over_eq_ok_iff {ε α : Type} {result : Except ε α} {check : α → Except ε Unit} {value : α} :
    (result >>= fun made => check made >>= fun _ => pure made) = .ok value ↔
      result = .ok value ∧ check value = .ok ⟨⟩ := by
  constructor
  · intro accepted
    obtain ⟨made, found, accepted⟩ := steps_of_bind_eq_ok accepted
    obtain ⟨⟨⟩, checked, accepted⟩ := steps_of_bind_eq_ok accepted
    cases accepted
    exact ⟨found, checked⟩
  · rintro ⟨rfl, checked⟩
    show (check value >>= fun _ => pure value) = _
    rw [checked]
    rfl

/-- Two checks, one after the other, are passed when both are. -/
theorem checks_eq_ok_iff {ε : Type} {first next : Except ε Unit} :
    (first >>= fun _ => next) = .ok ⟨⟩ ↔ first = .ok ⟨⟩ ∧ next = .ok ⟨⟩ := by
  cases first with
  | error error => exact ⟨nofun, fun both => nomatch both.1⟩
  | ok made => exact ⟨fun later => ⟨rfl, later⟩, And.right⟩

/-- So are the checks of everything in a list. -/
theorem forM_checks_eq_ok_iff {ε α : Type} {check : α → Except ε Unit} {list : List α} :
    list.forM check = .ok ⟨⟩ ↔ ∀ one ∈ list, check one = .ok ⟨⟩ := by
  induction list with
  | nil => exact ⟨fun _ _ among => absurd among List.not_mem_nil, fun _ => rfl⟩
  | cons head rest ih =>
    show (check head >>= fun _ => rest.forM check) = _ ↔ _
    rw [checks_eq_ok_iff, List.forall_mem_cons]
    exact and_congr_right fun _ => ih

end StreamWatch
