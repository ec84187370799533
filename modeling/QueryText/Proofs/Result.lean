import Mathlib.Data.List.Forall2

/-!
# Laws of results

When a sequence of steps that may fail succeeds, and what its success says about each step. Every
check and every clause is written as such a sequence, so these laws open all of them.
-/

set_option autoImplicit false

namespace QueryText.Result

variable {ε α β : Type}

theorem bind_eq_ok_iff {step : Except ε α} {next : α → Except ε β} {result : β} :
    step >>= next = .ok result ↔ ∃ value, step = .ok value ∧ next value = .ok result := by
  cases step with
  | error error => simp [bind, Except.bind]
  | ok value => simp [bind, Except.bind]

theorem pure_eq_ok_iff {value result : α} :
    (pure value : Except ε α) = .ok result ↔ value = result := by
  simp [pure, Except.pure]

theorem map_eq_ok_iff {step : Except ε α} {function : α → β} {result : β} :
    step.map function = .ok result ↔ ∃ value, step = .ok value ∧ function value = result := by
  cases step with
  | error error => simp [Except.map]
  | ok value => simp [Except.map]

theorem map_map {γ : Type} {step : Except ε α} {first : α → β} {second : β → γ} :
    (step.map first).map second = step.map (second ∘ first) := by
  cases step <;> rfl

theorem mapM_eq_ok_iff {step : α → Except ε β} {items : List α} {results : List β} :
    items.mapM step = .ok results ↔
      List.Forall₂ (fun item result => step item = .ok result) items results := by
  induction items generalizing results with
  | nil =>
      rw [List.mapM_nil, pure_eq_ok_iff, List.forall₂_nil_left_iff]
      exact eq_comm
  | cons item rest ih =>
      rw [List.mapM_cons, List.forall₂_cons_left_iff]
      constructor
      · intro success
        obtain ⟨first, firstOk, success⟩ := bind_eq_ok_iff.mp success
        obtain ⟨others, othersOk, success⟩ := bind_eq_ok_iff.mp success
        exact ⟨first, others, firstOk, ih.mp othersOk, (pure_eq_ok_iff.mp success).symm⟩
      · intro given
        obtain ⟨first, others, firstOk, othersOk, rfl⟩ := given
        exact bind_eq_ok_iff.mpr ⟨first, firstOk, bind_eq_ok_iff.mpr ⟨others, ih.mpr othersOk, rfl⟩⟩

/-- Steps that only reshape the results of others do so for a whole list. -/
theorem mapM_map {γ : Type} {step : α → Except ε β} {reshaped : α → Except ε γ} {shape : β → γ}
    {items : List α} (each : ∀ item ∈ items, reshaped item = (step item).map shape) :
    items.mapM reshaped = (items.mapM step).map (List.map shape) := by
  induction items with
  | nil => rfl
  | cons item rest ih =>
      obtain ⟨first, others⟩ := List.forall_mem_cons.mp each
      rw [List.mapM_cons, List.mapM_cons, first, ih others]
      cases step item with
      | error error => rfl
      | ok value => cases rest.mapM step <;> rfl

theorem mapM_total {step : α → Except ε β} {items : List α}
    (each : ∀ item ∈ items, ∃ result, step item = .ok result) :
    ∃ results, items.mapM step = .ok results := by
  induction items with
  | nil => exact ⟨[], rfl⟩
  | cons item rest ih =>
      obtain ⟨first, firstOk⟩ := each item (List.mem_cons_self ..)
      obtain ⟨others, othersOk⟩ := ih fun other member => each other (List.mem_cons_of_mem _ member)
      exact ⟨first :: others, mapM_eq_ok_iff.mpr (.cons firstOk (mapM_eq_ok_iff.mp othersOk))⟩

theorem exists_of_mem {relates : α → β → Prop} {items : List α} {results : List β}
    (related : List.Forall₂ relates items results) {result : β} (member : result ∈ results) :
    ∃ item ∈ items, relates item result := by
  induction related with
  | nil => cases member
  | cons first _ ih =>
      rcases List.mem_cons.mp member with rfl | member
      · exact ⟨_, List.mem_cons_self .., first⟩
      · obtain ⟨item, found, relates⟩ := ih member
        exact ⟨item, List.mem_cons_of_mem _ found, relates⟩

theorem exists_of_mem_left {relates : α → β → Prop} {items : List α} {results : List β}
    (related : List.Forall₂ relates items results) {item : α} (member : item ∈ items) :
    ∃ result ∈ results, relates item result :=
  exists_of_mem related.flip member

end QueryText.Result
