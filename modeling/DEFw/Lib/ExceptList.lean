import Mathlib.Data.List.Forall2

namespace ExceptList

variable {ε α β : Type}

/-- A list computation succeeds exactly when every member does. -/
theorem mapM_ok_iff {f : α → Except ε β} {items : List α} {results : List β} :
    items.mapM f = .ok results ↔ List.Forall₂ (fun item result => f item = .ok result) items results := by
  induction items generalizing results with
  | nil => cases results <;> simp [pure, Except.pure]
  | cons item rest ih =>
    rw [List.mapM_cons, List.forall₂_cons_left_iff]
    cases here : f item with
    | error exception => simp [bind, Except.bind]
    | ok first =>
      cases there : rest.mapM f with
      | error exception =>
        simp only [bind, Except.bind, reduceCtorEq, false_iff]
        rintro ⟨_, later, _, pairs, _⟩
        rw [ih.mpr pairs] at there
        cases there
      | ok later =>
        simp only [bind, Except.bind, pure, Except.pure, Except.ok.injEq]
        constructor
        · rintro rfl
          exact ⟨first, later, rfl, ih.mp there, rfl⟩
        · rintro ⟨_, others, rfl, pairs, rfl⟩
          rw [ih.mpr pairs] at there
          cases there
          rfl

theorem mapM_ok_of_forall {f : α → Except ε β} {items : List α} (each : ∀ item ∈ items, ∃ result, f item = .ok result) :
    ∃ results, items.mapM f = .ok results := by
  induction items with
  | nil => exact ⟨[], rfl⟩
  | cons item rest ih =>
    obtain ⟨first, here⟩ := each item List.mem_cons_self
    obtain ⟨later, there⟩ := ih (fun other member => each other (List.mem_cons_of_mem item member))
    exact ⟨first :: later, by simp [here, there, bind, Except.bind, pure, Except.pure]⟩

end ExceptList
