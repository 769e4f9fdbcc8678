import Mathlib.Data.List.Basic

/-! Screening rows by optional conditions. A condition reads one key of the filters; a condition whose
key is absent passes. A condition may raise, which ends the whole screening: `none` below. -/

namespace Screening

variable {κ ν ρ π : Type}

structure Check (κ ν : Type) where
  key : κ
  test : Option ν → Option Bool
  absent : test none = some true

/-- The conditions in turn, up to the first that fails or raises. -/
def passes (filters : κ → Option ν) : List (Check κ ν) → Option Bool
  | [] => some true
  | check :: rest =>
    match check.test (filters check.key) with
    | none => none
    | some false => some false
    | some true => passes filters rest

/-- Run the inner part of a loop if the decision is positive. -/
def guarded (decision : Option Bool) (inner : Option (List π)) : Option (List π) :=
  match decision with
  | none => none
  | some false => some []
  | some true => inner

/-- What a loop over the rows appends to its result. -/
def gather (visit : ρ → Option (List π)) : List ρ → Option (List π)
  | [] => some []
  | row :: rest =>
    match visit row with
    | none => none
    | some found => (gather visit rest).map (found ++ ·)

/-- A screening that returns decides as the conjunction of what its conditions decide. -/
theorem passes_eq_all {filters : κ → Option ν} {checks : List (Check κ ν)} {verdicts : List Bool}
    (each : List.Forall₂ (fun check verdict => ∀ b, check.test (filters check.key) = some b → verdict = b)
      checks verdicts) {b : Bool} (decided : passes filters checks = some b) : verdicts.all id = b := by
  induction each with
  | nil =>
    cases decided
    rfl
  | @cons check verdict _ _ here _ ih =>
    rw [passes] at decided
    cases tested : check.test (filters check.key) with
    | none =>
      rw [tested] at decided
      cases decided
    | some passed =>
      rw [tested] at decided
      rw [List.all_cons, here passed tested]
      cases passed with
      | false =>
        cases decided
        rfl
      | true => exact ih decided

/-- Conditions with disjoint keys: the two screenings together pass exactly what both pass. -/
theorem passes_union {first second union : κ → Option ν} (apart : ∀ key, first key = none ∨ second key = none)
    (joined : ∀ key, union key = (second key).or (first key)) {checks : List (Check κ ν)} {a b : Bool}
    (left : passes first checks = some a) (right : passes second checks = some b) :
    passes union checks = some (a && b) := by
  induction checks with
  | nil =>
    cases left
    cases right
    rfl
  | cons check rest ih =>
    rw [passes] at left right ⊢
    -- one of the two has no value for the key, so its own condition passes
    rcases apart check.key with missing | missing
    · rw [missing, check.absent] at left
      rw [joined, missing, Option.or_none]
      cases tested : check.test (second check.key) with
      | none =>
        rw [tested] at right
        cases right
      | some passed =>
        rw [tested] at right
        cases passed with
        | false =>
          cases right
          rw [Bool.and_false]
        | true => exact ih left right
    · rw [missing, check.absent] at right
      rw [joined, missing, Option.none_or]
      cases tested : check.test (first check.key) with
      | none =>
        rw [tested] at left
        cases left
      | some passed =>
        rw [tested] at left
        cases passed with
        | false =>
          cases left
          rfl
        | true => exact ih left right

/-- A decision that is made whenever the other is, and is positive only if the other is. -/
def Tighter (second first : Option Bool) : Prop :=
  ∀ b, first = some b → ∃ c, second = some c ∧ (c = true → b = true)

theorem Tighter.refl (decision : Option Bool) : Tighter decision decision :=
  fun b made => ⟨b, made, id⟩

theorem passes_tighter {first second : κ → Option ν} {checks : List (Check κ ν)}
    (each : ∀ check ∈ checks, Tighter (check.test (second check.key)) (check.test (first check.key))) :
    Tighter (passes second checks) (passes first checks) := by
  induction checks with
  | nil => exact Tighter.refl _
  | cons check rest ih =>
    obtain ⟨here, there⟩ := List.forall_mem_cons.mp each
    intro b made
    rw [passes] at made ⊢
    cases tested : check.test (first check.key) with
    | none =>
      rw [tested] at made
      cases made
    | some passed =>
      obtain ⟨stricter, found, implied⟩ := here passed tested
      rw [found]
      cases stricter with
      | false => exact ⟨false, rfl, nofun⟩
      | true =>
        rw [tested, implied rfl] at made
        exact ih there b made

theorem gather_isSome_iff {visit : ρ → Option (List π)} {rows : List ρ} :
    (gather visit rows).isSome ↔ ∀ row ∈ rows, (visit row).isSome := by
  induction rows with
  | nil => simp [gather]
  | cons row rest ih =>
    rw [List.forall_mem_cons, ← ih, gather]
    cases visit row <;> simp

/-- A loop that visits every row selects from the candidates of all rows what each visit selects. -/
theorem gather_filter {visit : ρ → Option (List π)} {rows : List ρ} {candidates : ρ → List π} {keep : π → Bool}
    (each : ∀ row ∈ rows, ∀ found, visit row = some found → found = (candidates row).filter keep)
    {all : List π} (done : gather visit rows = some all) : all = (rows.flatMap candidates).filter keep := by
  induction rows generalizing all with
  | nil =>
    cases done
    rfl
  | cons row rest ih =>
    obtain ⟨here, there⟩ := List.forall_mem_cons.mp each
    rw [gather] at done
    cases visited : visit row with
    | none =>
      rw [visited] at done
      cases done
    | some found =>
      rw [visited] at done
      obtain ⟨later, gathered, rfl⟩ := Option.map_eq_some_iff.mp done
      rw [List.flatMap_cons, List.filter_append, ← here found visited, ← ih there gathered]

end Screening
