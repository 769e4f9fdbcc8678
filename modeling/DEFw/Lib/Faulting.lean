import Mathlib.Data.List.Induction

namespace Except

variable {ε α β : Type}

theorem bind_ok_iff {first : Except ε α} {next : α → Except ε β} {result : β} :
    first >>= next = .ok result ↔ ∃ value, first = .ok value ∧ next value = .ok result := by
  cases first with
  | error fault => simp [bind, Except.bind]
  | ok value => simp [bind, Except.bind]

/-- A result that is known by what it shows. -/
theorem exists_ok_of_map {outcome : Except ε α} {shows : α → β} {value : β}
    (evaluated : outcome.toOption.map shows = some value) : ∃ result, outcome = .ok result ∧ shows result = value := by
  cases outcome with
  | error fault => simp [Except.toOption] at evaluated
  | ok result => exact ⟨result, rfl, Option.some.inj evaluated⟩

/-- The way in which a computation faults. -/
def fault : Except ε α → Option ε
  | error fault => some fault
  | ok _ => none

theorem eq_error_of_fault {outcome : Except ε α} {reason : ε} (faults : outcome.fault = some reason) :
    outcome = .error reason := by
  cases outcome with
  | error fault => exact congrArg Except.error (Option.some.inj faults)
  | ok value => simp [Except.fault] at faults

/-- A computation that may fault, but not in this way. -/
def Avoids (bad : ε → Prop) (outcome : Except ε α) : Prop := ∀ fault, outcome = .error fault → ¬bad fault

namespace Avoids

variable {bad : ε → Prop}

theorem ok (value : α) : Avoids bad (.ok value : Except ε α) := nofun

theorem error {fault : ε} (other : ¬bad fault) : Avoids bad (.error fault : Except ε α) := by
  rintro _ ⟨⟩
  exact other

theorem bind {first : Except ε α} {next : α → Except ε β} (start : first.Avoids bad)
    (rest : ∀ value, first = .ok value → (next value).Avoids bad) : (first >>= next).Avoids bad := by
  cases first with
  | error fault =>
    rintro _ ⟨⟩
    exact start fault rfl
  | ok value => exact rest value rfl

end Avoids

end Except

/-- A deterministic machine of which a step may fault, which ends the run. -/
structure Faulting (σ ι ε : Type) where
  step : σ → ι → Except ε σ

namespace Faulting

variable {σ ι ε : Type} (m : Faulting σ ι ε)

def run : σ → List ι → Except ε σ
  | s, [] => .ok s
  | s, i :: rest => do
    let next ← m.step s i
    run next rest

/-- Every step that the run takes starts from a state that allows its input. -/
def Admits (allowed : σ → ι → Prop) : σ → List ι → Prop
  | _, [] => True
  | s, i :: rest => allowed s i ∧
    match m.step s i with
    | .ok next => Admits allowed next rest
    | .error _ => True

instance Admits.decidable {allowed : σ → ι → Prop} [∀ s i, Decidable (allowed s i)] :
    ∀ s inputs, Decidable (m.Admits allowed s inputs)
  | _, [] => isTrue trivial
  | s, i :: rest =>
    have : Decidable (match m.step s i with | .ok next => m.Admits allowed next rest | .error _ => True) :=
      match m.step s i with
      | .ok next => Admits.decidable next rest
      | .error _ => isTrue trivial
    inferInstanceAs (Decidable (_ ∧ _))

variable {m}

theorem Admits.tail {allowed : σ → ι → Prop} {s next : σ} {i : ι} {rest : List ι}
    (admits : m.Admits allowed s (i :: rest)) (step : m.step s i = .ok next) : m.Admits allowed next rest := by
  have later := admits.2
  rwa [step] at later

theorem admits_of_forall {allowed : ι → Prop} {s : σ} {inputs : List ι} (each : ∀ i ∈ inputs, allowed i) :
    m.Admits (fun _ => allowed) s inputs := by
  induction inputs generalizing s with
  | nil => trivial
  | cons i rest ih =>
    refine ⟨each i List.mem_cons_self, ?_⟩
    cases m.step s i with
    | ok next => exact ih fun j member => each j (List.mem_cons_of_mem i member)
    | error fault => trivial

theorem run_append {s final : σ} {before later : List ι} :
    m.run s (before ++ later) = .ok final ↔ ∃ middle, m.run s before = .ok middle ∧ m.run middle later = .ok final := by
  induction before generalizing s with
  | nil => simp [run]
  | cons i rest ih =>
    simp only [List.cons_append, run, Except.bind_ok_iff, ih]
    constructor
    · rintro ⟨next, step, middle, first, second⟩
      exact ⟨middle, ⟨next, step, first⟩, second⟩
    · rintro ⟨middle, ⟨next, step, first⟩, second⟩
      exact ⟨next, step, middle, first, second⟩

/-- The part of an admitted run behind a state that it passes. -/
theorem Admits.append {allowed : σ → ι → Prop} {s middle : σ} {before later : List ι}
    (admits : m.Admits allowed s (before ++ later)) (run : m.run s before = .ok middle) :
    m.Admits allowed s before ∧ m.Admits allowed middle later := by
  induction before generalizing s with
  | nil =>
    cases run
    exact ⟨trivial, admits⟩
  | cons i rest ih =>
    obtain ⟨next, step, later⟩ := Except.bind_ok_iff.mp run
    obtain ⟨first, second⟩ := ih (admits.tail step) later
    refine ⟨⟨admits.1, ?_⟩, second⟩
    rw [step]
    exact first

/-- What holds at the start and is kept by every allowed step holds after every
admitted run. -/
theorem run_invariant {allowed : σ → ι → Prop} (holds : σ → Prop)
    (keeps : ∀ state i next, holds state → allowed state i → m.step state i = .ok next → holds next)
    {s final : σ} {inputs : List ι} (start : holds s) (admits : m.Admits allowed s inputs)
    (run : m.run s inputs = .ok final) : holds final := by
  induction inputs generalizing s with
  | nil =>
    cases run
    exact start
  | cons i rest ih =>
    obtain ⟨next, step, later⟩ := Except.bind_ok_iff.mp run
    exact ih (keeps s i next start admits.1 step) (admits.tail step) later

/-- What every step keeps holds after every run. -/
theorem run_keeps (holds : σ → Prop) (keeps : ∀ state i next, holds state → m.step state i = .ok next → holds next)
    {s final : σ} {inputs : List ι} (start : holds s) (run : m.run s inputs = .ok final) : holds final := by
  induction inputs generalizing s with
  | nil =>
    cases run
    exact start
  | cons i rest ih =>
    obtain ⟨next, step, later⟩ := Except.bind_ok_iff.mp run
    exact ih (keeps s i next start step) later

/-- Where no allowed step faults in some way from a state in which the invariant
holds, no admitted run does. -/
theorem run_avoids {allowed : σ → ι → Prop} (holds : σ → Prop) {bad : ε → Prop}
    (keeps : ∀ state i next, holds state → allowed state i → m.step state i = .ok next → holds next)
    (avoids : ∀ state i, holds state → allowed state i → (m.step state i).Avoids bad)
    {s : σ} {inputs : List ι} (start : holds s) (admits : m.Admits allowed s inputs) : (m.run s inputs).Avoids bad := by
  induction inputs generalizing s with
  | nil => exact Except.Avoids.ok s
  | cons i rest ih =>
    refine (avoids s i start admits.1).bind fun next step => ?_
    exact ih (keeps s i next start admits.1 step) (admits.tail step)

/-- Where no allowed step faults from a state in which the invariant holds, no
admitted run does. -/
theorem run_safe {allowed : σ → ι → Prop} (holds : σ → Prop)
    (steps : ∀ state i, holds state → allowed state i → ∃ next, m.step state i = .ok next ∧ holds next)
    {s : σ} {inputs : List ι} (start : holds s) (admits : m.Admits allowed s inputs) :
    ∃ final, m.run s inputs = .ok final ∧ holds final := by
  induction inputs generalizing s with
  | nil => exact ⟨s, rfl, start⟩
  | cons i rest ih =>
    obtain ⟨next, step, kept⟩ := steps s i start admits.1
    obtain ⟨final, later, holdsLast⟩ := ih kept (admits.tail step)
    exact ⟨final, Except.bind_ok_iff.mpr ⟨next, step, later⟩, holdsLast⟩

end Faulting
