import Mathlib.Data.List.Induction
import Mathlib.Tactic.Tauto

/-- A deterministic machine with a log: one step takes a state and an input
to the next state and to the entries it appends to the log. -/
structure Machine (σ ι ο : Type) where
  step : σ → ι → σ × List ο

namespace Machine

variable {σ ι ο : Type} (m : Machine σ ι ο)

def final : σ → List ι → σ
  | s, [] => s
  | s, i :: rest => final (m.step s i).1 rest

def log : σ → List ι → List ο
  | _, [] => []
  | s, i :: rest => (m.step s i).2 ++ log (m.step s i).1 rest

/-- Every step of the run starts from a state that allows its input. -/
def Admits (allowed : σ → ι → Prop) : σ → List ι → Prop
  | _, [] => True
  | s, i :: rest => allowed s i ∧ Admits allowed (m.step s i).1 rest

instance Admits.decidable {allowed : σ → ι → Prop} [∀ s i, Decidable (allowed s i)] :
    ∀ s inputs, Decidable (m.Admits allowed s inputs)
  | _, [] => isTrue trivial
  | s, i :: rest =>
    have : Decidable (m.Admits allowed (m.step s i).1 rest) := Admits.decidable _ rest
    inferInstanceAs (Decidable (allowed s i ∧ m.Admits allowed (m.step s i).1 rest))

theorem final_append (s : σ) (before after : List ι) :
    m.final s (before ++ after) = m.final (m.final s before) after := by
  induction before generalizing s with
  | nil => rfl
  | cons i rest ih => exact ih (m.step s i).1

theorem log_append (s : σ) (before after : List ι) :
    m.log s (before ++ after) = m.log s before ++ m.log (m.final s before) after := by
  induction before generalizing s with
  | nil => rfl
  | cons i rest ih => simp only [List.cons_append, log, final, ih, List.append_assoc]

theorem admits_append {allowed : σ → ι → Prop} {s : σ} {before after : List ι} :
    m.Admits allowed s (before ++ after) ↔
      m.Admits allowed s before ∧ m.Admits allowed (m.final s before) after := by
  induction before generalizing s with
  | nil => simp [Admits, final]
  | cons i rest ih => simp only [List.cons_append, Admits, final, ih, and_assoc]

theorem admits_mono {stronger weaker : σ → ι → Prop} (implies : ∀ s i, stronger s i → weaker s i) {s : σ}
    {inputs : List ι} (admits : m.Admits stronger s inputs) : m.Admits weaker s inputs := by
  induction inputs generalizing s with
  | nil => trivial
  | cons i rest ih => exact ⟨implies s i admits.1, ih admits.2⟩

theorem admits_of_forall {allowed : ι → Prop} {s : σ} {inputs : List ι} (each : ∀ i ∈ inputs, allowed i) :
    m.Admits (fun _ => allowed) s inputs := by
  induction inputs generalizing s with
  | nil => trivial
  | cons i rest ih => exact ⟨each i List.mem_cons_self, ih (fun j member => each j (List.mem_cons_of_mem i member))⟩

theorem admits_and {first second : σ → ι → Prop} {s : σ} {inputs : List ι} :
    m.Admits (fun s i => first s i ∧ second s i) s inputs ↔ m.Admits first s inputs ∧ m.Admits second s inputs := by
  induction inputs generalizing s with
  | nil => simp [Admits]
  | cons i rest ih =>
    simp only [Admits, ih]
    tauto

theorem final_concat (s : σ) (inputs : List ι) (i : ι) :
    m.final s (inputs ++ [i]) = (m.step (m.final s inputs) i).1 := by
  rw [final_append]
  rfl

theorem log_concat (s : σ) (inputs : List ι) (i : ι) :
    m.log s (inputs ++ [i]) = m.log s inputs ++ (m.step (m.final s inputs) i).2 := by
  rw [log_append]
  simp [log]

/-- An entry of a log that gets at most one more is the new one or an old one. -/
theorem split_append {log new before later : List ο} {entry : ο} (short : new.length ≤ 1)
    (split : log ++ new = before ++ entry :: later) :
    (before = log ∧ new = [entry] ∧ later = []) ∨ ∃ rest, later = rest ++ new ∧ log = before ++ entry :: rest := by
  rcases List.append_eq_append_iff.mp split with ⟨middle, rfl, tail⟩ | ⟨middle, rfl, tail⟩
  · have empty : middle = [] ∧ later = [] := by
      rw [tail, List.length_append, List.length_cons] at short
      exact ⟨List.length_eq_zero_iff.mp (by omega), List.length_eq_zero_iff.mp (by omega)⟩
    rw [empty.1, empty.2] at tail
    exact .inl ⟨by rw [empty.1, List.append_nil], tail, empty.2⟩
  · cases middle with
    | nil =>
      rw [List.nil_append] at tail
      have empty : later = [] := by
        rw [← tail, List.length_cons] at short
        exact List.length_eq_zero_iff.mp (by omega)
      exact .inl ⟨by rw [List.append_nil], by rw [← tail, empty], empty⟩
    | cons first rest =>
      cases tail
      exact .inr ⟨rest, rfl, rfl⟩

/-- A relation between state and log that holds at the start and is kept by
every allowed step holds after every admitted run. -/
theorem run_invariant {allowed : σ → ι → Prop} (holds : σ → List ο → Prop) {s : σ}
    (start : holds s [])
    (next : ∀ state entries i, holds state entries → allowed state i →
      holds (m.step state i).1 (entries ++ (m.step state i).2))
    {inputs : List ι} (admits : m.Admits allowed s inputs) :
    holds (m.final s inputs) (m.log s inputs) := by
  induction inputs using List.reverseRecOn with
  | nil => exact start
  | append_singleton inputs i ih =>
    obtain ⟨earlier, last⟩ := m.admits_append.mp admits
    rw [final_concat, log_concat]
    exact next _ _ _ (ih earlier) last.1

/-- A measure that no allowed step raises and every counted step lowers bounds
the counted steps of a run. -/
theorem countP_le_measure {allowed : σ → ι → Prop} (counted : ι → Bool) (measure : σ → Nat)
    (lowers : ∀ state i, allowed state i → measure (m.step state i).1 + (counted i).toNat ≤ measure state)
    {s : σ} {inputs : List ι} (admits : m.Admits allowed s inputs) :
    inputs.countP counted + measure (m.final s inputs) ≤ measure s := by
  induction inputs generalizing s with
  | nil => simp [final]
  | cons i rest ih =>
    have first := lowers s i admits.1
    have later := ih admits.2
    rw [List.countP_cons, final]
    cases counts : counted i with
    | false =>
      simp only [counts, Bool.toNat_false, Bool.false_eq_true, if_false] at first ⊢
      omega
    | true =>
      simp only [counts, Bool.toNat_true, if_true] at first ⊢
      omega

end Machine
