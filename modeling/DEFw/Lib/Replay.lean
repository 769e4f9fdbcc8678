import Mathlib.Data.List.Perm.Basic

namespace Replay

variable {σ ε : Type} {step : σ → ε → σ}

theorem foldl_alike {alike : σ → σ → Prop} {holds : σ → Prop} {allowed : ε → Prop}
    (next : ∀ s e, allowed e → holds s → holds (step s e))
    (congr : ∀ s t e, allowed e → holds s → holds t → alike s t → alike (step s e) (step t e))
    {events : List ε} (each : ∀ e ∈ events, allowed e) {s t : σ} (atS : holds s) (atT : holds t) (start : alike s t) :
    alike (events.foldl step s) (events.foldl step t) := by
  induction events generalizing s t with
  | nil => exact start
  | cons e rest ih =>
    have fits : allowed e := each e List.mem_cons_self
    exact ih (fun other member => each other (List.mem_cons_of_mem e member)) (next s e fits atS) (next t e fits atT)
      (congr s t e fits atS atT start)

/-- Events of which any two may be exchanged lead to the same state in every
order, up to a notion of sameness the step respects. -/
theorem foldl_perm {alike : σ → σ → Prop} {holds : σ → Prop} {allowed : ε → Prop} {apart : ε → ε → Prop}
    (same : Equivalence alike) (apart_symm : ∀ a b, apart a b → apart b a)
    (next : ∀ s e, allowed e → holds s → holds (step s e))
    (congr : ∀ s t e, allowed e → holds s → holds t → alike s t → alike (step s e) (step t e))
    (exchange : ∀ s a b, holds s → allowed a → allowed b → apart a b →
      alike (step (step s a) b) (step (step s b) a))
    {first second : List ε} (order : first.Perm second) (each : ∀ e ∈ first, allowed e)
    (pairs : first.Pairwise apart) {s : σ} (start : holds s) :
    alike (first.foldl step s) (second.foldl step s) := by
  induction order generalizing s with
  | nil => exact same.refl s
  | cons e _ ih =>
    exact ih (fun other member => each other (List.mem_cons_of_mem e member)) (List.pairwise_cons.mp pairs).2
      (next s e (each e List.mem_cons_self) start)
  | swap a b rest =>
    have split : apart b a := (List.pairwise_cons.mp pairs).1 a List.mem_cons_self
    have allowedB : allowed b := each b List.mem_cons_self
    have allowedA : allowed a := each a (List.mem_cons_of_mem b List.mem_cons_self)
    have others : ∀ e ∈ rest, allowed e :=
      fun e member => each e (List.mem_cons_of_mem b (List.mem_cons_of_mem a member))
    exact foldl_alike next congr others (next _ a allowedA (next s b allowedB start))
      (next _ b allowedB (next s a allowedA start)) (exchange s b a start allowedB allowedA split)
  | trans left _ ihLeft ihRight =>
    have middle := (left.pairwise_iff (apart_symm _ _)).mp pairs
    exact same.trans (ihLeft each pairs start)
      (ihRight (fun e member => each e (left.mem_iff.mpr member)) middle start)

end Replay
