import Mathlib.Data.Finset.SDiff
import Mathlib.Data.Finset.Erase
import Mathlib.Data.Finset.Insert
import Mathlib.Data.Finset.Lattice.Basic

/-- A process that waits on descriptors up to a highest one: the one it listens on,
and those that are stored and not suspended. -/
structure Polling (listen : Nat) (stored : Nat → Prop) (polled suspended : Finset Nat) (highest : Int) : Prop where
  listens : listen ∈ polled
  covered : ∀ fd, stored fd → fd ∈ suspended ∨ fd ∈ polled
  bounded : ∀ fd ∈ polled, (fd : Int) ≤ highest
  known : ∀ fd ∈ polled, fd = listen ∨ stored fd

namespace Polling

variable {listen : Nat} {stored stored' : Nat → Prop} {polled suspended : Finset Nat} {highest highest' : Int}

theorem congr (polling : Polling listen stored polled suspended highest) (same : ∀ fd, stored' fd ↔ stored fd) :
    Polling listen stored' polled suspended highest := by
  rwa [funext fun fd => propext (same fd)]

/-- Descriptors that are stored are waited on, and the highest is found anew. -/
theorem add (polling : Polling listen stored polled suspended highest) (fds : Finset Nat)
    (more : ∀ fd, stored' fd ↔ stored fd ∨ fd ∈ fds) (above : (listen : Int) ≤ highest')
    (bound : ∀ fd, stored' fd → (fd : Int) ≤ highest') :
    Polling listen stored' (polled ∪ fds) suspended highest' := by
  have known : ∀ fd ∈ polled ∪ fds, fd = listen ∨ stored' fd := by
    intro fd member
    rcases Finset.mem_union.mp member with before | new
    · exact (polling.known fd before).imp_right fun old => (more fd).mpr (.inl old)
    · exact .inr ((more fd).mpr (.inr new))
  refine ⟨Finset.mem_union_left _ polling.listens, fun fd there => ?_, fun fd member => ?_, known⟩
  · rcases (more fd).mp there with old | new
    · exact (polling.covered fd old).imp_right (Finset.mem_union_left _)
    · exact .inr (Finset.mem_union_right _ new)
  · rcases known fd member with rfl | there
    · exact above
    · exact bound fd there

/-- Descriptors are closed. The highest stays, or is found anew. -/
theorem close (polling : Polling listen stored polled suspended highest) (fds : Finset Nat) (apart : listen ∉ fds)
    (fewer : ∀ fd, stored' fd ↔ stored fd ∧ fd ∉ fds)
    (bound : highest' = highest ∨ (listen : Int) ≤ highest' ∧ ∀ fd, stored' fd → (fd : Int) ≤ highest') :
    Polling listen stored' (polled \ fds) (suspended \ fds) highest' := by
  have known : ∀ fd ∈ polled \ fds, fd = listen ∨ stored' fd := by
    intro fd member
    obtain ⟨before, kept⟩ := Finset.mem_sdiff.mp member
    exact (polling.known fd before).imp_right fun old => (fewer fd).mpr ⟨old, kept⟩
  refine ⟨Finset.mem_sdiff.mpr ⟨polling.listens, apart⟩, fun fd there => ?_, fun fd member => ?_, known⟩
  · obtain ⟨old, kept⟩ := (fewer fd).mp there
    rcases polling.covered fd old with suspended | watched
    · exact .inl (Finset.mem_sdiff.mpr ⟨suspended, kept⟩)
    · exact .inr (Finset.mem_sdiff.mpr ⟨watched, kept⟩)
  · rcases bound with rfl | ⟨above, bound⟩
    · exact polling.bounded fd (Finset.mem_sdiff.mp member).1
    · rcases known fd member with rfl | there
      · exact above
      · exact bound fd there

theorem suspend (polling : Polling listen stored polled suspended highest) {fd : Nat} (apart : fd ≠ listen) :
    Polling listen stored (polled.erase fd) (insert fd suspended) highest := by
  refine ⟨Finset.mem_erase.mpr ⟨apart.symm, polling.listens⟩, fun other there => ?_, fun other member => ?_,
    fun other member => ?_⟩
  · by_cases same : other = fd
    · exact .inl (Finset.mem_insert.mpr (.inl same))
    · rcases polling.covered other there with before | before
      · exact .inl (Finset.mem_insert_of_mem before)
      · exact .inr (Finset.mem_erase.mpr ⟨same, before⟩)
  · exact polling.bounded other (Finset.mem_of_mem_erase member)
  · exact polling.known other (Finset.mem_of_mem_erase member)

theorem resume (polling : Polling listen stored polled suspended highest) {fd : Nat} (there : stored fd) :
    Polling listen stored (insert fd polled) (suspended.erase fd) (if (fd : Int) > highest then fd else highest) := by
  refine ⟨Finset.mem_insert_of_mem polling.listens, fun other stored => ?_, fun other member => ?_, fun other member => ?_⟩
  · by_cases same : other = fd
    · exact .inr (Finset.mem_insert.mpr (.inl same))
    · rcases polling.covered other stored with before | before
      · exact .inl (Finset.mem_erase.mpr ⟨same, before⟩)
      · exact .inr (Finset.mem_insert_of_mem before)
  · rcases Finset.mem_insert.mp member with rfl | before
    · split <;> omega
    · have bound := polling.bounded other before
      split <;> omega
  · rcases Finset.mem_insert.mp member with rfl | before
    · exact .inr there
    · exact polling.known other before

end Polling
