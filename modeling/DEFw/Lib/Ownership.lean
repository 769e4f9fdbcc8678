import Mathlib.Data.Finset.SDiff
import Mathlib.Data.Finset.Insert

/-- Resources that are open, each stored in exactly one place. -/
structure Owned {ι α : Type*} (slot : ι → Option α) (opened : Finset α) : Prop where
  known : ∀ place resource, slot place = some resource → resource ∈ opened
  unique : ∀ place other resource, slot place = some resource → slot other = some resource → place = other
  stored : ∀ resource ∈ opened, ∃ place, slot place = some resource

namespace Owned

variable {ι α : Type*} {slot slot' : ι → Option α} {opened : Finset α}

theorem existsUnique (owned : Owned slot opened) {resource : α} (member : resource ∈ opened) :
    ∃! place, slot place = some resource := by
  obtain ⟨place, stored⟩ := owned.stored resource member
  exact ⟨place, stored, fun other there => owned.unique other place resource there stored⟩

theorem congr (owned : Owned slot opened) (same : ∀ place, slot' place = slot place) : Owned slot' opened := by
  rwa [funext same]

variable [DecidableEq α]

/-- A resource is opened and stored where there is none. -/
theorem store (owned : Owned slot opened) {place : ι} {resource : α} (fresh : resource ∉ opened)
    (empty : slot place = none) (stored : slot' place = some resource)
    (others : ∀ other, other ≠ place → slot' other = slot other) : Owned slot' (insert resource opened) := by
  have origin {other : ι} {found : α} (there : slot' other = some found) :
      (other = place ∧ found = resource) ∨ slot other = some found := by
    by_cases same : other = place
    · rw [same, stored] at there
      exact .inl ⟨same, (Option.some.inj there).symm⟩
    · rw [others other same] at there
      exact .inr there
  refine ⟨fun other found there => ?_, fun first second found there again => ?_, fun found member => ?_⟩
  · rcases origin there with ⟨_, rfl⟩ | before
    · exact Finset.mem_insert_self found opened
    · exact Finset.mem_insert_of_mem (owned.known other found before)
  · rcases origin there with ⟨rfl, rfl⟩ | before
    · rcases origin again with ⟨same, _⟩ | other
      · exact same.symm
      · exact absurd (owned.known second found other) fresh
    · rcases origin again with ⟨_, rfl⟩ | other
      · exact absurd (owned.known first found before) fresh
      · exact owned.unique first second found before other
  · rcases Finset.mem_insert.mp member with rfl | before
    · exact ⟨place, stored⟩
    · obtain ⟨other, there⟩ := owned.stored found before
      refine ⟨other, (others other ?_).trans there⟩
      rintro rfl
      rw [empty] at there
      cases there

omit [DecidableEq α] in
/-- What one place stores is moved to another that is empty. -/
theorem move (owned : Owned slot opened) {source target : ι} (empty : slot target = none) (left : slot' source = none)
    (moved : slot' target = slot source) (others : ∀ other, other ≠ source → other ≠ target → slot' other = slot other) :
    Owned slot' opened := by
  have origin {place : ι} {found : α} (there : slot' place = some found) :
      (place = target ∧ slot source = some found) ∨ (place ≠ source ∧ place ≠ target ∧ slot place = some found) := by
    by_cases atSource : place = source
    · rw [atSource, left] at there
      cases there
    · by_cases atTarget : place = target
      · rw [atTarget, moved] at there
        exact .inl ⟨atTarget, there⟩
      · exact .inr ⟨atSource, atTarget, others place atSource atTarget ▸ there⟩
  refine ⟨fun place found there => ?_, fun first second found there again => ?_, fun found member => ?_⟩
  · rcases origin there with ⟨_, before⟩ | ⟨_, _, before⟩ <;> exact owned.known _ found before
  · rcases origin there with ⟨rfl, before⟩ | ⟨outside, _, before⟩
    · rcases origin again with ⟨same, _⟩ | ⟨elsewhere, _, other⟩
      · exact same.symm
      · exact absurd (owned.unique _ _ found other before) elsewhere
    · rcases origin again with ⟨_, other⟩ | ⟨_, _, other⟩
      · exact absurd (owned.unique _ _ found before other) outside
      · exact owned.unique _ _ found before other
  · obtain ⟨place, there⟩ := owned.stored found member
    by_cases atSource : place = source
    · exact ⟨target, moved.trans (atSource ▸ there)⟩
    · refine ⟨place, (others place atSource ?_).trans there⟩
      rintro rfl
      rw [empty] at there
      cases there

/-- What is stored in some of the places is closed, and they are emptied. -/
theorem close (owned : Owned slot opened) (gone : ι → Prop) {closed : Finset α}
    (exactly : ∀ resource, resource ∈ closed ↔ ∃ place, gone place ∧ slot place = some resource)
    (emptied : ∀ place, gone place → slot' place = none) (others : ∀ place, ¬gone place → slot' place = slot place) :
    Owned slot' (opened \ closed) := by
  have stays {place : ι} {found : α} (there : slot' place = some found) : ¬gone place ∧ slot place = some found := by
    by_cases leaves : gone place
    · rw [emptied place leaves] at there
      cases there
    · exact ⟨leaves, others place leaves ▸ there⟩
  refine ⟨fun place found there => ?_, fun first second found there again => ?_, fun found member => ?_⟩
  · obtain ⟨kept, before⟩ := stays there
    rw [Finset.mem_sdiff, exactly]
    refine ⟨owned.known place found before, ?_⟩
    rintro ⟨other, leaves, stored⟩
    exact kept (owned.unique place other found before stored ▸ leaves)
  · exact owned.unique first second found (stays there).2 (stays again).2
  · obtain ⟨before, kept⟩ := Finset.mem_sdiff.mp member
    obtain ⟨place, there⟩ := owned.stored found before
    exact ⟨place, (others place fun leaves => kept ((exactly found).mpr ⟨place, leaves, there⟩)).trans there⟩

end Owned
