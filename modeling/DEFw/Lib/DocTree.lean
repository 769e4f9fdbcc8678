import Mathlib.Data.List.Basic

/-- A document of nested lists and dictionaries, with values of one kind at its leaves and any other
scalar named by a number. -/
inductive DocTree (κ α : Type) where
  | leaf (value : α)
  | other (id : Nat)
  | list (items : List (DocTree κ α))
  | dict (entries : List (κ × DocTree κ α))

namespace DocTree

variable {κ α β : Type}

def isList : DocTree κ α → Bool
  | list _ => true
  | _ => false

/-- Induction over documents, with the hypothesis for every member. -/
theorem induction {motive : DocTree κ α → Prop} (leaf : ∀ value, motive (leaf value)) (other : ∀ id, motive (other id))
    (list : ∀ items, (∀ item ∈ items, motive item) → motive (list items))
    (dict : ∀ entries, (∀ entry ∈ entries, motive entry.2) → motive (dict entries))
    (tree : DocTree κ α) : motive tree := by
  refine @DocTree.rec κ α motive (fun items => ∀ item ∈ items, motive item)
    (fun entries => ∀ entry ∈ entries, motive entry.2) (fun entry => motive entry.2)
    leaf other list dict ?_ ?_ ?_ ?_ ?_ tree
  · simp
  · intro head rest atHead atRest
    simpa using ⟨atHead, atRest⟩
  · simp
  · intro head rest atHead atRest
    rintro entry (_ | ⟨_, member⟩)
    · exact atHead
    · exact atRest entry member
  · exact fun _ _ atValue => atValue

theorem sizeOf_item {items : List (DocTree κ α)} {item : DocTree κ α} (member : item ∈ items) :
    sizeOf item < sizeOf (list items) := by
  have smaller := List.sizeOf_lt_of_mem member
  rw [list.sizeOf_spec]
  omega

theorem sizeOf_entry {entries : List (κ × DocTree κ α)} {entry : κ × DocTree κ α} (member : entry ∈ entries) :
    sizeOf entry.2 < sizeOf (dict entries) := by
  have smaller := List.sizeOf_lt_of_mem member
  rw [dict.sizeOf_spec]
  obtain ⟨key, value⟩ := entry
  rw [Prod.mk.sizeOf_spec] at smaller
  change sizeOf value < _
  omega

/-- The same document with other leaves. -/
def map (f : α → β) : DocTree κ α → DocTree κ β
  | leaf value => leaf (f value)
  | other id => other id
  | list items => list (items.map (fun item => item.map f))
  | dict entries => dict (entries.map (fun entry => (entry.1, entry.2.map f)))
decreasing_by
  · exact sizeOf_item ‹_›
  · exact sizeOf_entry ‹_›

/-- The values at the leaves, from the first to the last. -/
def leaves : DocTree κ α → List α
  | leaf value => [value]
  | other _ => []
  | list items => items.flatMap (fun item => item.leaves)
  | dict entries => entries.flatMap (fun entry => entry.2.leaves)
decreasing_by
  · exact sizeOf_item ‹_›
  · exact sizeOf_entry ‹_›

theorem map_congr_iff {f g : α → β} {tree : DocTree κ α} :
    tree.map f = tree.map g ↔ ∀ value ∈ tree.leaves, f value = g value := by
  induction tree using induction with
  | leaf value => simp [map, leaves]
  | other id => simp [map, leaves]
  | list items ih =>
    simp only [map, leaves, list.injEq, List.map_inj_left, List.mem_flatMap]
    constructor
    · rintro same value ⟨item, member, inside⟩
      exact (ih item member).mp (same item member) value inside
    · exact fun same item member => (ih item member).mpr (fun value inside => same value ⟨item, member, inside⟩)
  | dict entries ih =>
    simp only [map, leaves, dict.injEq, List.map_inj_left, List.mem_flatMap, Prod.mk.injEq, true_and]
    constructor
    · rintro same value ⟨entry, member, inside⟩
      exact (ih entry member).mp (same entry member) value inside
    · exact fun same entry member => (ih entry member).mpr (fun value inside => same value ⟨entry, member, inside⟩)

end DocTree
