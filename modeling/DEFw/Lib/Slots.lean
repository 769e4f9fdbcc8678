import Mathlib.Data.List.Basic

/-! Lists whose places stand for threads, calls or objects: one place is rewritten or dropped, the
others are not. -/

namespace Slots

variable {α : Type} {slots : List α} {place : Nat} {item : α}

/-- What stands in a list after one place was rewritten. -/
theorem mem_modify {f : α → α} (member : item ∈ slots.modify place f) :
    item ∈ slots ∨ ∃ old ∈ slots[place]?, item = f old := by
  obtain ⟨position, here⟩ := List.mem_iff_getElem?.mp member
  rw [List.getElem?_modify] at here
  obtain ⟨old, there, rfl⟩ := Option.map_eq_some_iff.mp here
  split
  · rename_i same
    exact Or.inr ⟨old, same ▸ there, rfl⟩
  · exact Or.inl (List.mem_of_getElem? there)

/-- What differs from the dropped item stays. -/
theorem mem_eraseIdx_of_ne {dropped : α} (here : slots[place]? = some dropped) (member : item ∈ slots)
    (different : item ≠ dropped) : item ∈ slots.eraseIdx place := by
  obtain ⟨position, there⟩ := List.mem_iff_getElem?.mp member
  refine List.mem_eraseIdx_iff_getElem?.mpr ⟨position, ?_, there⟩
  rintro rfl
  exact different (Option.some.inj (there.symm.trans here))

/-- What a place holds after a rewrite is the new item, or what it held. -/
theorem getElem?_set_cases {new : α} {position : Nat} (here : (slots.set place new)[position]? = some item) :
    item = new ∨ slots[position]? = some item := by
  rw [List.getElem?_set] at here
  split at here
  · split at here
    · exact Or.inl (Option.some.inj here).symm
    · cases here
  · exact Or.inr here

/-- What a place holds after one was added is the new item, or what it held. -/
theorem getElem?_concat_cases {new : α} {position : Nat} (here : (slots ++ [new])[position]? = some item) :
    item = new ∨ slots[position]? = some item := by
  rcases Nat.lt_or_ge position slots.length with before | after
  · rw [List.getElem?_append_left before] at here
    exact Or.inr here
  · rw [List.getElem?_append_right after] at here
    exact Or.inl (List.mem_singleton.mp (List.mem_of_getElem? here))

end Slots
