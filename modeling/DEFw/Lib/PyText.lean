import Mathlib.Data.List.Basic

/-! The searches and slices of a Python string, on lists. A negative index counts from the end. -/

namespace Py.Text

variable {α : Type}

/-- The position that an index of a slice means. -/
def position (s : List α) (index : Int) : Nat :=
  if index < 0 then (index + s.length).toNat else index.toNat

/-- `s[:stop]`. -/
def upTo (s : List α) (stop : Int) : List α := s.take (position s stop)

/-- `s[start:]`. -/
def onward (s : List α) (start : Int) : List α := s.drop (position s start)

/-- `s[start:stop]`. -/
def slice (s : List α) (start stop : Int) : List α := (s.take (position s stop)).drop (position s start)

/-- `s.strip()`, for a test of white space. -/
def strip (space : α → Bool) (s : List α) : List α :=
  ((s.dropWhile space).reverse.dropWhile space).reverse

@[simp] theorem position_natCast (s : List α) (n : Nat) : position s (n : Int) = n := by
  rw [position, if_neg (by omega), Int.toNat_natCast]

theorem position_neg_one (s : List α) : position s (-1) = s.length - 1 := by
  rw [position, if_pos (by decide)]
  omega

theorem strip_eq_self {space : α → Bool} {s : List α} (solid : ∀ c ∈ s, space c = false) : strip space s = s := by
  have kept {t : List α} (within : ∀ c ∈ t, space c = false) : t.dropWhile space = t := by
    cases t with
    | nil => rfl
    | cons c rest =>
      rw [List.dropWhile_cons, within c List.mem_cons_self]
      rfl
  rw [strip, kept solid, kept (fun c member => solid c (List.mem_reverse.mp member)), List.reverse_reverse]

variable [DecidableEq α]

/-- `s.find(c, start)`. -/
def find (s : List α) (c : α) (start : Int) : Int :=
  match (s.drop (position s start)).idxOf? c with
  | some offset => (position s start + offset : Nat)
  | none => -1

/-- A search finds nothing, or a place at or behind its start. -/
theorem find_cases (s : List α) (c : α) (start : Int) :
    find s c start = -1 ∨ ∃ i : Nat, find s c start = i ∧ position s start ≤ i ∧ s[i]? = some c := by
  unfold find
  cases found : (s.drop (position s start)).idxOf? c with
  | none => exact .inl rfl
  | some offset =>
    refine .inr ⟨_, rfl, Nat.le_add_right _ _, ?_⟩
    obtain ⟨inside, here, -⟩ := List.idxOf?_eq_some_iff.mp found
    rw [← List.getElem?_drop, List.getElem?_eq_getElem inside, here]

theorem find_eq {s skipped before after : List α} {c : α} (text : s = skipped ++ (before ++ c :: after))
    (absent : c ∉ before) : find s c skipped.length = (skipped.length + before.length : Nat) := by
  have offset : (s.drop skipped.length).idxOf? c = some before.length := by
    rw [text, List.drop_left]
    refine List.idxOf?_eq_some_iff.mpr ⟨by simp, by simp, ?_⟩
    intro j earlier
    rw [List.getElem_append_left earlier]
    rintro rfl
    exact absent (List.getElem_mem earlier)
  rw [find, position_natCast, offset]

theorem find_start {s before after : List α} {c : α} (text : s = before ++ c :: after) (absent : c ∉ before) :
    find s c 0 = before.length := by
  have behind : s = [] ++ (before ++ c :: after) := text
  have found := find_eq behind absent
  rwa [List.length_nil, Nat.zero_add] at found

theorem find_absent {s : List α} {c : α} {start : Int} (absent : c ∉ s.drop (position s start)) :
    find s c start = -1 := by
  rw [find, List.idxOf?_eq_none_iff.mpr absent]

/-- A search that starts later, but not behind what is found, finds the same. -/
theorem find_later {s : List α} {c : α} {k j i : Nat} (found : find s c k = i) (later : k ≤ j) (before : j ≤ i) :
    find s c j = i := by
  unfold find at found ⊢
  rw [position_natCast] at found ⊢
  cases offset : (s.drop k).idxOf? c with
  | none =>
    rw [offset] at found
    cases found
  | some n =>
    rw [offset] at found
    have place : k + n = i := Int.ofNat.inj found
    obtain ⟨inside, here, first⟩ := List.idxOf?_eq_some_iff.mp offset
    have again : (s.drop j).idxOf? c = some (i - j) := by
      refine List.idxOf?_eq_some_iff.mpr ⟨?_, ?_, ?_⟩
      · rw [List.length_drop] at inside ⊢
        omega
      · rw [List.getElem_drop] at here ⊢
        rw [← here]
        congr 1
        omega
      · intro m earlier same
        refine first (j + m - k) (by omega) ?_
        rw [List.getElem_drop] at same ⊢
        rw [← same]
        congr 1
        omega
    rw [again]
    change ((j + (i - j) : Nat) : Int) = i
    omega

theorem find_none_later {s : List α} {c : α} {k j : Nat} (none : find s c k = -1) (later : k ≤ j) : find s c j = -1 := by
  have absent : c ∉ s.drop k := by
    intro member
    rcases found : (s.drop k).idxOf? c with _ | n
    · exact List.idxOf?_eq_none_iff.mp found member
    · rw [find, position_natCast, found] at none
      cases none
  refine find_absent ?_
  rw [position_natCast]
  intro member
  have suffix : s.drop j = (s.drop k).drop (j - k) := by rw [List.drop_drop, Nat.add_sub_cancel' later]
  rw [suffix] at member
  exact absent (List.mem_of_mem_drop member)

theorem find_at {s : List α} {c : α} {i : Nat} (here : s[i]? = some c) : find s c i = i := by
  obtain ⟨inside, same⟩ := List.getElem?_eq_some_iff.mp here
  have text : s = s.take i ++ ([] ++ c :: s.drop (i + 1)) := by
    rw [List.nil_append, ← same, ← List.drop_eq_getElem_cons inside, List.take_append_drop]
  have found := find_eq text (List.not_mem_nil)
  rwa [List.length_take_of_le (Nat.le_of_lt inside), List.length_nil, Nat.add_zero] at found

end Py.Text
