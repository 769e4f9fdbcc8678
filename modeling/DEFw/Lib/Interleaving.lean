import Mathlib.Data.List.Basic

namespace Interleaving

variable {ι α : Type} [DecidableEq ι]

/-- The items that one source has in a tagged sequence. -/
def part (source : ι) (merged : List (ι × α)) : List α :=
  (merged.filter (fun item => item.1 = source)).map Prod.snd

theorem part_concat_self (source : ι) (merged : List (ι × α)) (item : α) :
    part source (merged ++ [(source, item)]) = part source merged ++ [item] := by
  simp [part]

theorem part_concat_other {source other : ι} (different : other ≠ source) (merged : List (ι × α)) (item : α) :
    part source (merged ++ [(other, item)]) = part source merged := by
  simp [part, different]

theorem mem_part {source : ι} {merged : List (ι × α)} {item : α} (member : (source, item) ∈ merged) :
    item ∈ part source merged := by
  simpa [part] using member

theorem part_prefix (source : ι) {shorter longer : List (ι × α)} (begins : shorter <+: longer) :
    part source shorter <+: part source longer :=
  (begins.filter _).map _

end Interleaving
