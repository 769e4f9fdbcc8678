import DEFw.Lib.DocTree
import Mathlib.Tactic.Tauto

namespace DEFw.Config

abbrev Text := List Char

/-- A keyword stands for a text or for what a function returns. -/
inductive Keyword where
  | text (value : Text)
  | call (result : Text)

/-- `g_keywords` and `os.environ`. -/
structure Table where
  keywords : Text → Option Keyword
  environ : Text → Option Text

/-- The value of a name; a keyword goes before an environment variable. -/
def Table.value (table : Table) (name : Text) : Option Text :=
  match table.keywords name with
  | some (.text value) => some value
  | some (.call result) => some result
  | none => table.environ name

/-- `s.split("${")`. -/
def splitOpening : Text → List Text
  | [] => [[]]
  | '$' :: '\x7b' :: rest => [] :: splitOpening rest
  | c :: rest =>
    match splitOpening rest with
    | [] => [[c]]
    | segment :: more => (c :: segment) :: more

/-- What one segment adds to the result: up to the first brace it is a name, also when it stands before
the first reference. A name without a value takes the rest of its segment with it. -/
def resolveSegment (table : Table) (segment : Text) : Text :=
  if '\x7d' ∈ segment then
    match table.value (segment.takeWhile (· ≠ '\x7d')) with
    | some value => value ++ (segment.dropWhile (· ≠ '\x7d')).tail
    | none => []
  else segment

def resolveEnvVar (table : Table) (s : Text) : Text :=
  if (splitOpening s).length = 1 then s else (splitOpening s).flatMap (resolveSegment table)

/-- `recurse_dictionary` on a value: what stands in its place afterwards. An item of a list that is
itself a list is passed over. -/
def recurseDictionary {κ α : Type} (strCb : α → α) : DocTree κ α → DocTree κ α
  | .leaf s => .leaf (strCb s)
  | .other id => .other id
  | .list items => .list (items.map (fun item => if item.isList then item else recurseDictionary strCb item))
  | .dict entries => .dict (entries.map (fun entry => (entry.1, recurseDictionary strCb entry.2)))
decreasing_by
  · exact DocTree.sizeOf_item ‹_›
  · exact DocTree.sizeOf_entry ‹_›

/-- A text piece does not open a reference. -/
def Unopened (text : Text) : Prop := ¬['$', '\x7b'] <:+: text

/-- A reference and the text piece behind it. -/
structure Reference where
  name : Text
  text : Text
  plain : '$' ∉ name ∧ '\x7b' ∉ name ∧ '\x7d' ∉ name
  unopened : Unopened text

/-- A string of text pieces and references. -/
structure Template where
  first : Text
  references : List Reference
  unopened : Unopened first

def Reference.segment (reference : Reference) : Text := reference.name ++ '\x7d' :: reference.text

/-- The string itself. -/
def Template.render (template : Template) : Text :=
  template.first ++ template.references.flatMap (fun reference => '$' :: '\x7b' :: reference.segment)

/-- The string with every reference replaced by its value, or by nothing. -/
def Template.substituted (table : Table) (template : Template) : Text :=
  template.first ++ template.references.flatMap (fun reference =>
    (table.value reference.name).getD [] ++ reference.text)

theorem splitOpening_ne_nil (text : Text) : splitOpening text ≠ [] := by
  fun_cases splitOpening text <;> simp_all

theorem Unopened.tail {c : Char} {rest : Text} (unopened : Unopened (c :: rest)) : Unopened rest :=
  fun inside => unopened (inside.trans (List.suffix_cons c rest).isInfix)

theorem splitOpening_cons {c : Char} {rest : Text} (apart : c = '$' → rest.head? ≠ some '\x7b') :
    splitOpening (c :: rest) = (c :: (splitOpening rest).headD []) :: (splitOpening rest).tail := by
  rw [splitOpening.eq_3]
  · cases split : splitOpening rest with
    | nil => exact absurd split (splitOpening_ne_nil rest)
    | cons segment more => rfl
  · rintro later rfl rfl
    exact apart rfl rfl

/-- The part before an opening is a segment of its own. -/
theorem splitOpening_append {text : Text} (unopened : Unopened text) (rest : Text) :
    splitOpening (text ++ '$' :: '\x7b' :: rest) = text :: splitOpening rest := by
  induction text with
  | nil => rfl
  | cons c later ih =>
    rw [List.cons_append, splitOpening_cons, ih unopened.tail]
    · rfl
    · rintro rfl
      cases later with
      | nil => simp
      | cons d more =>
        rw [List.cons_append, List.head?_cons]
        rintro ⟨⟩
        exact unopened ⟨[], more, rfl⟩

theorem splitOpening_unopened {text : Text} (unopened : Unopened text) : splitOpening text = [text] := by
  induction text with
  | nil => rfl
  | cons c later ih =>
    rw [splitOpening_cons, ih unopened.tail]
    · rfl
    · rintro rfl opened
      obtain ⟨more, rfl⟩ : ∃ more, later = '\x7b' :: more := by
        cases later with
        | nil => cases opened
        | cons d more => exact ⟨more, by rw [Option.some.inj opened]⟩
      exact unopened ⟨[], more, rfl⟩

theorem Unopened.behind_name {name text : Text} (plain : '$' ∉ name) (unopened : Unopened text) :
    Unopened (name ++ '\x7d' :: text) := by
  induction name with
  | nil =>
    intro opened
    rcases List.infix_cons_iff.mp opened with here | later
    · simp at here
    · exact unopened later
  | cons c name ih =>
    rw [List.mem_cons, not_or] at plain
    intro opened
    rcases List.infix_cons_iff.mp opened with here | later
    · rw [List.cons_prefix_cons] at here
      exact plain.1 here.1
    · exact ih plain.2 later

/-- The segments of a string are its first text piece and one for every reference. -/
theorem Template.splitOpening_render (template : Template) :
    splitOpening template.render = template.first :: template.references.map Reference.segment := by
  obtain ⟨first, references, unopened⟩ := template
  simp only [render]
  induction references generalizing first with
  | nil =>
    rw [List.flatMap_nil, List.append_nil]
    exact splitOpening_unopened unopened
  | cons reference rest ih =>
    rw [List.flatMap_cons, List.cons_append, List.cons_append, splitOpening_append unopened,
      ih reference.segment (reference.unopened.behind_name reference.plain.1)]
    rfl

/-- What a reference adds to the result. -/
def Reference.resolved (table : Table) (reference : Reference) : Text :=
  match table.value reference.name with
  | some value => value ++ reference.text
  | none => []

theorem Reference.resolveSegment_segment (table : Table) (reference : Reference) :
    resolveSegment table reference.segment = reference.resolved table := by
  have before : ∀ c ∈ reference.name, decide (c ≠ '\x7d') = true := by
    intro c member
    refine decide_eq_true (fun brace => reference.plain.2.2 ?_)
    rwa [← brace]
  have name : reference.segment.takeWhile (· ≠ '\x7d') = reference.name := by
    rw [segment, List.takeWhile_append_of_pos before]
    simp
  have rest : reference.segment.dropWhile (· ≠ '\x7d') = '\x7d' :: reference.text := by
    rw [segment, List.dropWhile_append_of_pos before]
    simp
  rw [resolveSegment, if_pos (by simp [segment]), name, rest]
  rfl

theorem Template.resolveEnvVar_render (table : Table) (template : Template) :
    resolveEnvVar table template.render =
      if template.references = [] then template.first
      else resolveSegment table template.first ++ template.references.flatMap (Reference.resolved table) := by
  rw [resolveEnvVar, splitOpening_render]
  by_cases none : template.references = []
  · rw [if_pos none, if_pos (by simp [none])]
    simp [render, none]
  · rw [if_neg none, if_neg (by simpa using none), List.flatMap_cons, List.flatMap_map]
    simp only [Reference.resolveSegment_segment]

/-- The names that have a value, whatever the value. -/
def Table.Defines (table : Table) (defined : Text → Bool) : Prop :=
  ∀ name, (table.value name).isSome = defined name

/-- A brace in the first text piece would be read as the end of a name, and the text behind a reference
without a value is lost. -/
def Template.Safe (defined : Text → Bool) (template : Template) : Prop :=
  (template.references = [] ∨ '\x7d' ∉ template.first) ∧
    ∀ reference ∈ template.references, defined reference.name = false → reference.text = []

/-- The text pieces behind references without a value. -/
def dropped (defined : Text → Bool) (references : List Reference) : Text :=
  (references.filter (fun reference => !defined reference.name)).flatMap Reference.text

theorem Table.Defines.value_eq_none {table : Table} {defined : Text → Bool} (defines : table.Defines defined)
    {name : Text} (undefined : defined name = false) : table.value name = none := by
  rw [← Option.not_isSome_iff_eq_none, defines name, undefined]
  simp

theorem length_dropped {table : Table} {defined : Text → Bool} (defines : table.Defines defined)
    (references : List Reference) :
    (references.flatMap (fun reference => (table.value reference.name).getD [] ++ reference.text)).length =
      (references.flatMap (Reference.resolved table)).length + (dropped defined references).length := by
  induction references with
  | nil => rfl
  | cons reference rest ih =>
    rw [List.flatMap_cons, List.flatMap_cons, List.length_append, List.length_append, ih]
    cases known : defined reference.name with
    | true =>
      obtain ⟨value, found⟩ := Option.isSome_iff_exists.mp ((defines reference.name).trans known)
      simp only [Reference.resolved, found, Option.getD_some, dropped, List.filter_cons, known]
      simp
      omega
    | false =>
      simp only [Reference.resolved, defines.value_eq_none known, dropped, List.filter_cons, known]
      simp
      omega

/-- A table whose values are empty, but for one. -/
def Table.filled (defined : Text → Bool) (long : Text) (n : Nat) : Table where
  keywords _ := none
  environ name := if defined name then some (if name = long then List.replicate n 'x' else []) else none

theorem Table.filled_defines (defined : Text → Bool) (long : Text) (n : Nat) : (filled defined long n).Defines defined := by
  intro name
  cases known : defined name <;> simp [value, filled, known]

/-- A string is substituted as it should be, whatever the values, just if it is safe. -/
theorem Template.safe_iff (template : Template) (defined : Text → Bool) :
    (∀ table : Table, table.Defines defined →
      resolveEnvVar table template.render = template.substituted table) ↔ template.Safe defined := by
  by_cases none : template.references = []
  · simp [resolveEnvVar_render, substituted, Safe, none]
  simp only [resolveEnvVar_render, if_neg none, substituted]
  constructor
  · intro same
    have lengths (table : Table) (defines : table.Defines defined) :
        (resolveSegment table template.first).length = template.first.length +
          (dropped defined template.references).length := by
      have total := congrArg List.length (same table defines)
      rw [List.length_append, List.length_append, length_dropped defines] at total
      omega
    by_cases brace : '\x7d' ∈ template.first
    · exfalso
      -- the part before the brace is looked up: a long value shows it, a missing one drops the piece
      cases known : defined (template.first.takeWhile (· ≠ '\x7d')) with
      | true =>
        have long := lengths (.filled defined (template.first.takeWhile (· ≠ '\x7d'))
          (template.first.length + (dropped defined template.references).length + 1)) (Table.filled_defines _ _ _)
        simp only [resolveSegment, if_pos brace, Table.value, Table.filled, known, if_true, List.length_append,
          List.length_replicate] at long
        omega
      | false =>
        have lost := lengths (.filled defined [] 0) (Table.filled_defines _ _ _)
        rw [resolveSegment, if_pos brace, (Table.filled_defines defined [] 0).value_eq_none known] at lost
        have occupied := List.length_pos_of_mem brace
        simp at lost
        omega
    · refine ⟨.inr brace, fun reference member undefined => ?_⟩
      have kept := lengths (.filled defined [] 0) (Table.filled_defines _ _ _)
      rw [resolveSegment, if_neg brace] at kept
      have empty : dropped defined template.references = [] := List.length_eq_zero_iff.mp (by omega)
      exact List.flatMap_eq_nil_iff.mp empty reference (List.mem_filter.mpr ⟨member, by simp [undefined]⟩)
  · rintro ⟨shape, empty⟩ table defines
    have brace := shape.resolve_left none
    rw [resolveSegment, if_neg brace]
    refine congrArg (template.first ++ ·) (List.flatMap_congr (fun reference member => ?_))
    cases found : table.value reference.name with
    | some value => simp [Reference.resolved, found]
    | none =>
      have undefined : defined reference.name = false := by rw [← defines reference.name, found, Option.isSome_none]
      simp [Reference.resolved, found, empty reference member undefined]

theorem length_render (defined : Text → Bool) (references : List Reference) :
    (references.flatMap (fun reference =>
        ((Table.filled defined [] 0).value reference.name).getD [] ++ reference.text)).length + references.length ≤
      (references.flatMap (fun reference => '$' :: '\x7b' :: reference.segment)).length := by
  have empty (name : Text) : ((Table.filled defined [] 0).value name).getD [] = [] := by
    cases known : defined name <;> simp [Table.value, Table.filled, known]
  induction references with
  | nil => exact Nat.le_refl 0
  | cons reference rest ih =>
    simp only [List.flatMap_cons, List.length_append, List.length_cons, empty, Reference.segment, List.length_nil] at ih ⊢
    omega

/-- A string that is left alone is right, whatever the values, just if it has no references. -/
theorem Template.untouched_iff (template : Template) (defined : Text → Bool) :
    (∀ table : Table, table.Defines defined → template.render = template.substituted table) ↔
      template.references = [] := by
  constructor
  · intro same
    have total := congrArg List.length (same (.filled defined [] 0) (Table.filled_defines _ _ _))
    have longer := length_render defined template.references
    rw [render, substituted, List.length_append, List.length_append] at total
    exact List.length_eq_zero_iff.mp (by omega)
  · intro none table _
    rw [render, substituted, none]
    rfl

section Traversal

variable {κ α β : Type}

/-- The strings that the traversal comes to. -/
def visited : DocTree κ α → List α
  | .leaf s => [s]
  | .other _ => []
  | .list items => items.flatMap (fun item => if item.isList then [] else visited item)
  | .dict entries => entries.flatMap (fun entry => visited entry.2)
decreasing_by
  · exact DocTree.sizeOf_item ‹_›
  · exact DocTree.sizeOf_entry ‹_›

/-- The strings that it passes over: those in a list that is an item of a list. -/
def missed : DocTree κ α → List α
  | .leaf _ => []
  | .other _ => []
  | .list items => items.flatMap (fun item => if item.isList then item.leaves else missed item)
  | .dict entries => entries.flatMap (fun entry => missed entry.2)
decreasing_by
  · exact DocTree.sizeOf_item ‹_›
  · exact DocTree.sizeOf_entry ‹_›

theorem isList_map (f : α → β) (tree : DocTree κ α) : (tree.map f).isList = tree.isList := by
  cases tree <;> simp [DocTree.map, DocTree.isList]

/-- The traversal makes one document out of another just if it does so at the strings it comes to, and
the documents agree at the others. -/
theorem recurseDictionary_map_iff {strCb : α → α} {f g : β → α} {tree : DocTree κ β} :
    recurseDictionary strCb (tree.map f) = tree.map g ↔
      (∀ s ∈ visited tree, strCb (f s) = g s) ∧ ∀ s ∈ missed tree, f s = g s := by
  induction tree using DocTree.induction with
  | leaf s => simp [DocTree.map, recurseDictionary, visited, missed]
  | other id => simp [DocTree.map, recurseDictionary, visited, missed]
  | list items ih =>
    have each (item) (member : item ∈ items) :
        (if (item.map f).isList then item.map f else recurseDictionary strCb (item.map f)) = item.map g ↔
          (∀ s ∈ (if item.isList then [] else visited item), strCb (f s) = g s) ∧
            ∀ s ∈ (if item.isList then item.leaves else missed item), f s = g s := by
      rw [isList_map]
      cases item.isList with
      | true => simp [DocTree.map_congr_iff]
      | false => simpa using ih item member
    simp only [DocTree.map, recurseDictionary, visited, missed, DocTree.list.injEq, List.map_map, List.map_inj_left,
      Function.comp, List.forall_mem_flatMap, ← forall₂_and]
    exact forall₂_congr each
  | dict entries ih =>
    simp only [DocTree.map, recurseDictionary, visited, missed, DocTree.dict.injEq, List.map_map, List.map_inj_left,
      Function.comp, List.forall_mem_flatMap, ← forall₂_and, Prod.mk.injEq, true_and]
    exact forall₂_congr ih

end Traversal

/-- Substitution is right, for every string and every configuration and whatever the values of the names
that have one, just if the text before a reference has no closing brace, a reference without a value has no
text behind it, and no list in a list holds a reference. -/
theorem environment_substitution_iff {κ : Type} (defined : Text → Bool) (template : Template)
    (config : List (κ × DocTree κ Template)) :
    ((∀ table : Table, table.Defines defined →
        resolveEnvVar table template.render = template.substituted table) ↔ template.Safe defined) ∧
    ((∀ table : Table, table.Defines defined →
        recurseDictionary (resolveEnvVar table) (DocTree.map Template.render (.dict config)) =
          DocTree.map (Template.substituted table) (.dict config)) ↔
      (∀ s ∈ visited (.dict config), s.Safe defined) ∧ ∀ s ∈ missed (.dict config), s.references = []) := by
  refine ⟨template.safe_iff defined, ?_⟩
  simp only [recurseDictionary_map_iff, ← Template.safe_iff, ← fun s => Template.untouched_iff s defined]
  constructor
  · exact fun each => ⟨fun s member table defines => (each table defines).1 s member,
      fun s member table defines => (each table defines).2 s member⟩
  · exact fun ⟨safe, untouched⟩ table defines => ⟨fun s member => safe s member table defines,
      fun s member => untouched s member table defines⟩

instance (text : Text) : Decidable (Unopened text) :=
  inferInstanceAs (Decidable (¬_))

/-- A string of one reference and the text behind it. -/
def Template.single (first name text : String)
    (plain : '$' ∉ name.toList ∧ '\x7b' ∉ name.toList ∧ '\x7d' ∉ name.toList) (before : Unopened first.toList)
    (behind : Unopened text.toList) : Template :=
  ⟨first.toList, [⟨name.toList, text.toList, plain, behind⟩], before⟩

/-- With `HOME` alone defined: the text behind `UNSET` is lost, a text piece with a brace before `HOME` is
lost, and a reference in a list in a list stays. -/
theorem text_behind_unset_lost :
    let table : Table := ⟨fun _ => none, fun name => if name = "HOME".toList then some "/root".toList else none⟩
    let unset := Template.single "" "UNSET" "tail" (by decide) (by decide) (by decide)
    let brace := Template.single "a\x7db" "HOME" "" (by decide) (by decide) (by decide)
    let home := Template.single "" "HOME" "" (by decide) (by decide) (by decide)
    let config : DocTree String Template := .dict [("paths", .list [.list [.leaf home]])]
    resolveEnvVar table unset.render = [] ∧ unset.substituted table = "tail".toList ∧
      resolveEnvVar table brace.render = "/root".toList ∧ brace.substituted table = "a\x7db/root".toList ∧
      recurseDictionary (resolveEnvVar table) (config.map Template.render) ≠ config.map (Template.substituted table) := by
  refine ⟨by decide, by decide, by decide, by decide, fun same => ?_⟩
  have passed := (recurseDictionary_map_iff.mp same).2
  simp only [missed, DocTree.isList, DocTree.leaves, List.flatMap_cons, List.flatMap_nil, List.append_nil, if_true,
    List.mem_singleton, forall_eq] at passed
  exact absurd passed (by decide)

end DEFw.Config
