import DEFw.Lib.Dict
import DEFw.Lib.PyValue

namespace Py.Value

mutual

/-- The value and everything inside it. -/
def nodes : Value → List Value
  | list items => list items :: nodesList items
  | tuple items => tuple items :: nodesList items
  | dict entries => dict entries :: nodesEntries entries
  | value => [value]

def nodesList : List Value → List Value
  | [] => []
  | item :: rest => nodes item ++ nodesList rest

def nodesEntries : List (Key × Value) → List Value
  | [] => []
  | (_, value) :: rest => nodes value ++ nodesEntries rest

end

example : nodes (list [dict [(.str "a", none)]]) = [list [dict [(.str "a", none)]], dict [(.str "a", none)], none] := by
  simp [nodes, nodesList, nodesEntries]

theorem mem_nodesList {items : List Value} {node : Value} :
    node ∈ nodesList items ↔ ∃ item ∈ items, node ∈ item.nodes := by
  induction items with
  | nil => simp [nodesList]
  | cons item rest ih => simp [nodesList, ih]

theorem mem_nodesEntries {entries : List (Key × Value)} {node : Value} :
    node ∈ nodesEntries entries ↔ ∃ entry ∈ entries, node ∈ entry.2.nodes := by
  induction entries with
  | nil => simp [nodesEntries]
  | cons entry rest ih => simp [nodesEntries, ih]

/-- A property of the value and of everything inside it. -/
def All (holds : Value → Prop) (value : Value) : Prop := ∀ node ∈ value.nodes, holds node

theorem all_list {holds : Value → Prop} {items : List Value} :
    (list items).All holds ↔ holds (list items) ∧ ∀ item ∈ items, item.All holds := by
  simp only [All, nodes, List.mem_cons, mem_nodesList]
  aesop

theorem all_tuple {holds : Value → Prop} {items : List Value} :
    (tuple items).All holds ↔ holds (tuple items) ∧ ∀ item ∈ items, item.All holds := by
  simp only [All, nodes, List.mem_cons, mem_nodesList]
  aesop

theorem all_dict {holds : Value → Prop} {entries : List (Key × Value)} :
    (dict entries).All holds ↔ holds (dict entries) ∧ ∀ entry ∈ entries, entry.2.All holds := by
  simp only [All, nodes, List.mem_cons, mem_nodesEntries]
  aesop

theorem All.self {holds : Value → Prop} {value : Value} (all : value.All holds) : holds value := by
  refine all value ?_
  cases value <;> simp [nodes]

/-- The keys of a dictionary are distinct, as those of a Python dictionary are. -/
def distinctKeys : Value → Prop
  | dict entries => (entries.map Prod.fst).Nodup
  | _ => True

def WellFormed (value : Value) : Prop := value.All distinctKeys

theorem lookup_of_mem {entries : List (Key × Value)} (nodup : (entries.map Prod.fst).Nodup) {entry : Key × Value}
    (member : entry ∈ entries) : entries.lookup entry.1 = some entry.2 :=
  Dict.lookup_eq_some_iff nodup |>.mpr member

theorem mem_of_lookup {entries : List (Key × Value)} {key : Key} {value : Value}
    (found : entries.lookup key = some value) : (key, value) ∈ entries := by
  induction entries with
  | nil => cases found
  | cons entry rest ih =>
    obtain ⟨other, old⟩ := entry
    rw [Dict.lookup_cons_if] at found
    split at found
    · rename_i same
      cases found
      rw [same]
      exact List.mem_cons_self
    · exact List.mem_cons_of_mem _ (ih found)

theorem lookup_isSome {entries : List (Key × Value)} {key : Key} :
    (entries.lookup key).isSome ↔ key ∈ entries.map Prod.fst := by
  induction entries with
  | nil => simp
  | cons entry rest ih =>
    obtain ⟨other, old⟩ := entry
    rw [Dict.lookup_cons_if]
    by_cases same : key = other
    · simp [same]
    · simp [same, ih]

theorem eqvList_iff {xs ys : List Value} : eqvList xs ys = true ↔ List.Forall₂ (fun x y => eqv x y = true) xs ys := by
  induction xs generalizing ys with
  | nil => cases ys <;> simp [eqvList]
  | cons x xs ih => cases ys <;> simp [eqvList, ih]

theorem eqvEntries_iff {d e : List (Key × Value)} :
    eqvEntries d e = true ↔ ∀ entry ∈ d, ∃ found, e.lookup entry.1 = some found ∧ eqv entry.2 found = true := by
  induction d with
  | nil => simp [eqvEntries]
  | cons entry rest ih =>
    obtain ⟨key, value⟩ := entry
    simp only [eqvEntries, Bool.and_eq_true, ih, List.forall_mem_cons]
    cases e.lookup key <;> simp

theorem eqv_dict_iff {d e : List (Key × Value)} :
    eqv (dict d) (dict e) = true ↔
      (∀ entry ∈ d, ∃ found, e.lookup entry.1 = some found ∧ eqv entry.2 found = true) ∧
        ∀ key ∈ e.map Prod.fst, key ∈ d.map Prod.fst := by
  simp only [eqv, Bool.and_eq_true, eqvEntries_iff, List.all_eq_true, List.contains_iff_mem]

/-- Equal dictionaries, by what a lookup finds. -/
theorem eqv_lookup {d e : List (Key × Value)} (same : eqv (dict d) (dict e) = true) (key : Key) :
    (∃ a b, d.lookup key = some a ∧ e.lookup key = some b ∧ eqv a b = true) ∨
      (d.lookup key = Option.none ∧ e.lookup key = Option.none) := by
  obtain ⟨forward, back⟩ := eqv_dict_iff.mp same
  cases found : d.lookup key with
  | some a =>
    obtain ⟨b, other, alike⟩ := forward (key, a) (mem_of_lookup found)
    exact Or.inl ⟨a, b, rfl, other, alike⟩
  | none =>
    refine Or.inr ⟨rfl, ?_⟩
    rw [← Option.not_isSome_iff_eq_none, lookup_isSome] at found ⊢
    exact fun member => found (back key member)

theorem eqv_refl {value : Value} (wellFormed : value.WellFormed) : eqv value value = true := by
  induction value using Value.induction with
  | list items ih =>
    have members := (all_list.mp wellFormed).2
    simp only [eqv, eqvList_iff, List.forall₂_same]
    exact fun item member => ih item member (members item member)
  | tuple items ih =>
    have members := (all_tuple.mp wellFormed).2
    simp only [eqv, eqvList_iff, List.forall₂_same]
    exact fun item member => ih item member (members item member)
  | dict entries ih =>
    obtain ⟨nodup, members⟩ := all_dict.mp wellFormed
    refine eqv_dict_iff.mpr ⟨?_, fun _ => id⟩
    intro entry member
    exact ⟨entry.2, lookup_of_mem nodup member, ih entry member (members entry member)⟩
  | none | bool | int | str | other | bytes | bytearray | ndarray => simp [eqv]

theorem eqv_list_left {items : List Value} {other : Value} (same : eqv (list items) other = true) :
    ∃ others, other = list others ∧ List.Forall₂ (fun x y => eqv x y = true) items others := by
  cases other <;> simp [eqv, eqvList_iff] at same ⊢
  exact same

theorem eqv_tuple_left {items : List Value} {other : Value} (same : eqv (tuple items) other = true) :
    ∃ others, other = tuple others ∧ List.Forall₂ (fun x y => eqv x y = true) items others := by
  cases other <;> simp [eqv, eqvList_iff] at same ⊢
  exact same

theorem eqv_dict_left {entries : List (Key × Value)} {other : Value} (same : eqv (dict entries) other = true) :
    ∃ others, other = dict others := by
  cases other <;> simp [eqv] at same ⊢

/-- A value without parts, bytearrays as bytes. -/
def scalar? : Value → Option Value
  | list _ | tuple _ | dict _ => Option.none
  | bytearray data => some (bytes data)
  | value => some value

/-- Values without parts are equal when they are the same scalar. -/
theorem eqv_scalar_iff {a b : Value} (isScalar : a.scalar?.isSome = true) :
    eqv a b = true ↔ a.scalar? = b.scalar? := by
  cases a with
  | list | tuple | dict => cases isScalar
  | none | bool | int | str | other | bytes | bytearray | ndarray => cases b <;> simp [eqv, scalar?]

theorem eqv_trans {a b c : Value} (left : eqv a b = true) (right : eqv b c = true) : eqv a c = true := by
  have chain : ∀ {xs ys zs : List Value}, (∀ x ∈ xs, ∀ {y z}, eqv x y = true → eqv y z = true → eqv x z = true) →
      List.Forall₂ (fun x y => eqv x y = true) xs ys → List.Forall₂ (fun x y => eqv x y = true) ys zs →
      List.Forall₂ (fun x y => eqv x y = true) xs zs := by
    intro xs ys zs each first second
    induction first generalizing zs with
    | nil => exact second
    | cons same _ ih =>
      cases second with
      | cons next rest =>
        exact .cons (each _ List.mem_cons_self same next)
          (ih (fun x member => each x (List.mem_cons_of_mem _ member)) rest)
  induction a using Value.induction generalizing b c with
  | list items ih =>
    obtain ⟨others, rfl, first⟩ := eqv_list_left left
    obtain ⟨last, rfl, second⟩ := eqv_list_left right
    simp only [eqv, eqvList_iff]
    exact chain (fun x member => ih x member) first second
  | tuple items ih =>
    obtain ⟨others, rfl, first⟩ := eqv_tuple_left left
    obtain ⟨last, rfl, second⟩ := eqv_tuple_left right
    simp only [eqv, eqvList_iff]
    exact chain (fun x member => ih x member) first second
  | dict entries ih =>
    obtain ⟨others, rfl⟩ := eqv_dict_left left
    obtain ⟨last, rfl⟩ := eqv_dict_left right
    obtain ⟨forward, back⟩ := eqv_dict_iff.mp left
    obtain ⟨onward, home⟩ := eqv_dict_iff.mp right
    refine eqv_dict_iff.mpr ⟨?_, fun key member => back key (home key member)⟩
    intro entry member
    obtain ⟨middle, atMiddle, first⟩ := forward entry member
    obtain ⟨final, atFinal, second⟩ := onward (entry.1, middle) (mem_of_lookup atMiddle)
    exact ⟨final, atFinal, ih entry member first second⟩
  | none | bool | int | str | other | bytes | bytearray | ndarray =>
    have same := (eqv_scalar_iff rfl).mp left
    have isScalar : b.scalar?.isSome = true := by rw [← same]; rfl
    exact (eqv_scalar_iff rfl).mpr (same.trans ((eqv_scalar_iff isScalar).mp right))

theorem eqv_symm {a b : Value} (wellFormed : b.WellFormed) (same : eqv a b = true) : eqv b a = true := by
  have turn : ∀ {xs ys : List Value}, (∀ x ∈ xs, ∀ {y}, y.WellFormed → eqv x y = true → eqv y x = true) →
      (∀ y ∈ ys, y.WellFormed) → List.Forall₂ (fun x y => eqv x y = true) xs ys →
      List.Forall₂ (fun x y => eqv x y = true) ys xs := by
    intro xs ys each formed pairs
    induction pairs with
    | nil => exact .nil
    | cons alike _ ih =>
      exact .cons (each _ List.mem_cons_self (formed _ List.mem_cons_self) alike)
        (ih (fun x member => each x (List.mem_cons_of_mem _ member))
          (fun y member => formed y (List.mem_cons_of_mem _ member)))
  induction a using Value.induction generalizing b with
  | list items ih =>
    obtain ⟨others, rfl, pairs⟩ := eqv_list_left same
    simp only [eqv, eqvList_iff]
    exact turn (fun x member => ih x member) (all_list.mp wellFormed).2 pairs
  | tuple items ih =>
    obtain ⟨others, rfl, pairs⟩ := eqv_tuple_left same
    simp only [eqv, eqvList_iff]
    exact turn (fun x member => ih x member) (all_tuple.mp wellFormed).2 pairs
  | dict entries ih =>
    obtain ⟨others, rfl⟩ := eqv_dict_left same
    obtain ⟨nodup, formed⟩ := all_dict.mp wellFormed
    refine eqv_dict_iff.mpr ⟨?_, ?_⟩
    · intro entry member
      rcases eqv_lookup same entry.1 with ⟨a, b, atA, atB, alike⟩ | ⟨_, absent⟩
      · rw [lookup_of_mem nodup member] at atB
        cases atB
        exact ⟨a, atA, ih (entry.1, a) (mem_of_lookup atA) (formed entry member) alike⟩
      · rw [lookup_of_mem nodup member] at absent
        cases absent
    · intro key member
      rw [← lookup_isSome] at member ⊢
      rcases eqv_lookup same key with ⟨_, _, _, atB, _⟩ | ⟨absent, _⟩
      · rw [atB]
        rfl
      · rw [absent] at member
        cases member
  | none | bool | int | str | other | bytes | bytearray | ndarray =>
    have alike := (eqv_scalar_iff rfl).mp same
    have isScalar : b.scalar?.isSome = true := by rw [← alike]; rfl
    exact (eqv_scalar_iff isScalar).mpr alike.symm

end Py.Value
