import Mathlib.Data.List.Nodup

/-- An insertion-ordered dictionary: assignment to a present key keeps the
position of that key, a new key goes to the end. Keys occur once. -/
structure Dict (κ α : Type) where
  entries : List (κ × α)
  nodup : (entries.map Prod.fst).Nodup

namespace Dict

variable {κ α β : Type}

def empty : Dict κ α := ⟨[], List.nodup_nil⟩

def keys (d : Dict κ α) : List κ := d.entries.map Prod.fst

def values (d : Dict κ α) : List α := d.entries.map Prod.snd

theorem flatMap_filter_of_nil {items : List α} {keep : α → Bool} {f : α → List β}
    (dropped : ∀ item ∈ items, keep item = false → f item = []) :
    (items.filter keep).flatMap f = items.flatMap f := by
  induction items with
  | nil => rfl
  | cons item rest ih =>
    have tail := ih (fun other member => dropped other (List.mem_cons_of_mem _ member))
    cases kept : keep item with
    | true => simp [kept, tail]
    | false => simp [kept, tail, dropped item (List.mem_cons_self ..) kept]

variable [DecidableEq κ]

def get? (d : Dict κ α) (key : κ) : Option α := d.entries.lookup key

/-- Assignment on the raw entry list. -/
def assign (key : κ) (value : α) : List (κ × α) → List (κ × α)
  | [] => [(key, value)]
  | (other, old) :: rest => if other = key then (key, value) :: rest else (other, old) :: assign key value rest

theorem mem_of_mem_assign {key : κ} {value : α} {entries : List (κ × α)} {entry : κ × α}
    (member : entry ∈ assign key value entries) : entry = (key, value) ∨ entry ∈ entries := by
  induction entries with
  | nil => exact Or.inl (List.mem_singleton.mp member)
  | cons head rest ih =>
    obtain ⟨first, old⟩ := head
    by_cases same : first = key
    · simp only [assign, if_pos same, List.mem_cons] at member
      rcases member with new | later
      · exact Or.inl new
      · exact Or.inr (List.mem_cons_of_mem _ later)
    · simp only [assign, if_neg same, List.mem_cons] at member
      rcases member with kept | later
      · exact Or.inr (kept ▸ List.mem_cons_self)
      · exact (ih later).imp_right (List.mem_cons_of_mem _)

theorem mem_assign_keys {key other : κ} {value : α} {entries : List (κ × α)} :
    other ∈ (assign key value entries).map Prod.fst ↔ other = key ∨ other ∈ entries.map Prod.fst := by
  induction entries with
  | nil => simp [assign]
  | cons head rest ih =>
    obtain ⟨first, old⟩ := head
    by_cases same : first = key
    · simp [assign, same]
    · simp only [assign, if_neg same, List.map_cons, List.mem_cons, ih]
      tauto

theorem assign_nodup {key : κ} {value : α} {entries : List (κ × α)}
    (nodup : (entries.map Prod.fst).Nodup) : ((assign key value entries).map Prod.fst).Nodup := by
  induction entries with
  | nil => simp [assign]
  | cons head rest ih =>
    obtain ⟨first, old⟩ := head
    rw [List.map_cons, List.nodup_cons] at nodup
    by_cases same : first = key
    · subst same
      simpa [assign] using nodup
    · simp only [assign, if_neg same, List.map_cons, List.nodup_cons]
      refine ⟨?_, ih nodup.2⟩
      intro member
      rcases mem_assign_keys.mp member with equal | old
      · exact same equal
      · exact nodup.1 old

def set (d : Dict κ α) (key : κ) (value : α) : Dict κ α :=
  ⟨assign key value d.entries, assign_nodup d.nodup⟩

def filter (d : Dict κ α) (keep : κ → α → Bool) : Dict κ α :=
  ⟨d.entries.filter (fun entry => keep entry.1 entry.2),
    (List.Sublist.map Prod.fst List.filter_sublist).nodup d.nodup⟩

def erase (d : Dict κ α) (key : κ) : Dict κ α := d.filter (fun other _ => other ≠ key)

/-- One pass over the values that leaves keys and order alone. -/
def mapValues (d : Dict κ α) (f : α → β) : Dict κ β :=
  ⟨d.entries.map (fun entry => (entry.1, f entry.2)), by
    simpa only [List.map_map, Function.comp_def] using d.nodup⟩

@[simp] theorem get?_empty (key : κ) : (empty : Dict κ α).get? key = none := rfl

theorem lookup_cons_if (first key : κ) (value : α) (rest : List (κ × α)) :
    ((first, value) :: rest).lookup key = if key = first then some value else rest.lookup key := by
  by_cases same : key = first
  · simp [same]
  · simp [List.lookup_cons, beq_eq_false_iff_ne.mpr same, same]

theorem lookup_assign (key other : κ) (value : α) (entries : List (κ × α)) :
    (assign key value entries).lookup other = if other = key then some value else entries.lookup other := by
  induction entries with
  | nil => simp [assign, lookup_cons_if]
  | cons head rest ih =>
    obtain ⟨first, old⟩ := head
    by_cases same : first = key
    · subst same
      simp only [assign, if_true, lookup_cons_if]
      split <;> rfl
    · simp only [assign, if_neg same, lookup_cons_if, ih]
      by_cases atKey : other = key
      · simp only [atKey, if_true, if_neg (Ne.symm same)]
      · simp only [atKey, if_false]

theorem get?_set (d : Dict κ α) (key other : κ) (value : α) :
    (d.set key value).get? other = if other = key then some value else d.get? other :=
  lookup_assign key other value d.entries

@[simp] theorem get?_set_self (d : Dict κ α) (key : κ) (value : α) : (d.set key value).get? key = some value := by
  simp [get?_set]

@[simp] theorem get?_mapValues (d : Dict κ α) (f : α → β) (key : κ) :
    (d.mapValues f).get? key = (d.get? key).map f := by
  obtain ⟨entries, nodup⟩ := d
  simp only [mapValues, get?]
  clear nodup
  induction entries with
  | nil => rfl
  | cons head rest ih =>
    obtain ⟨first, old⟩ := head
    simp only [List.map_cons, lookup_cons_if, ih]
    split <;> rfl

theorem lookup_eq_some_iff {entries : List (κ × α)} (nodup : (entries.map Prod.fst).Nodup) {key : κ} {value : α} :
    entries.lookup key = some value ↔ (key, value) ∈ entries := by
  induction entries with
  | nil => simp
  | cons head rest ih =>
    obtain ⟨first, old⟩ := head
    rw [List.map_cons, List.nodup_cons] at nodup
    by_cases same : key = first
    · subst same
      have absent : (key, value) ∉ rest := fun member => nodup.1 (List.mem_map.mpr ⟨_, member, rfl⟩)
      simp [absent, eq_comm]
    · simp [lookup_cons_if, same, ih nodup.2]

theorem get?_eq_some_iff {d : Dict κ α} {key : κ} {value : α} :
    d.get? key = some value ↔ (key, value) ∈ d.entries :=
  lookup_eq_some_iff d.nodup

theorem get?_filter (d : Dict κ α) (keep : κ → α → Bool) (key : κ) :
    (d.filter keep).get? key = (d.get? key).filter (keep key) := by
  ext value
  rw [Option.filter_eq_some_iff, get?_eq_some_iff, get?_eq_some_iff]
  simp [filter]

theorem get?_erase (d : Dict κ α) (key other : κ) :
    (d.erase key).get? other = if other = key then none else d.get? other := by
  rw [erase, get?_filter]
  by_cases same : other = key
  · cases d.get? other <;> simp [same]
  · cases d.get? other <;> simp [same]

theorem get?_of_erase {d : Dict κ α} {key other : κ} {value : α} (found : (d.erase key).get? other = some value) :
    other ≠ key ∧ d.get? other = some value := by
  rw [get?_erase] at found
  split at found
  · exact absurd found (by simp)
  next different => exact ⟨different, found⟩

theorem mem_keys_iff {d : Dict κ α} {key : κ} : key ∈ d.keys ↔ (d.get? key).isSome := by
  simp [keys, Option.isSome_iff_exists, get?_eq_some_iff]

theorem mem_values_iff {d : Dict κ α} {value : α} : value ∈ d.values ↔ ∃ key, d.get? key = some value := by
  simp [values, get?_eq_some_iff]

theorem keys_set_of_mem {d : Dict κ α} {key : κ} (value : α) (present : key ∈ d.keys) :
    (d.set key value).keys = d.keys := by
  obtain ⟨entries, nodup⟩ := d
  simp only [keys, set] at present ⊢
  clear nodup
  induction entries with
  | nil => cases present
  | cons head rest ih =>
    obtain ⟨first, old⟩ := head
    by_cases same : first = key
    · simp [assign, same]
    · rw [List.map_cons, List.mem_cons] at present
      simp [assign, same, ih (present.resolve_left (Ne.symm same))]

theorem filter_entries_key {entries : List (κ × α)} (nodup : (entries.map Prod.fst).Nodup) (key : κ) :
    entries.filter (fun entry => entry.1 = key) = ((entries.lookup key).map (key, ·)).toList := by
  induction entries with
  | nil => rfl
  | cons head rest ih =>
    obtain ⟨first, old⟩ := head
    rw [List.map_cons, List.nodup_cons] at nodup
    by_cases same : first = key
    · subst same
      have absent : rest.filter (fun entry => entry.1 = first) = [] := by
        rw [List.filter_eq_nil_iff]
        intro entry member equal
        exact nodup.1 (List.mem_map.mpr ⟨entry, member, by simpa using equal⟩)
      simp [absent]
    · simp [lookup_cons_if, same, Ne.symm same, ih nodup.2]

/-- In a table whose values know their own key, a pass that ignores every
other key sees only the value stored at that key. -/
theorem flatMap_values_key (d : Dict κ α) {keyOf : α → κ}
    (keyed : ∀ key value, d.get? key = some value → keyOf value = key) {key : κ} {f : α → List β}
    (elsewhere : ∀ value, keyOf value ≠ key → f value = []) :
    d.values.flatMap f = (d.get? key).toList.flatMap f := by
  have dropped : ∀ entry ∈ d.entries, (decide (entry.1 = key)) = false → f entry.2 = [] := by
    intro entry member different
    have own := keyed entry.1 entry.2 (get?_eq_some_iff.mpr member)
    exact elsewhere entry.2 (by simpa [own] using different)
  rw [values, List.flatMap_map, ← flatMap_filter_of_nil dropped, filter_entries_key d.nodup]
  cases found : d.entries.lookup key <;> simp [get?, found]

theorem lookup_of_notMem {entries : List (κ × α)} {key : κ} (absent : key ∉ entries.map Prod.fst) :
    entries.lookup key = none := by
  refine List.lookup_eq_none_iff.mpr (fun entry member => bne_iff_ne.mpr ?_)
  rintro rfl
  exact absent (List.mem_map_of_mem member)

/-- The dictionary of the keys that have a value. -/
def ofOptions (entries : List (κ × Option α)) (nodup : (entries.map Prod.fst).Nodup) : Dict κ α where
  entries := entries.filterMap (fun entry => entry.2.map (entry.1, ·))
  nodup := by
    refine nodup.sublist ?_
    clear nodup
    induction entries with
    | nil => exact List.Sublist.slnil
    | cons head rest ih =>
      obtain ⟨key, _ | value⟩ := head
      · exact ih.cons key
      · exact ih.cons_cons key

theorem get?_ofOptions {entries : List (κ × Option α)} {nodup : (entries.map Prod.fst).Nodup} (key : κ) :
    (ofOptions entries nodup).get? key = (entries.lookup key).join := by
  simp only [get?, ofOptions]
  induction entries with
  | nil => rfl
  | cons head rest ih =>
    rw [List.map_cons, List.nodup_cons] at nodup
    obtain ⟨other, _ | value⟩ := head
    · rw [List.filterMap_cons_none rfl, @ih nodup.2, lookup_cons_if]
      by_cases same : key = other
      · subst same
        rw [lookup_of_notMem nodup.1, if_pos rfl]
        rfl
      · rw [if_neg same]
    · rw [List.filterMap_cons]
      simp only [Option.map_some]
      rw [lookup_cons_if, lookup_cons_if, @ih nodup.2]
      split <;> rfl

/-- The entries of the second dictionary on top of those of the first. -/
def update (first second : Dict κ α) : Dict κ α :=
  second.entries.foldl (fun d entry => d.set entry.1 entry.2) first

theorem get?_update (first second : Dict κ α) (key : κ) :
    (first.update second).get? key = (second.get? key).or (first.get? key) := by
  obtain ⟨entries, nodup⟩ := second
  simp only [update, get?]
  induction entries generalizing first with
  | nil => rfl
  | cons head rest ih =>
    obtain ⟨other, value⟩ := head
    rw [List.map_cons, List.nodup_cons] at nodup
    rw [List.foldl_cons, ih _ nodup.2, lookup_cons_if]
    have assigned := get?_set first other key value
    rw [get?, get?] at assigned
    rw [assigned]
    by_cases same : key = other
    · subst same
      rw [lookup_of_notMem nodup.1, if_pos rfl, if_pos rfl, Option.none_or, Option.some_or]
    · rw [if_neg same, if_neg same]

end Dict
