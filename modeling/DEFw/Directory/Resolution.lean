import DEFw.Directory.Steps
import DEFw.Lib.Screening

namespace DEFw.Directory
open Py Screening

/-- `item in container`. Nothing stands for a TypeError: the container is not one, the item of a string
is not a string or the key of a dictionary is not hashable. -/
def contains? (container item : Value) : Option Bool :=
  match container, item with
  | .list items, _ => some (items.any (Value.pyEq item))
  | .tuple items, _ => some (items.any (Value.pyEq item))
  | .dict _, .list _ | .dict _, .dict _ | .dict _, .bytearray _ | .dict _, .ndarray _ => none
  | .dict entries, .str s => some (entries.any (fun entry => entry.1 == .str s))
  | .dict _, _ => some false
  | .str text, .str s => some (decide (s.toList <:+: text.toList))
  | _, _ => none

/-- `if value and text != value: return False`. -/
def textCheck (key : String) (text : Value) : Check String Value where
  key := key
  test value := some (value.all (fun value => !value.truthy || text.pyEq value))
  absent := rfl

/-- `if not _bits_match(bits, filters.get(key, -1)): return False`. -/
def bitsCheck (key : String) (bits : Value) : Check String Value where
  key := key
  test value := some (bitsMatch bits (value.getD (.int (-1))))
  absent := by simp [bitsMatch, isUnset, Value.pyEq, Value.eqv]

/-- The loop over `filters.get('properties') or {}`; only a dictionary has items. -/
def propertiesCheck (properties : Entries) : Check String Value where
  key := "properties"
  test value :=
    match value.filter Value.truthy with
    | none => some true
    | some (.dict entries) => some (entries.all (fun entry => ((properties.lookup entry.1).getD .none).pyEq entry.2))
    | some _ => none
  absent := rfl

/-- `if value and value not in container: return False`. -/
def memberCheck (key : String) (container : Value) : Check String Value where
  key := key
  test value :=
    match value.filter Value.truthy with
    | none => some true
    | some value => contains? container value
  absent := rfl

variable {τ : Type}

/-- `__record_matches`, over any keyword arguments. -/
def recordChecks (record : ServiceRecord τ) : List (Check String Value) :=
  [textCheck "service_id" (.str record.serviceId),
   textCheck "service_name" (.str record.serviceName),
   textCheck "service_type" (.str record.serviceType),
   bitsCheck "qpm_type" (recordValue (some record.qpmType) record.properties "qpm_type"),
   bitsCheck "qpm_capabilities" (recordValue (some record.qpmCapabilities) record.properties "qpm_capabilities"),
   propertiesCheck record.properties,
   textCheck "selector_name" ((record.selector.get? "name").getD .none),
   memberCheck "selector_alias" ((record.selector.get? "aliases").getD (.list [])),
   memberCheck "selector_resource" ((record.selector.get? "resources").getD (.list []))]

/-- `__binding_matches`, over any keyword arguments. -/
def bindingChecks (binding : Entries) : List (Check String Value) :=
  [textCheck "binding_name" ((binding.get? "binding_name").getD .none),
   textCheck "client_class" ((binding.get? "client_class").getD .none),
   textCheck "service_class" ((binding.get? "service_class").getD .none)]

/-- A match with the position of its binding in the record. -/
structure Selection (τ : Type) where
  record : ServiceRecord τ
  binding : Entries
  position : Nat

def Selection.place (selection : Selection τ) : String × Nat :=
  (selection.record.serviceId, selection.position)

def Selection.serviceMatch (selection : Selection τ) : ServiceMatch τ :=
  ⟨selection.record, selection.binding, selection.record.generation⟩

/-- The bindings of a record that the inner loop of `resolve_services` appends. -/
def visitBindings (filters : String → Option Value) (record : ServiceRecord τ) : Option (List (Selection τ)) :=
  gather (fun slot => guarded (passes filters (bindingChecks slot.1)) (some [⟨record, slot.1, slot.2⟩]))
    record.apiBindings.zipIdx

def visitRecord (filters : String → Option Value) (record : ServiceRecord τ) : Option (List (Selection τ)) :=
  if record.state ≠ .up then some []
  else guarded (passes filters (recordChecks record)) (visitBindings filters record)

/-- The double loop of `resolve_services` over any keyword arguments. -/
def selections (d : Directory τ) (filters : String → Option Value) : Option (List (Selection τ)) :=
  gather (visitRecord filters) d.records.values

/-- The bindings of a record with their positions. -/
def slots (record : ServiceRecord τ) : List (Selection τ) :=
  record.apiBindings.zipIdx.map (fun slot => ⟨record, slot.1, slot.2⟩)

/-- The bindings of all active records, in table order. -/
def candidates (d : Directory τ) : List (Selection τ) :=
  d.records.values.flatMap (fun record => if record.state ≠ .up then [] else slots record)

def Selection.Fits (filters : String → Option Value) (selection : Selection τ) : Bool :=
  passes filters (recordChecks selection.record) = some true &&
    passes filters (bindingChecks selection.binding) = some true

theorem visitBindings_filter {filters : String → Option Value} {record : ServiceRecord τ}
    {found : List (Selection τ)} (visited : visitBindings filters record = some found) :
    found = (slots record).filter (fun selection => passes filters (bindingChecks selection.binding) = some true) := by
  rw [gather_filter (fun slot _ selected here => ?_) visited, slots, List.map_eq_flatMap]
  rcases decided : passes filters (bindingChecks slot.1) with _ | _ | _ <;> rw [decided] at here <;> cases here
  · simp [decided]
  · simp [decided]

theorem visitRecord_filter {filters : String → Option Value} {record : ServiceRecord τ}
    {found : List (Selection τ)} (visited : visitRecord filters record = some found) :
    found = (if record.state ≠ .up then [] else slots record).filter (Selection.Fits filters) := by
  have own {selection : Selection τ} (member : selection ∈ slots record) : selection.record = record := by
    obtain ⟨slot, -, rfl⟩ := List.mem_map.mp member
    rfl
  unfold visitRecord at visited
  by_cases active : record.state ≠ .up
  · rw [if_pos active] at visited ⊢
    cases visited
    rfl
  · rw [if_neg active] at visited ⊢
    rcases decided : passes filters (recordChecks record) with _ | _ | _ <;> rw [decided] at visited
    · cases visited
    · cases visited
      refine (List.filter_eq_nil_iff.mpr (fun selection member => ?_)).symm
      simp [Selection.Fits, own member, decided]
    · rw [visitBindings_filter visited]
      refine List.filter_congr (fun selection member => ?_)
      simp [Selection.Fits, own member, decided]

/-- A resolution that returns selects the fitting candidates. -/
theorem selections_eq {d : Directory τ} {filters : String → Option Value} {found : List (Selection τ)}
    (returned : d.selections filters = some found) : found = d.candidates.filter (Selection.Fits filters) :=
  gather_filter (fun _ _ _ visited => visitRecord_filter visited) returned

/-- A resolution returns if no condition that it comes to raises. -/
theorem selections_isSome_iff {d : Directory τ} {filters : String → Option Value} :
    (d.selections filters).isSome ↔
      ∀ record ∈ d.records.values, record.state = .up →
        ∃ decision, passes filters (recordChecks record) = some decision ∧
          (decision = true → ∀ binding ∈ record.apiBindings, (passes filters (bindingChecks binding)).isSome) := by
  rw [selections, gather_isSome_iff]
  refine forall₂_congr (fun record _ => ?_)
  by_cases active : record.state = .up
  · rw [visitRecord, if_neg (not_not.mpr active)]
    rcases passes filters (recordChecks record) with _ | _ | _
    · simp [guarded, active]
    · simp [guarded, active]
    · simp only [guarded, visitBindings, gather_isSome_iff, active, forall_const, Option.some.injEq, exists_eq_left']
      constructor
      · intro each binding member
        obtain ⟨position, _, rfl⟩ := List.mem_iff_getElem.mp member
        have visited := each (record.apiBindings[position], position) (by simp [List.mem_zipIdx_iff_getElem?])
        revert visited
        rcases passes filters (bindingChecks record.apiBindings[position]) with _ | _ | _ <;> simp
      · intro each slot member
        have decided := each slot.1 (List.fst_mem_of_mem_zipIdx member)
        revert decided
        rcases passes filters (bindingChecks slot.1) with _ | _ | _ <;> simp
  · simp [visitRecord, active]

theorem mem_candidates {d : Directory τ} {selection : Selection τ} (member : selection ∈ d.candidates) :
    d.records.get? selection.record.serviceId = some selection.record ∧ selection.record.state = .up ∧
      selection.record.apiBindings[selection.position]? = some selection.binding := by
  obtain ⟨record, stored, inside⟩ := List.mem_flatMap.mp member
  by_cases active : record.state ≠ .up
  · rw [if_pos active] at inside
    cases inside
  · rw [if_neg active] at inside
    obtain ⟨slot, bound, rfl⟩ := List.mem_map.mp inside
    obtain ⟨key, atKey⟩ := Dict.mem_values_iff.mp stored
    refine ⟨?_, not_not.mp active, List.mem_zipIdx_iff_getElem?.mp bound⟩
    rw [d.keyed key record atKey]
    exact atKey

/-- A service id and a binding position name one candidate. -/
theorem place_injective {d : Directory τ} {first second : Selection τ} (left : first ∈ d.candidates)
    (right : second ∈ d.candidates) (same : first.place = second.place) : first = second := by
  obtain ⟨stored, -, bound⟩ := mem_candidates left
  obtain ⟨otherStored, -, otherBound⟩ := mem_candidates right
  obtain ⟨ids, positions⟩ := Prod.mk.injEq .. ▸ same
  have record : first.record = second.record := by
    rw [ids, otherStored] at stored
    exact (Option.some.inj stored).symm
  have binding : first.binding = second.binding := by
    rw [record, positions, otherBound] at bound
    exact (Option.some.inj bound).symm
  cases first
  cases second
  cases record
  cases binding
  cases positions
  rfl

/-- The filters of two resolutions that return, together: the resolution returns the fitting ones of both. -/
theorem selections_union {d : Directory τ} {first second union : String → Option Value}
    (apart : ∀ key, first key = none ∨ second key = none) (joined : ∀ key, union key = (second key).or (first key))
    {a b : List (Selection τ)} (left : d.selections first = some a) (right : d.selections second = some b) :
    d.selections union = some (a.filter (Selection.Fits second)) := by
  have leftDecided := selections_isSome_iff.mp (Option.isSome_of_eq_some left)
  have rightDecided := selections_isSome_iff.mp (Option.isSome_of_eq_some right)
  have returns : (d.selections union).isSome := by
    refine selections_isSome_iff.mpr (fun record stored active => ?_)
    obtain ⟨p, leftPasses, leftBindings⟩ := leftDecided record stored active
    obtain ⟨q, rightPasses, rightBindings⟩ := rightDecided record stored active
    refine ⟨p && q, passes_union apart joined leftPasses rightPasses, fun both binding member => ?_⟩
    obtain ⟨rfl, rfl⟩ := (Bool.and_eq_true p q).mp both
    obtain ⟨_, leftBinding⟩ := Option.isSome_iff_exists.mp (leftBindings rfl binding member)
    obtain ⟨_, rightBinding⟩ := Option.isSome_iff_exists.mp (rightBindings rfl binding member)
    exact Option.isSome_of_eq_some (passes_union apart joined leftBinding rightBinding)
  obtain ⟨both, returned⟩ := Option.isSome_iff_exists.mp returns
  rw [returned, selections_eq returned, selections_eq left, List.filter_filter]
  refine congrArg some (List.filter_congr (fun selection member => ?_))
  obtain ⟨stored, active, bound⟩ := mem_candidates member
  have inTable := Dict.mem_values_iff.mpr ⟨_, stored⟩
  obtain ⟨p, leftPasses, leftBindings⟩ := leftDecided _ inTable active
  obtain ⟨q, rightPasses, rightBindings⟩ := rightDecided _ inTable active
  simp only [Selection.Fits, passes_union apart joined leftPasses rightPasses, leftPasses, rightPasses]
  cases p with
  | false => simp
  | true =>
    cases q with
    | false => simp
    | true =>
      have listed := List.mem_of_getElem? bound
      obtain ⟨x, leftBinding⟩ := Option.isSome_iff_exists.mp (leftBindings rfl _ listed)
      obtain ⟨y, rightBinding⟩ := Option.isSome_iff_exists.mp (rightBindings rfl _ listed)
      rw [passes_union apart joined leftBinding rightBinding, leftBinding, rightBinding]
      cases x <;> cases y <;> rfl

/-- Filters whose every condition is tighter select fewer. -/
theorem selections_tighter {d : Directory τ} {first second : String → Option Value}
    (each : ∀ check : Check String Value, (∃ record ∈ d.records.values, check ∈ recordChecks record ∨
      ∃ binding ∈ record.apiBindings, check ∈ bindingChecks binding) →
        Tighter (check.test (second check.key)) (check.test (first check.key)))
    {a : List (Selection τ)} (returned : d.selections first = some a) :
    ∃ fewer, d.selections second = some fewer ∧ fewer.Sublist a := by
  have decided := selections_isSome_iff.mp (Option.isSome_of_eq_some returned)
  have records (record) (stored : record ∈ d.records.values) :
      Tighter (passes second (recordChecks record)) (passes first (recordChecks record)) :=
    passes_tighter (fun check member => each check ⟨record, stored, .inl member⟩)
  have bindings (record) (stored : record ∈ d.records.values) (binding) (listed : binding ∈ record.apiBindings) :
      Tighter (passes second (bindingChecks binding)) (passes first (bindingChecks binding)) :=
    passes_tighter (fun check member => each check ⟨record, stored, .inr ⟨binding, listed, member⟩⟩)
  have returns : (d.selections second).isSome := by
    refine selections_isSome_iff.mpr (fun record stored active => ?_)
    obtain ⟨p, passed, bound⟩ := decided record stored active
    obtain ⟨q, stricter, implied⟩ := records record stored p passed
    refine ⟨q, stricter, fun isTrue binding listed => ?_⟩
    obtain ⟨x, made⟩ := Option.isSome_iff_exists.mp (bound (implied isTrue) binding listed)
    obtain ⟨y, also, -⟩ := bindings record stored binding listed x made
    exact Option.isSome_of_eq_some also
  obtain ⟨fewer, selected⟩ := Option.isSome_iff_exists.mp returns
  refine ⟨fewer, selected, ?_⟩
  rw [selections_eq selected, selections_eq returned]
  have contained : d.candidates.filter (Selection.Fits second) =
      (d.candidates.filter (Selection.Fits first)).filter (Selection.Fits second) := by
    rw [List.filter_filter]
    refine List.filter_congr (fun selection member => ?_)
    obtain ⟨stored, active, bound⟩ := mem_candidates member
    have inTable := Dict.mem_values_iff.mpr ⟨_, stored⟩
    cases fits : Selection.Fits second selection with
    | false => rw [Bool.false_and]
    | true =>
      simp only [Selection.Fits, Bool.and_eq_true, decide_eq_true_eq] at fits ⊢
      obtain ⟨p, passed, decisions⟩ := decided _ inTable active
      obtain ⟨q, stricter, implied⟩ := records _ inTable p passed
      have isTrue : p = true := implied (Option.some.inj (stricter.symm.trans fits.1))
      have listed := List.mem_of_getElem? bound
      obtain ⟨x, made⟩ := Option.isSome_iff_exists.mp (decisions isTrue _ listed)
      obtain ⟨y, also, bindingImplied⟩ := bindings _ inTable _ listed x made
      have bindingTrue : x = true := bindingImplied (Option.some.inj (also.symm.trans fits.2))
      simp [passed, isTrue, made, bindingTrue]
  rw [contained]
  exact List.filter_sublist

/-- A record that has the bits of a larger mask has those of a part of it. -/
theorem land_of_land_lor {mask extra : Nat} {bits : Int}
    (all : Int.land ((mask ||| extra : Nat) : Int) bits = ((mask ||| extra : Nat) : Int)) :
    Int.land (mask : Int) bits = (mask : Int) := by
  cases bits with
  | ofNat bits =>
    have whole : (mask ||| extra) &&& bits = mask ||| extra := Int.ofNat.inj all
    refine congrArg Int.ofNat (Nat.eq_of_testBit_eq (fun i => ?_))
    have atBit := congrArg (fun n => n.testBit i) whole
    simp only [Nat.testBit_and, Nat.testBit_or] at atBit ⊢
    revert atBit
    cases mask.testBit i <;> simp
  | negSucc bits =>
    have whole : Nat.ldiff (mask ||| extra) bits = mask ||| extra := Int.ofNat.inj all
    refine congrArg Int.ofNat (Nat.eq_of_testBit_eq (fun i => ?_))
    have atBit := congrArg (fun n => n.testBit i) whole
    simp only [Nat.testBit_ldiff, Nat.testBit_or] at atBit ⊢
    revert atBit
    cases mask.testBit i <;> simp

theorem isUnset_mask (mask : Nat) : isUnset (.int (mask : Int)) = false := by
  have other : (mask : Int) ≠ -1 := by omega
  simp [isUnset, Value.pyEq, Value.eqv, other]

theorem bitsMatch_of_lor {bits : Value} {mask extra : Nat}
    (matched : bitsMatch bits (.int ((mask ||| extra : Nat) : Int)) = true) : bitsMatch bits (.int (mask : Int)) = true := by
  unfold bitsMatch at matched ⊢
  rw [isUnset_mask, if_neg (by simp)] at matched ⊢
  cases unset : isUnset bits with
  | true =>
    rw [unset] at matched
    exact matched
  | false =>
    rw [unset, if_neg (by simp)] at matched
    rw [if_neg (by simp)]
    cases numeral : bits.toInt? with
    | none =>
      rw [numeral] at matched
      cases matched
    | some bits =>
      rw [numeral] at matched
      simp only [Value.toInt?] at matched ⊢
      by_cases zero : (mask : Int) = 0
      · rw [if_pos zero]
      · have larger : ((mask ||| extra : Nat) : Int) ≠ 0 := by
          have bound : mask ≤ mask ||| extra := Nat.left_le_or
          omega
        rw [if_neg larger] at matched
        rw [if_neg zero]
        by_cases noBits : bits = 0
        · rw [if_pos noBits] at matched
          cases matched
        · rw [if_neg noBits] at matched ⊢
          exact decide_eq_true (land_of_land_lor (of_decide_eq_true matched))

/-- The keys whose filter is a bit mask. -/
def maskKeys : List String := ["qpm_type", "qpm_capabilities"]

/-- A check of a mask key is that of bits. -/
theorem tighter_mask {d : Directory τ} {check : Check String Value}
    (used : ∃ record ∈ d.records.values, check ∈ recordChecks record ∨
      ∃ binding ∈ record.apiBindings, check ∈ bindingChecks binding)
    (masked : check.key ∈ maskKeys) (mask extra : Nat) :
    Tighter (check.test (some (.int ((mask ||| extra : Nat) : Int)))) (check.test (some (.int (mask : Int)))) := by
  have bits : ∃ key bits, check = bitsCheck key bits := by
    rcases used with ⟨record, -, member | ⟨binding, -, member⟩⟩
    · simp only [recordChecks, List.mem_cons, List.not_mem_nil, or_false] at member
      rcases member with rfl | rfl | rfl | rfl | rfl | rfl | rfl | rfl | rfl
      case inr.inr.inr.inl => exact ⟨_, _, rfl⟩
      case inr.inr.inr.inr.inl => exact ⟨_, _, rfl⟩
      all_goals exact absurd masked (by simp [maskKeys, textCheck, propertiesCheck, memberCheck])
    · simp only [bindingChecks, List.mem_cons, List.not_mem_nil, or_false] at member
      rcases member with rfl | rfl | rfl
      all_goals exact absurd masked (by simp [maskKeys, textCheck])
  obtain ⟨key, bits, rfl⟩ := bits
  intro decision made
  cases made
  exact ⟨_, rfl, bitsMatch_of_lor⟩

/-- The places of all bindings in the table, in table order. -/
def places (d : Directory τ) : List (String × Nat) :=
  d.records.values.flatMap (fun record => (List.range record.apiBindings.length).map (record.serviceId, ·))

theorem candidates_places (d : Directory τ) : (d.candidates.map Selection.place).Sublist d.places := by
  rw [candidates, List.map_flatMap, places]
  refine List.Sublist.flatMap_right _ (fun record _ => ?_)
  split
  · exact List.nil_sublist _
  · rw [slots, List.map_map]
    have same : record.apiBindings.zipIdx.map (Selection.place ∘ fun slot => ⟨record, slot.1, slot.2⟩) =
        (record.apiBindings.zipIdx.map Prod.snd).map (record.serviceId, ·) := by
      rw [List.map_map]
      rfl
    rw [same, List.zipIdx_map_snd, List.range_eq_range']

/-- Conditions together: the places found are those that both find. -/
theorem places_filter {d : Directory τ} {second : String → Option Value} {a b : List (Selection τ)}
    (left : ∀ selection ∈ a, selection ∈ d.candidates) (right : d.selections second = some b) :
    (a.filter (Selection.Fits second)).map Selection.place =
      (a.map Selection.place).filter (· ∈ b.map Selection.place) := by
  rw [List.filter_map]
  refine congrArg (List.map Selection.place) (List.filter_congr (fun selection member => ?_))
  rw [Bool.eq_iff_iff, Function.comp, decide_eq_true_eq, selections_eq right]
  constructor
  · exact fun fits => List.mem_map_of_mem (List.mem_filter.mpr ⟨left selection member, fits⟩)
  · intro found
    obtain ⟨other, selected, same⟩ := List.mem_map.mp found
    obtain ⟨listed, fits⟩ := List.mem_filter.mp selected
    exact place_injective listed (left selection member) same ▸ fits

section Clock

variable [LinearOrder τ] [Zero τ]

/-- `resolve_services` over any keyword arguments; the result is nothing if it raises. -/
def resolve (d : Directory τ) (filters : Dict String Value) (clock : τ) :
    Directory τ × Option (List (Selection τ)) × List (Effect τ) :=
  let purged := d.purgeExpired none clock
  (purged.1, purged.1.selections filters.get?, purged.2)

end Clock

/-- A directory with two services of one type, with different masks. -/
def masked : Directory Nat :=
  machine.final (new 300 "dir")
    [.registerService { RecordArg.minimal "svc1" "r1" "p1" with qpmType := some (.int 1) } none 5,
     .registerService { RecordArg.minimal "svc2" "r2" "p2" with qpmType := some (.int 3) } none 6]

/-- The keys that `resolve_services` reads. -/
def ResolveFilters.fields (filters : ResolveFilters) : List (String × Option Value) :=
  [("service_id", filters.serviceId.map .str), ("service_name", filters.serviceName.map .str),
   ("service_type", filters.serviceType.map .str), ("qpm_type", filters.qpmType),
   ("qpm_capabilities", filters.qpmCapabilities), ("properties", filters.properties.map .dict),
   ("selector_name", filters.selectorName.map .str), ("selector_alias", filters.selectorAlias.map .str),
   ("selector_resource", filters.selectorResource.map .str), ("binding_name", filters.bindingName.map .str),
   ("client_class", filters.clientClass.map .str), ("service_class", filters.serviceClass.map .str)]

theorem ResolveFilters.fields_nodup (filters : ResolveFilters) : (filters.fields.map Prod.fst).Nodup := by
  simp [fields]

/-- The keyword arguments of a `ResolveFilters`. -/
def ResolveFilters.keywords (filters : ResolveFilters) : Dict String Value :=
  Dict.ofOptions filters.fields filters.fields_nodup

theorem ResolveFilters.get_keywords {filters : ResolveFilters} {key : String} {value : Option Value}
    (field : (key, value) ∈ filters.fields) : filters.keywords.get? key = value := by
  rw [keywords, Dict.get?_ofOptions, (Dict.lookup_eq_some_iff filters.fields_nodup).mpr field]
  rfl

theorem textCheck_str (key : String) (text : Value) (value : Option String) :
    (textCheck key text).test (value.map .str) = some (textMatches text value) := by
  cases value with
  | none => rfl
  | some value =>
    by_cases empty : value = "" <;> simp [textCheck, textMatches, orStr, Value.truthy, Option.filter_some, empty]

theorem contains_of_contains? {container item : Value} {found : Bool} (asked : contains? container item = some found) :
    container.contains item = found := by
  cases container <;> cases item <;> cases asked <;> rfl

theorem memberCheck_str {key : String} {container : Value} {value : Option String} {found : Bool}
    (tested : (memberCheck key container).test (value.map .str) = some found) :
    (orStr value none).all (fun name => container.contains (.str name)) = found := by
  cases value with
  | none => exact Option.some.inj tested
  | some value =>
    by_cases empty : value = ""
    · simpa [memberCheck, orStr, Value.truthy, Option.filter_some, empty] using tested
    · simp only [memberCheck, Option.map_some, Option.filter_some, Value.truthy, ne_eq, empty, not_false_eq_true,
        decide_true, if_true] at tested
      simpa [orStr, Option.filter_some, empty] using contains_of_contains? tested

theorem propertiesCheck_dict (properties : Entries) (value : Option Entries) :
    (propertiesCheck properties).test (value.map .dict) =
      some ((value.getD []).all (fun entry => ((properties.lookup entry.1).getD .none).pyEq entry.2)) := by
  rcases value with _ | _ | ⟨entry, rest⟩ <;> rfl

theorem textCheck_verdict {filters : ResolveFilters} {key : String} (field : Value) {value : Option String}
    (stored : (key, value.map .str) ∈ filters.fields) (b : Bool)
    (tested : (textCheck key field).test (filters.keywords.get? key) = some b) : textMatches field value = b := by
  rw [ResolveFilters.get_keywords stored, textCheck_str] at tested
  exact Option.some.inj tested

/-- What each condition on a record decides, when it decides. -/
theorem recordChecks_verdicts (filters : ResolveFilters) (record : ServiceRecord τ) :
    List.Forall₂ (fun check verdict => ∀ b, check.test (filters.keywords.get? check.key) = some b → verdict = b)
      (recordChecks record)
      [textMatches (.str record.serviceId) filters.serviceId, textMatches (.str record.serviceName) filters.serviceName,
       textMatches (.str record.serviceType) filters.serviceType,
       bitsMatch (recordValue (some record.qpmType) record.properties "qpm_type") (filters.qpmType.getD (.int (-1))),
       bitsMatch (recordValue (some record.qpmCapabilities) record.properties "qpm_capabilities")
         (filters.qpmCapabilities.getD (.int (-1))),
       (filters.properties.getD []).all (fun entry => ((record.properties.lookup entry.1).getD .none).pyEq entry.2),
       textMatches ((record.selector.get? "name").getD .none) filters.selectorName,
       (orStr filters.selectorAlias none).all
         (fun name => ((record.selector.get? "aliases").getD (.list [])).contains (.str name)),
       (orStr filters.selectorResource none).all
         (fun name => ((record.selector.get? "resources").getD (.list [])).contains (.str name))] := by
  have bits {key : String} (bits : Value) {value : Option Value} (stored : (key, value) ∈ filters.fields) (b : Bool)
      (tested : (bitsCheck key bits).test (filters.keywords.get? key) = some b) :
      bitsMatch bits (value.getD (.int (-1))) = b := by
    rw [ResolveFilters.get_keywords stored] at tested
    exact Option.some.inj tested
  have member {key : String} (container : Value) {value : Option String}
      (stored : (key, value.map .str) ∈ filters.fields) (b : Bool)
      (tested : (memberCheck key container).test (filters.keywords.get? key) = some b) :
      (orStr value none).all (fun name => container.contains (.str name)) = b := by
    rw [ResolveFilters.get_keywords stored] at tested
    exact memberCheck_str tested
  have properties (b : Bool)
      (tested : (propertiesCheck record.properties).test (filters.keywords.get? "properties") = some b) :
      (filters.properties.getD []).all (fun entry => ((record.properties.lookup entry.1).getD .none).pyEq entry.2) = b := by
    have stored : ("properties", filters.properties.map .dict) ∈ filters.fields := by simp [ResolveFilters.fields]
    rw [ResolveFilters.get_keywords stored, propertiesCheck_dict] at tested
    exact Option.some.inj tested
  refine .cons (textCheck_verdict _ ?_) (.cons (textCheck_verdict _ ?_) (.cons (textCheck_verdict _ ?_)
    (.cons (bits _ ?_) (.cons (bits _ ?_) (.cons properties (.cons (textCheck_verdict _ ?_) (.cons (member _ ?_)
      (.cons (member _ ?_) .nil))))))))
  all_goals simp [ResolveFilters.fields]

theorem bindingChecks_verdicts (filters : ResolveFilters) (binding : Entries) :
    List.Forall₂ (fun check verdict => ∀ b, check.test (filters.keywords.get? check.key) = some b → verdict = b)
      (bindingChecks binding)
      [textMatches ((binding.get? "binding_name").getD .none) filters.bindingName,
       textMatches ((binding.get? "client_class").getD .none) filters.clientClass,
       textMatches ((binding.get? "service_class").getD .none) filters.serviceClass] := by
  refine .cons (textCheck_verdict _ ?_) (.cons (textCheck_verdict _ ?_) (.cons (textCheck_verdict _ ?_) .nil))
  all_goals simp [ResolveFilters.fields]

theorem recordMatches_of_passes {filters : ResolveFilters} {record : ServiceRecord τ} {decision : Bool}
    (decided : passes filters.keywords.get? (recordChecks record) = some decision) :
    recordMatches record filters = decision := by
  rw [← passes_eq_all (recordChecks_verdicts filters record) decided]
  simp only [recordMatches, List.all_cons, List.all_nil, id, Bool.and_true, Bool.and_assoc]
  cases orStr filters.selectorAlias none <;> cases orStr filters.selectorResource none <;> rfl

theorem bindingMatches_of_passes {filters : ResolveFilters} {binding : Entries} {decision : Bool}
    (decided : passes filters.keywords.get? (bindingChecks binding) = some decision) :
    bindingMatches binding filters = decision := by
  rw [← passes_eq_all (bindingChecks_verdicts filters binding) decided]
  simp only [bindingMatches, List.all_cons, List.all_nil, id, Bool.and_true, Bool.and_assoc]

/-- The fitting slots of a record are its matching bindings, if the record matches. -/
theorem slots_fits {filters : ResolveFilters} {record : ServiceRecord τ} {decision : Bool}
    (decided : passes filters.keywords.get? (recordChecks record) = some decision)
    (bindings : decision = true →
      ∀ binding ∈ record.apiBindings, (passes filters.keywords.get? (bindingChecks binding)).isSome) :
    ((slots record).filter (Selection.Fits filters.keywords.get?)).map Selection.serviceMatch =
      if recordMatches record filters then
        (record.apiBindings.filter (fun binding => bindingMatches binding filters)).map
          (fun binding => ⟨record, binding, record.generation⟩)
      else [] := by
  rw [recordMatches_of_passes decided, slots, List.filter_map]
  cases decision with
  | false => simp [Selection.Fits, Function.comp_def, decided]
  | true =>
    have fits : ∀ slot ∈ record.apiBindings.zipIdx,
        (Selection.Fits filters.keywords.get? ∘ fun slot => ⟨record, slot.1, slot.2⟩) slot =
          ((fun binding => bindingMatches binding filters) ∘ Prod.fst) slot := by
      intro slot member
      obtain ⟨x, passed⟩ := Option.isSome_iff_exists.mp (bindings rfl slot.1 (List.fst_mem_of_mem_zipIdx member))
      simp only [Function.comp, Selection.Fits, decided, passed, bindingMatches_of_passes passed]
      cases x <;> rfl
    have listed : record.apiBindings = record.apiBindings.zipIdx.map Prod.fst := (List.zipIdx_map_fst 0 _).symm
    rw [List.filter_congr fits, if_pos rfl]
    nth_rewrite 2 [listed]
    rw [List.filter_map, List.map_map, List.map_map]
    rfl

/-- For the typed filters the resolution over keyword arguments, where it returns, is `resolveServices`. -/
theorem resolve_keywords [LinearOrder τ] [Zero τ] {d : Directory τ} {filters : ResolveFilters} {clock : τ}
    {found : List (Selection τ)} (returned : (d.resolve filters.keywords clock).2.1 = some found) :
    found.map Selection.serviceMatch = (d.resolveServices filters clock).2.1 := by
  have decided := selections_isSome_iff.mp (Option.isSome_of_eq_some returned)
  rw [selections_eq returned, candidates, List.filter_flatMap, List.map_flatMap]
  symm
  refine (List.flatMap_congr (fun record selected => ?_)).trans (Dict.flatMap_filter_of_nil (fun record stored dropped => ?_))
  · obtain ⟨stored, kept⟩ := List.mem_filter.mp selected
    obtain ⟨active, fits⟩ := Bool.and_eq_true_iff.mp kept
    obtain ⟨decision, passed, bindings⟩ := decided record stored (of_decide_eq_true active)
    rw [if_neg (not_not.mpr (of_decide_eq_true active)), slots_fits passed bindings, if_pos fits]
  · by_cases active : record.state = .up
    · obtain ⟨decision, passed, bindings⟩ := decided record stored active
      rw [decide_eq_true active, Bool.true_and] at dropped
      rw [if_neg (not_not.mpr active), slots_fits passed bindings, dropped]
      rfl
    · rw [if_pos active]
      rfl

end DEFw.Directory
