import DEFw.Attachments.Model
import DEFw.Lib.ExceptList

namespace DEFw.Attachments
open Py

variable {numpy : Option Numpy} {attachments : List (List UInt8)}

theorem reinjectList_eq (items : List Value) :
    reinjectList numpy attachments items = items.mapM (reinject numpy attachments) := by
  induction items with
  | nil => rfl
  | cons item rest ih => rw [reinjectList, ih, List.mapM_cons]

/-- One entry of a dictionary with its value restored. -/
def reinjectEntry (numpy : Option Numpy) (attachments : List (List UInt8)) (entry : Key × Value) :
    Except AttachError (Key × Value) :=
  (reinject numpy attachments entry.2).map (fun value => (entry.1, value))

theorem reinjectEntries_eq (entries : Entries) :
    reinjectEntries numpy attachments entries = entries.mapM (reinjectEntry numpy attachments) := by
  induction entries with
  | nil => rfl
  | cons entry rest ih =>
    rw [reinjectEntries, ih, List.mapM_cons, reinjectEntry]
    cases reinject numpy attachments entry.2 <;> rfl

theorem reinjectEntry_ok_iff {entry result : Key × Value} :
    reinjectEntry numpy attachments entry = .ok result ↔
      result.1 = entry.1 ∧ reinject numpy attachments entry.2 = .ok result.2 := by
  obtain ⟨key, value⟩ := result
  unfold reinjectEntry
  cases reinject numpy attachments entry.2 with
  | error exception => simp [Except.map]
  | ok new => simp [Except.map, eq_comm]

theorem asInt?_eqv {a b : Value} (same : a.eqv b = true) : asInt? a = asInt? b := by
  cases a <;> cases b <;> simp_all [Value.eqv, asInt?]

theorem pyEq_str_eqv {a b : Value} (same : a.eqv b = true) (s : String) : a.pyEq (.str s) = b.pyEq (.str s) := by
  cases a <;> cases b <;> simp_all [Value.eqv, Value.pyEq]

theorem mapM_asInt?_eqv {xs ys : List Value} (pairs : List.Forall₂ (fun x y => Value.eqv x y = true) xs ys) :
    xs.mapM asInt? = ys.mapM asInt? := by
  induction pairs with
  | nil => rfl
  | cons same _ ih => rw [List.mapM_cons, List.mapM_cons, asInt?_eqv same, ih]

theorem dims?_eqv {a b : Value} (same : a.eqv b = true) : dims? a = dims? b := by
  cases a with
  | list items =>
    obtain ⟨others, rfl, pairs⟩ := Value.eqv_list_left same
    exact mapM_asInt?_eqv pairs
  | tuple items =>
    obtain ⟨others, rfl, pairs⟩ := Value.eqv_tuple_left same
    exact mapM_asInt?_eqv pairs
  | dict entries =>
    obtain ⟨others, rfl⟩ := Value.eqv_dict_left same
    rfl
  | none | bool | int | str | other | bytes | bytearray | ndarray => cases b <;> simp_all [Value.eqv, dims?, asInt?]

/-- Restoring a buffer reads the marker only through lookups. -/
theorem restore_eqv {d e : Entries} {index other : Value} (same : (Value.dict d).eqv (.dict e) = true)
    (alike : index.eqv other = true) : restore numpy attachments d index = restore numpy attachments e other := by
  have position : attachmentAt attachments index = attachmentAt attachments other := by
    simp only [attachmentAt, asInt?_eqv alike]
  have kind : ((d.get? "kind").getD .none).pyEq (.str "ndarray") = ((e.get? "kind").getD .none).pyEq (.str "ndarray") := by
    rcases Value.eqv_lookup same (.str "kind") with ⟨a, b, atD, atE, equal⟩ | ⟨atD, atE⟩
    · simp only [Entries.get?, atD, atE, Option.getD_some, pyEq_str_eqv equal]
    · simp only [Entries.get?, atD, atE]
  unfold restore
  rw [position, kind]
  cases numpy with
  | none => rfl
  | some numpy =>
    simp only [Entries.get?]
    rcases Value.eqv_lookup same (.str "dtype") with ⟨a, b, atD, atE, equal⟩ | ⟨atD, atE⟩
    · have dtype : ∀ buf, numpy.frombuffer buf a = numpy.frombuffer buf b := by
        intro buf
        simp only [Numpy.frombuffer, numpy.dtype_eqv a b equal]
      rcases Value.eqv_lookup same (.str "shape") with ⟨s, t, shapeD, shapeE, shapes⟩ | ⟨shapeD, shapeE⟩
      · have shape : ∀ array, reshape array s = reshape array t := by
          intro array
          simp only [reshape, dims?_eqv shapes]
        simp only [atD, atE, shapeD, shapeE, dtype, shape]
      · simp only [atD, atE, shapeD, shapeE, dtype]
    · simp only [atD, atE]

theorem restore_eqv_self {d : Entries} {index result : Value} (ok : restore numpy attachments d index = .ok result) :
    result.eqv result = true := by
  unfold restore at ok
  cases found : attachmentAt attachments index with
  | error exception =>
    rw [found] at ok
    cases ok
  | ok buf =>
    simp only [found, bind, Except.bind, pure, Except.pure] at ok
    split at ok
    · split at ok
      · cases ok
      · split at ok
        · cases ok
        · split at ok
          · cases ok
          · split at ok
            · cases ok
            · split at ok
              · cases ok
              · cases ok
                simp [Value.eqv]
    · cases ok
      simp [Value.eqv]

theorem keys_of_reinjected {entries results : Entries}
    (ok : entries.mapM (reinjectEntry numpy attachments) = .ok results) :
    results.map Prod.fst = entries.map Prod.fst := by
  have pairs := ExceptList.mapM_ok_iff.mp ok
  clear ok
  induction pairs with
  | nil => rfl
  | cons pair _ ih => simp [(reinjectEntry_ok_iff.mp pair).1, ih]

theorem lookup_of_reinjected {entries results : Entries}
    (ok : entries.mapM (reinjectEntry numpy attachments) = .ok results) {key : Key} {value : Value}
    (found : entries.lookup key = some value) :
    ∃ result, results.lookup key = some result ∧ reinject numpy attachments value = .ok result := by
  have pairs := ExceptList.mapM_ok_iff.mp ok
  clear ok
  induction pairs with
  | nil => cases found
  | @cons entry result _ _ pair _ ih =>
    obtain ⟨name, old⟩ := entry
    obtain ⟨other, new⟩ := result
    obtain ⟨rfl, here⟩ := reinjectEntry_ok_iff.mp pair
    rw [Dict.lookup_cons_if] at found ⊢
    by_cases own : key = other
    · rw [if_pos own] at found ⊢
      cases found
      exact ⟨new, rfl, here⟩
    · rw [if_neg own] at found ⊢
      exact ih found

theorem mem_of_reinjected {entries results : Entries}
    (ok : entries.mapM (reinjectEntry numpy attachments) = .ok results) {result : Key × Value}
    (member : result ∈ results) :
    ∃ entry ∈ entries, result.1 = entry.1 ∧ reinject numpy attachments entry.2 = .ok result.2 := by
  have pairs := ExceptList.mapM_ok_iff.mp ok
  clear ok
  induction pairs with
  | nil => cases member
  | @cons entry first _ _ pair _ ih =>
    rcases List.mem_cons.mp member with rfl | later
    · exact ⟨entry, List.mem_cons_self, reinjectEntry_ok_iff.mp pair⟩
    · obtain ⟨other, atOther, same⟩ := ih later
      exact ⟨other, List.mem_cons_of_mem entry atOther, same⟩

/-- Whatever is equal to the value is restored to a value equal to its own. -/
def RestoresAlike (numpy : Option Numpy) (attachments : List (List UInt8)) (x : Value) : Prop :=
  ∀ {y z : Value}, y.WellFormed → x.eqv y = true → reinject numpy attachments x = .ok z →
    ∃ w, reinject numpy attachments y = .ok w ∧ z.eqv w = true

theorem reinjectList_eqv {xs ys zs : List Value} (each : ∀ x ∈ xs, RestoresAlike numpy attachments x)
    (formed : ∀ y ∈ ys, y.WellFormed) (pairs : List.Forall₂ (fun x y => Value.eqv x y = true) xs ys)
    (done : reinjectList numpy attachments xs = .ok zs) :
    ∃ ws, reinjectList numpy attachments ys = .ok ws ∧ List.Forall₂ (fun z w => Value.eqv z w = true) zs ws := by
  simp only [reinjectList_eq, ExceptList.mapM_ok_iff] at done ⊢
  induction pairs generalizing zs with
  | nil =>
    cases done
    exact ⟨[], .nil, .nil⟩
  | @cons x y xs ys alike _ ih =>
    obtain ⟨z, later, here, there, rfl⟩ := List.forall₂_cons_left_iff.mp done
    obtain ⟨w, atW, first⟩ := each x List.mem_cons_self (formed y List.mem_cons_self) alike here
    obtain ⟨ws, atWs, rest⟩ := ih (fun x member => each x (List.mem_cons_of_mem _ member))
      (fun y member => formed y (List.mem_cons_of_mem _ member)) there
    exact ⟨w :: ws, .cons atW atWs, .cons first rest⟩

theorem reinjectEntries_eqv {entries others results : Entries}
    (each : ∀ entry ∈ entries, RestoresAlike numpy attachments entry.2) (wellFormed : (Value.dict others).WellFormed)
    (same : (Value.dict entries).eqv (.dict others) = true)
    (done : entries.mapM (reinjectEntry numpy attachments) = .ok results) :
    ∃ back, others.mapM (reinjectEntry numpy attachments) = .ok back ∧
      (Value.dict results).eqv (.dict back) = true := by
  obtain ⟨nodup, formed⟩ := Value.all_dict.mp wellFormed
  have restores : ∀ entry ∈ others, ∃ result, reinjectEntry numpy attachments entry = .ok result := by
    intro entry member
    have atEntry := Value.lookup_of_mem nodup member
    rcases Value.eqv_lookup same entry.1 with ⟨old, new, atOld, atNew, alike⟩ | ⟨_, absent⟩
    · rw [atEntry] at atNew
      cases atNew
      obtain ⟨result, _, restored⟩ := lookup_of_reinjected done atOld
      obtain ⟨back, atBack, _⟩ := each (entry.1, old) (Value.mem_of_lookup atOld) (formed entry member) alike restored
      exact ⟨(entry.1, back), reinjectEntry_ok_iff.mpr ⟨rfl, atBack⟩⟩
    · rw [atEntry] at absent
      cases absent
  obtain ⟨back, atBack⟩ := ExceptList.mapM_ok_of_forall restores
  obtain ⟨forward, home⟩ := Value.eqv_dict_iff.mp same
  refine ⟨back, atBack, Value.eqv_dict_iff.mpr ⟨?_, ?_⟩⟩
  · intro result member
    obtain ⟨entry, atEntry, key, restored⟩ := mem_of_reinjected done member
    obtain ⟨found, atFound, alike⟩ := forward entry atEntry
    obtain ⟨new, atNew, newDone⟩ := lookup_of_reinjected atBack atFound
    have inside := formed (entry.1, found) (Value.mem_of_lookup atFound)
    obtain ⟨other, atOther, equal⟩ := each entry atEntry inside alike restored
    rw [newDone] at atOther
    cases atOther
    exact ⟨new, by rw [key]; exact atNew, equal⟩
  · intro key member
    rw [keys_of_reinjected done]
    rw [keys_of_reinjected atBack] at member
    exact home key member

theorem restoresAlike (numpy : Option Numpy) (attachments : List (List UInt8)) (a : Value) :
    RestoresAlike numpy attachments a := by
  induction a using Value.induction with
  | list items ih =>
    intro b x wellFormed same ok
    obtain ⟨others, rfl, pairs⟩ := Value.eqv_list_left same
    cases inner : reinjectList numpy attachments items with
    | error exception => simp [reinject, inner, Except.map] at ok
    | ok results =>
      obtain ⟨back, atBack, alike⟩ := reinjectList_eqv ih (Value.all_list.mp wellFormed).2 pairs inner
      simp only [reinject, inner, Except.map, Except.ok.injEq] at ok
      subst ok
      exact ⟨.list back, by simp [reinject, atBack, Except.map], by simpa [Value.eqv, Value.eqvList_iff] using alike⟩
  | tuple items ih =>
    intro b x wellFormed same ok
    obtain ⟨others, rfl, pairs⟩ := Value.eqv_tuple_left same
    cases inner : reinjectList numpy attachments items with
    | error exception => simp [reinject, inner, Except.map] at ok
    | ok results =>
      obtain ⟨back, atBack, alike⟩ := reinjectList_eqv ih (Value.all_tuple.mp wellFormed).2 pairs inner
      simp only [reinject, inner, Except.map, Except.ok.injEq] at ok
      subst ok
      exact ⟨.tuple back, by simp [reinject, atBack, Except.map], by simpa [Value.eqv, Value.eqvList_iff] using alike⟩
  | dict entries ih =>
    intro b x wellFormed same ok
    obtain ⟨others, rfl⟩ := Value.eqv_dict_left same
    rcases Value.eqv_lookup same (.str attachMarkerKey) with ⟨index, other, atD, atE, alike⟩ | ⟨atD, atE⟩
    · have equal : restore numpy attachments entries index = restore numpy attachments others other :=
        restore_eqv same alike
      simp only [reinject, Entries.get?, atD] at ok
      refine ⟨x, ?_, restore_eqv_self ok⟩
      simp only [reinject, Entries.get?, atE, ← equal]
      exact ok
    · simp only [reinject, Entries.get?, atD, reinjectEntries_eq] at ok
      cases inner : entries.mapM (reinjectEntry numpy attachments) with
      | error exception =>
        rw [inner] at ok
        cases ok
      | ok results =>
        rw [inner] at ok
        cases ok
        obtain ⟨back, atBack, alike⟩ := reinjectEntries_eqv ih wellFormed same inner
        refine ⟨.dict back, ?_, alike⟩
        simp only [reinject, Entries.get?, atE, reinjectEntries_eq, atBack, Except.map]
  | none | bool | int | str | other | bytes | bytearray | ndarray =>
    intro b x _ same ok
    cases ok
    refine ⟨b, ?_, same⟩
    cases b <;> first | rfl | simp [Value.eqv] at same

/-- Equal messages are restored to equal values. -/
theorem reinject_eqv {a b x : Value} (wellFormed : b.WellFormed) (same : a.eqv b = true)
    (ok : reinject numpy attachments a = .ok x) :
    ∃ y, reinject numpy attachments b = .ok y ∧ x.eqv y = true :=
  restoresAlike numpy attachments a wellFormed same ok

end DEFw.Attachments
