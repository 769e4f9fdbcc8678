import DEFw.Lib.PyText
import DEFw.Lib.PyValue

namespace DEFw.Hosts
open Py Py.Text

abbrev Text := List Char

/-- `str.isspace` for one character. -/
def isSpace (c : Char) : Bool :=
  (9 ≤ c.toNat && c.toNat ≤ 13) || (28 ≤ c.toNat && c.toNat ≤ 32) || (0x2000 ≤ c.toNat && c.toNat ≤ 0x200a) ||
    c.toNat ∈ [0x85, 0xa0, 0x1680, 0x2028, 0x2029, 0x202f, 0x205f, 0x3000]

/-- The inner loop of `split_on_commas`: on to the next comma while this one is inside the brackets. -/
def skipInside (s : Text) (o b c : Int) (low : -1 ≤ o) : Int :=
  if c > o ∧ c < b then skipInside s o b (find s ',' (c + 1)) low else c
termination_by if c < 0 then 0 else s.length + 1 - c.toNat + 1
decreasing_by
  rename_i inside
  rw [if_neg (by omega : ¬c < 0)]
  rcases find_cases s ',' (c + 1) with none | ⟨i, found, behind, here⟩
  · rw [none]
    simp
  · have bound := (List.getElem?_eq_some_iff.mp here).1
    rw [found, if_neg (by omega)]
    rw [position, if_neg (by omega)] at behind
    omega

theorem find_low (s : Text) (c : Char) (start : Int) : -1 ≤ find s c start := by
  rcases find_cases s c start with none | ⟨i, found, -⟩ <;> omega

/-- Where the inner loop ends there is a comma, unless it ends at -1. -/
theorem skipInside_comma {s : Text} {o b c : Int} {low : -1 ≤ o} (comma : c = -1 ∨ ∃ i : Nat, c = i ∧ s[i]? = some ',') :
    skipInside s o b c low = -1 ∨ ∃ i : Nat, skipInside s o b c low = i ∧ s[i]? = some ',' := by
  fun_induction skipInside s o b c low with
  | case1 c inside ih =>
    refine ih ?_
    rcases find_cases s ',' (c + 1) with none | ⟨i, found, -, here⟩
    · exact .inl none
    · exact .inr ⟨i, found, here⟩
  | case2 c outside => exact comma

/-- The comma that an iteration of the outer loop ends up at. -/
def nextComma (s : Text) : Int :=
  skipInside s (find s '[' 0) (find s ']' 0) (find s ',' 0) (find_low s '[' 0)

theorem nextComma_cases (s : Text) : nextComma s = -1 ∨ ∃ i : Nat, nextComma s = i ∧ s[i]? = some ',' := by
  refine skipInside_comma ?_
  rcases find_cases s ',' 0 with none | ⟨i, found, -, here⟩
  · exact .inl none
  · exact .inr ⟨i, found, here⟩

/-- The outer loop of `split_on_commas`, for the pieces so far: the last of them is taken up again. -/
def splitLoop (s : Text) (l : List Text) : List Text :=
  let o := find s '[' 0
  let b := find s ']' 0
  let c := nextComma s
  if c < o ∨ c > b then
    let cut := find s ',' c
    if c ≠ -1 ∧ o ≠ -1 then
      splitLoop (onward s (cut + 1)) (l.dropLast ++ [upTo s cut, onward s (cut + 1)])
    else l.dropLast ++ [upTo s cut, onward s (cut + 1)]
  else l.dropLast ++ s.splitOn ','
termination_by s.length
decreasing_by
  rename_i more
  rcases nextComma_cases s with none | ⟨i, found, here⟩
  · exact absurd none more.1
  · have bound := (List.getElem?_eq_some_iff.mp here).1
    rw [found, find_at here, onward, ← Nat.cast_succ, position_natCast, List.length_drop]
    omega

def splitOnCommas (expr : Text) : List Text :=
  (splitLoop expr []).map (strip isSpace)

/-- `int(text)` for a text without a minus sign, where nothing stands for a ValueError. -/
def number? (text : Text) : Option Nat :=
  (Value.toInt? (.str (String.ofList text))).map Int.toNat

/-- The decimal format of a width, filled up with zeros. -/
def pad (width n : Nat) : Text :=
  List.replicate (width - (Nat.toDigits 10 n).length) '0' ++ Nat.toDigits 10 n

/-- One pass of the loop over the ranges. -/
def expandRange (node r : Text) : Option (List Text) :=
  match r.splitOn '-' with
  | [first, last] =>
    (number? first).bind (fun a => (number? last).map (fun b =>
      (List.range' a (b + 1 - a)).map (fun idx => node ++ pad first.length idx)))
  | [first] => (number? first).map (fun a => [node ++ pad first.length a])
  | _ => some []

/-- Nothing stands for a ValueError. -/
def expandHostListSub (expr : Text) : Option (List Text) :=
  let openBr := find expr '[' 0
  let closeBr := find expr ']' openBr
  if openBr = -1 ∧ closeBr = -1 then some (expr.splitOn ',')
  else if openBr = -1 ∨ closeBr = -1 then some []
  else
    let rangestr := slice expr (openBr + 1) closeBr
    let node := upTo expr openBr
    ((rangestr.splitOn ',').mapM (expandRange node)).map List.flatten

def expandHostList (expr : Text) : Option (List Text) :=
  ((splitOnCommas expr).mapM expandHostListSub).map List.flatten

/-- A decimal numeral. -/
structure Numeral where
  digits : Text
  nonempty : digits ≠ []
  decimal : ∀ c ∈ digits, c.isDigit = true

def Numeral.value (numeral : Numeral) : Nat :=
  numeral.digits.foldl (fun total c => 10 * total + (c.toNat - '0'.toNat)) 0

/-- A numeral, or a range of numbers in order. -/
inductive HostRange where
  | single (first : Numeral)
  | span (first last : Numeral) (ordered : first.value ≤ last.value)

def HostRange.render : HostRange → Text
  | single first => first.digits
  | span first last _ => first.digits ++ '-' :: last.digits

/-- The numbers of a range, each padded to the width of its first numeral. -/
def HostRange.expansion : HostRange → List Text
  | single first => [pad first.digits.length first.value]
  | span first last _ =>
    (List.range' first.value (last.value + 1 - first.value)).map (pad first.digits.length)

/-- A character of a host name. -/
def NameChar (c : Char) : Prop := c ≠ ',' ∧ c ≠ '[' ∧ c ≠ ']' ∧ isSpace c = false

/-- A plain host name, or a prefix with one or more ranges in brackets. -/
inductive HostItem where
  | plain (name : Text) (nonempty : name ≠ []) (clean : ∀ c ∈ name, NameChar c)
  | ranged (stem : Text) (clean : ∀ c ∈ stem, NameChar c) (first : HostRange) (rest : List HostRange)

/-- Texts with commas between them. -/
def joined (texts : List Text) : Text := [','].intercalate texts

def HostItem.render : HostItem → Text
  | plain name _ _ => name
  | ranged stem _ first rest => stem ++ '[' :: (joined ((first :: rest).map HostRange.render) ++ [']'])

def HostItem.expansion : HostItem → List Text
  | plain name _ _ => [name]
  | ranged stem _ first rest => ((first :: rest).flatMap HostRange.expansion).map (stem ++ ·)

section Numbers

theorem isDigit_range {c : Char} (digit : c.isDigit = true) : 48 ≤ c.toNat ∧ c.toNat ≤ 57 := by
  simp only [Char.isDigit, Bool.and_eq_true, decide_eq_true_eq, ge_iff_le, UInt32.le_iff_toNat_le] at digit
  exact digit

theorem isDigit_ne {c d : Char} (digit : c.isDigit = true) (other : d.isDigit = false) : c ≠ d := by
  rintro rfl
  rw [digit] at other
  cases other

theorem isSpace_of_isDigit {c : Char} (digit : c.isDigit = true) : isSpace c = false := by
  obtain ⟨low, high⟩ := isDigit_range digit
  simp [isSpace]
  omega

theorem isWhitespace_of_isDigit {c : Char} (digit : c.isDigit = true) : c.isWhitespace = false := by
  have apart (d : Char) (other : d.isDigit = false) : ¬c = d := isDigit_ne digit other
  simp [Char.isWhitespace, apart ' ' rfl, apart '\t' rfl, apart '\r' rfl, apart '\n' rfl]

theorem digits?_eq {digits : Text} (decimal : ∀ c ∈ digits, c.isDigit = true) (afterDigit : Bool) (total : Nat)
    (some? : afterDigit = true ∨ digits ≠ []) :
    Value.digits? afterDigit total digits =
      some (digits.foldl (fun total c => 10 * total + (c.toNat - '0'.toNat)) total) := by
  induction digits generalizing afterDigit total with
  | nil => simp [Value.digits?, some?.resolve_right (by simp)]
  | cons c rest ih =>
    rw [Value.digits?, if_pos (decimal c List.mem_cons_self), List.foldl_cons]
    exact ih (fun d member => decimal d (List.mem_cons_of_mem c member)) true _ (.inl rfl)

theorem Numeral.number?_digits (numeral : Numeral) : number? numeral.digits = some numeral.value := by
  obtain ⟨digits, nonempty, decimal⟩ := numeral
  have solid : ∀ c ∈ digits, c.isWhitespace = false := fun c member => isWhitespace_of_isDigit (decimal c member)
  have read : Value.digits? false 0 digits = some (Numeral.value ⟨digits, nonempty, decimal⟩) :=
    digits?_eq decimal false 0 (.inr nonempty)
  have signless : Value.intOfChars? digits = (Value.digits? false 0 digits).map Int.ofNat := by
    cases digits with
    | nil => exact absurd rfl nonempty
    | cons c rest =>
      have digit := decimal c List.mem_cons_self
      rw [Value.intOfChars?.eq_3]
      · rintro later ⟨rfl, -⟩
        cases digit
      · rintro later ⟨rfl, -⟩
        cases digit
  rw [number?, Value.toInt?, String.toList_ofList, ← strip, strip_eq_self solid, signless, read]
  rfl

end Numbers

section Ranges

theorem HostRange.render_chars {range : HostRange} {c : Char} (member : c ∈ range.render) :
    c.isDigit = true ∨ c = '-' := by
  cases range with
  | single first => exact .inl (first.decimal c member)
  | span first last _ =>
    rcases List.mem_append.mp member with inFirst | behind
    · exact .inl (first.decimal c inFirst)
    · rcases List.mem_cons.mp behind with rfl | inLast
      · exact .inr rfl
      · exact .inl (last.decimal c inLast)

theorem HostRange.notMem_render {range : HostRange} {c : Char} (other : c.isDigit = false) (apart : c ≠ '-') :
    c ∉ range.render := by
  intro member
  rcases render_chars member with digit | dash
  · rw [other] at digit
    cases digit
  · exact apart dash

theorem Numeral.dash_notMem (numeral : Numeral) : '-' ∉ numeral.digits :=
  fun member => nomatch numeral.decimal '-' member

theorem HostRange.expandRange_render (node : Text) (range : HostRange) :
    expandRange node range.render = some (range.expansion.map (node ++ ·)) := by
  cases range with
  | single first =>
    rw [expandRange, render, List.splitOn_eq_singleton first.dash_notMem]
    simp [first.number?_digits, expansion]
  | span first last ordered =>
    have parts : (first.digits ++ '-' :: last.digits).splitOn '-' = [first.digits, last.digits] := by
      rw [List.splitOn_append_cons_self_of_not_mem first.dash_notMem, List.splitOn_eq_singleton last.dash_notMem]
    rw [expandRange, render, parts]
    simp [first.number?_digits, last.number?_digits, expansion, Function.comp_def]

theorem mapM_flatten_cons {α β : Type} {f : α → Option (List β)} {item : α} {rest : List α} {here there : List β}
    (first : f item = some here) (later : (rest.mapM f).map List.flatten = some there) :
    ((item :: rest).mapM f).map List.flatten = some (here ++ there) := by
  obtain ⟨results, done, rfl⟩ := Option.map_eq_some_iff.mp later
  simp [List.mapM_cons, first, done]

theorem mapM_expandRange (node : Text) (ranges : List HostRange) :
    ((ranges.map HostRange.render).mapM (expandRange node)).map List.flatten =
      some ((ranges.flatMap HostRange.expansion).map (node ++ ·)) := by
  induction ranges with
  | nil => rfl
  | cons range rest ih =>
    rw [List.map_cons, mapM_flatten_cons (range.expandRange_render node) ih, List.flatMap_cons, List.map_append]

end Ranges

section Joined

@[simp] theorem joined_singleton (text : Text) : joined [text] = text :=
  List.intercalate_singleton

theorem joined_cons (text : Text) {rest : List Text} (more : rest ≠ []) :
    joined (text :: rest) = text ++ ',' :: joined rest := by
  rw [joined, List.intercalate_cons_of_ne_nil more, List.append_assoc]
  rfl

theorem mem_joined {texts : List Text} {c : Char} (member : c ∈ joined texts) : c = ',' ∨ ∃ text ∈ texts, c ∈ text := by
  induction texts with
  | nil => cases member
  | cons text rest ih =>
    by_cases more : rest = []
    · subst more
      rw [joined_singleton] at member
      exact .inr ⟨text, List.mem_cons_self, member⟩
    · rw [joined_cons text more] at member
      rcases List.mem_append.mp member with inside | behind
      · exact .inr ⟨text, List.mem_cons_self, inside⟩
      · rcases List.mem_cons.mp behind with comma | later
        · exact .inl comma
        · exact (ih later).imp_right (fun ⟨other, listed, inside⟩ => ⟨other, List.mem_cons_of_mem text listed, inside⟩)

theorem mem_joined_of_mem {texts : List Text} {text : Text} {c : Char} (listed : text ∈ texts) (inside : c ∈ text) :
    c ∈ joined texts := by
  induction texts with
  | nil => cases listed
  | cons head rest ih =>
    by_cases more : rest = []
    · subst more
      rw [List.mem_singleton] at listed
      rwa [joined_singleton, ← listed]
    · rw [joined_cons head more, List.mem_append, List.mem_cons]
      rcases List.mem_cons.mp listed with rfl | later
      · exact .inl inside
      · exact .inr (.inr (ih later))

/-- What stands between the brackets of an item. -/
def between (first : HostRange) (rest : List HostRange) : Text := joined ((first :: rest).map HostRange.render)

theorem between_chars {first : HostRange} {rest : List HostRange} {c : Char} (member : c ∈ between first rest) :
    c = ',' ∨ c.isDigit = true ∨ c = '-' := by
  rcases mem_joined member with comma | ⟨text, listed, inside⟩
  · exact .inl comma
  · obtain ⟨range, -, rfl⟩ := List.mem_map.mp listed
    exact .inr (HostRange.render_chars inside)

theorem notMem_between {first : HostRange} {rest : List HostRange} {c : Char} (comma : c ≠ ',')
    (other : c.isDigit = false) (dash : c ≠ '-') : c ∉ between first rest := by
  intro member
  rcases between_chars member with same | digit | same
  · exact comma same
  · rw [other] at digit
    cases digit
  · exact dash same

end Joined

section Expansion

theorem sub_unbracketed {expr : Text} (noOpen : '[' ∉ expr) (noClose : ']' ∉ expr) :
    expandHostListSub expr = some (expr.splitOn ',') := by
  have opened : find expr '[' 0 = -1 := find_absent (fun member => noOpen (List.mem_of_mem_drop member))
  have closed : find expr ']' (-1) = -1 := find_absent (fun member => noClose (List.mem_of_mem_drop member))
  simp only [expandHostListSub, opened, closed, and_self, if_true]

/-- A piece whose bracket is not closed expands to nothing. -/
theorem sub_unclosed {stem inner : Text} (noOpen : '[' ∉ stem) (noClose : ']' ∉ inner) :
    expandHostListSub (stem ++ '[' :: inner) = some [] := by
  have opened : find (stem ++ '[' :: inner) '[' 0 = stem.length := find_start rfl noOpen
  have closed : find (stem ++ '[' :: inner) ']' stem.length = -1 := by
    refine find_absent ?_
    rw [position_natCast, List.drop_left]
    simpa using noClose
  simp [expandHostListSub, opened, closed]

theorem HostItem.sub_ranged {stem : Text} (clean : ∀ c ∈ stem, NameChar c) (first : HostRange) (rest : List HostRange) :
    expandHostListSub (ranged stem clean first rest).render = some (ranged stem clean first rest).expansion := by
  have noOpen : '[' ∉ stem := fun member => (clean _ member).2.1 rfl
  have noClose : ']' ∉ '[' :: between first rest := by
    rw [List.mem_cons, not_or]
    exact ⟨by decide, notMem_between (by decide) rfl (by decide)⟩
  have shape : (ranged stem clean first rest).render = stem ++ ('[' :: between first rest ++ ']' :: []) := by
    rw [render, between]
    rfl
  have opened : find (ranged stem clean first rest).render '[' 0 = stem.length := find_start rfl noOpen
  have closed : find (ranged stem clean first rest).render ']' stem.length =
      (stem.length + ('[' :: between first rest).length : Nat) :=
    find_eq shape noClose
  have inner : slice (ranged stem clean first rest).render (stem.length + 1)
      (stem.length + ('[' :: between first rest).length : Nat) = between first rest := by
    have front : (ranged stem clean first rest).render = (stem ++ '[' :: between first rest) ++ [']'] := by
      rw [shape, List.append_assoc]
    have back : stem ++ '[' :: between first rest = (stem ++ ['[']) ++ between first rest := List.append_cons ..
    have width : stem.length.succ = (stem ++ ['[']).length := by rw [List.length_append, List.length_singleton]
    rw [slice, position_natCast, ← Nat.cast_succ, position_natCast, front, ← List.length_append, List.take_left,
      back, width, List.drop_left]
  have node : upTo (ranged stem clean first rest).render stem.length = stem := by
    rw [upTo, position_natCast]
    exact List.take_left
  have ranges : (between first rest).splitOn ',' = (first :: rest).map HostRange.render := by
    refine List.splitOn_intercalate ',' ?_ (by simp)
    intro text listed
    obtain ⟨range, -, rfl⟩ := List.mem_map.mp listed
    exact HostRange.notMem_render rfl (by decide)
  simp only [expandHostListSub, opened, closed, inner, node, ranges]
  rw [if_neg (by omega), if_neg (by omega)]
  exact mapM_expandRange stem (first :: rest)

end Expansion

section Splitting

theorem nextComma_unbracketed {s : Text} (noClose : ']' ∉ s) (noOpen : '[' ∉ s) : nextComma s = find s ',' 0 := by
  have opened : find s '[' 0 = -1 := find_absent (fun member => noOpen (List.mem_of_mem_drop member))
  have closed : find s ']' 0 = -1 := find_absent (fun member => noClose (List.mem_of_mem_drop member))
  rw [nextComma, skipInside, if_neg (by omega)]

theorem nextComma_before {s : Text} (before : find s ',' 0 < find s '[' 0) : nextComma s = find s ',' 0 := by
  rw [nextComma, skipInside, if_neg (by omega)]

/-- The commas inside the brackets are skipped: the search goes on as if it started at the closing one. -/
theorem skipInside_find {s : Text} {o b : Nat} {low : -1 ≤ (o : Int)} (behind : ∀ i, s[i]? = some ',' → o < i)
    (closing : s[b]? ≠ some ',') {k : Nat} (start : k ≤ b) :
    skipInside s o b (find s ',' k) low = find s ',' b := by
  induction distance : b - k using Nat.strong_induction_on generalizing k with
  | _ n ih =>
    rcases find_cases s ',' k with none | ⟨i, found, from_start, here⟩
    · rw [none, skipInside, if_neg (by omega)]
      exact (find_none_later none start).symm
    · rw [position_natCast] at from_start
      have above := behind i here
      rw [found, skipInside]
      by_cases inside : i < b
      · rw [if_pos (by omega), ← Nat.cast_succ]
        exact ih (b - (i + 1)) (by omega) (by omega) rfl
      · have apart : i ≠ b := by
          rintro rfl
          exact closing here
        rw [if_neg (by omega)]
        exact (find_later found start (by omega)).symm

theorem find_open {s stem rest : Text} (clean : ∀ c ∈ stem, NameChar c) (text : s = stem ++ '[' :: rest) :
    find s '[' 0 = stem.length :=
  find_start text (fun member => (clean _ member).2.1 rfl)

theorem find_close {s stem inner tail : Text} (clean : ∀ c ∈ stem, NameChar c) (noClose : ']' ∉ inner)
    (text : s = (stem ++ '[' :: inner) ++ ']' :: tail) : find s ']' 0 = (stem ++ '[' :: inner).length := by
  refine find_start text ?_
  rw [List.mem_append, List.mem_cons]
  rintro (inStem | clash | inInner)
  · exact (clean _ inStem).2.2.1 rfl
  · cases clash
  · exact noClose inInner

theorem nextComma_ranged {s stem inner tail : Text} (clean : ∀ c ∈ stem, NameChar c) (noClose : ']' ∉ inner)
    (text : s = (stem ++ '[' :: inner) ++ ']' :: tail) :
    nextComma s = find s ',' ((stem ++ '[' :: inner).length : Nat) := by
  have opening : s = stem ++ '[' :: (inner ++ ']' :: tail) := by
    rw [text, List.append_assoc]
    rfl
  have behind : ∀ i, s[i]? = some ',' → stem.length < i := by
    intro i here
    by_contra early
    rcases Nat.lt_or_eq_of_le (Nat.not_lt.mp early) with before | same
    · rw [opening, List.getElem?_append_left before] at here
      exact (clean _ (List.mem_of_getElem? here)).1 rfl
    · rw [opening, same, List.getElem?_append_right (Nat.le_refl _), Nat.sub_self] at here
      cases here
  have closing : s[(stem ++ '[' :: inner).length]? ≠ some ',' := by
    rw [text, List.getElem?_append_right (Nat.le_refl _), Nat.sub_self]
    rintro ⟨⟩
  rw [nextComma]
  simp only [find_open clean opening, find_close clean noClose text]
  exact skipInside_find behind closing (Nat.zero_le _)

/-- An iteration that cuts at a comma goes on behind it, if there is a bracket. -/
theorem splitLoop_cut {s before after : Text} {l : List Text} (text : s = before ++ ',' :: after)
    (comma : nextComma s = before.length)
    (outside : (before.length : Int) < find s '[' 0 ∨ (before.length : Int) > find s ']' 0) :
    splitLoop s l =
      if find s '[' 0 = -1 then l.dropLast ++ [before, after]
      else splitLoop after (l.dropLast ++ [before, after]) := by
  have here : s[before.length]? = some ',' := by
    rw [text, List.getElem?_append_right (Nat.le_refl _), Nat.sub_self]
    rfl
  have front : upTo s before.length = before := by
    rw [upTo, position_natCast, text, List.take_left]
  have back : onward s (before.length + 1) = after := by
    have width : before.length.succ = (before ++ [',']).length := by rw [List.length_append, List.length_singleton]
    rw [onward, ← Nat.cast_succ, position_natCast, text, List.append_cons, width, List.drop_left]
  rw [splitLoop]
  simp only [comma, find_at here, front, back, if_pos outside]
  by_cases opened : find s '[' 0 = -1
  · rw [if_pos opened, if_neg (fun more => more.2 opened)]
  · rw [if_neg opened, if_pos ⟨by omega, opened⟩]

/-- Without a comma the bound -1 cuts off the last character. -/
theorem splitLoop_uncut {s init : Text} {last : Char} {l : List Text} (text : s = init ++ [last]) (other : last ≠ ',')
    (comma : nextComma s = -1) (opened : -1 < find s '[' 0) : splitLoop s l = l.dropLast ++ [init, s] := by
  have end_position : position s (-1) = init.length := by
    rw [position_neg_one, text, List.length_append, List.length_singleton, Nat.add_sub_cancel]
  have cut : find s ',' (-1) = -1 := by
    refine find_absent ?_
    rw [end_position, text, List.drop_left, List.mem_singleton]
    exact Ne.symm other
  have front : upTo s (-1) = init := by
    rw [upTo, end_position, text, List.take_left]
  have back : onward s (-1 + 1) = s := rfl
  rw [splitLoop]
  simp only [comma, cut, front, back]
  rw [if_pos (.inl opened), if_neg (fun more => more.1 rfl)]

theorem splitLoop_unbracketed {s : Text} {l : List Text} (noOpen : '[' ∉ s) (noClose : ']' ∉ s) (noComma : ',' ∉ s) :
    splitLoop s l = l.dropLast ++ [s] := by
  have opened : find s '[' 0 = -1 := find_absent (fun member => noOpen (List.mem_of_mem_drop member))
  have closed : find s ']' 0 = -1 := find_absent (fun member => noClose (List.mem_of_mem_drop member))
  have comma : nextComma s = -1 := by
    rw [nextComma_unbracketed noClose noOpen]
    exact find_absent (fun member => noComma (List.mem_of_mem_drop member))
  rw [splitLoop]
  simp only [opened, closed, comma]
  rw [if_neg (by omega), List.splitOn_eq_singleton noComma]

end Splitting

def HostItem.isRanged : HostItem → Bool
  | plain .. => false
  | ranged .. => true

/-- The pieces that `split_on_commas` makes of a list of items. The last item with brackets comes with a
copy that lacks the closing one, and names behind all brackets stay together from the second on. -/
def pieces : HostItem → List HostItem → List Text
  | .ranged stem clean first more, [] =>
    [stem ++ '[' :: between first more, (HostItem.ranged stem clean first more).render]
  | .plain name _ _, [] => [name]
  | .ranged stem clean first more, next :: rest => (HostItem.ranged stem clean first more).render :: pieces next rest
  | .plain name _ _, next :: rest =>
    if (next :: rest).any HostItem.isRanged then name :: pieces next rest
    else [name, joined ((next :: rest).map HostItem.render)]

section Items

/-- The characters of a list of items. -/
theorem HostItem.notMem_joined {items : List HostItem} (plain : items.any HostItem.isRanged = false) {c : Char}
    (bracket : c = '[' ∨ c = ']') : c ∉ joined (items.map HostItem.render) := by
  intro member
  rcases mem_joined member with rfl | ⟨text, listed, inside⟩
  · rcases bracket with clash | clash <;> cases clash
  · obtain ⟨item, among, rfl⟩ := List.mem_map.mp listed
    have unranged := List.any_eq_false.mp plain item among
    cases item with
    | plain name nonempty clean =>
      obtain ⟨-, noOpen, noClose, -⟩ := clean c inside
      exact bracket.elim noOpen noClose
    | ranged stem clean first rest => exact unranged rfl

theorem HostItem.mem_joined_of_ranged {items : List HostItem} (bracketed : items.any HostItem.isRanged = true) :
    '[' ∈ joined (items.map HostItem.render) := by
  obtain ⟨item, among, ranged⟩ := List.any_eq_true.mp bracketed
  have inside : '[' ∈ item.render := by
    cases item with
    | plain name nonempty clean => cases ranged
    | ranged stem clean first rest => exact List.mem_append_right _ List.mem_cons_self
  exact mem_joined_of_mem (List.mem_map_of_mem among) inside

theorem dropLast_pair (l : List Text) (a b : Text) : (l ++ [a, b]).dropLast = l ++ [a] := by
  rw [List.dropLast_append_of_ne_nil (by simp)]
  rfl

theorem splitLoop_last (first : HostItem) (l : List Text) : splitLoop first.render l = l.dropLast ++ pieces first [] := by
  cases first with
  | plain name nonempty clean =>
    exact splitLoop_unbracketed (fun member => (clean _ member).2.1 rfl) (fun member => (clean _ member).2.2.1 rfl)
      (fun member => (clean _ member).1 rfl)
  | ranged stem clean range more =>
    have noClose : ']' ∉ between range more := notMem_between (by decide) rfl (by decide)
    have text : (HostItem.ranged stem clean range more).render = (stem ++ '[' :: between range more) ++ [']'] := by
      rw [HostItem.render, List.append_assoc]
      rfl
    have comma : nextComma (HostItem.ranged stem clean range more).render = -1 := by
      rw [nextComma_ranged clean noClose text]
      refine find_absent ?_
      rw [position_natCast, text, List.drop_left]
      decide
    have opened : find (HostItem.ranged stem clean range more).render '[' 0 = stem.length := find_open clean rfl
    exact splitLoop_uncut text (by decide) comma (by omega)

/-- A name in front of an item with brackets is cut off, and the loop goes on behind it. -/
theorem splitLoop_plain {name after : Text} (clean : ∀ c ∈ name, NameChar c) (bracketed : '[' ∈ after) (l : List Text) :
    splitLoop (name ++ ',' :: after) l = splitLoop after (l.dropLast ++ [name, after]) := by
  have comma : find (name ++ ',' :: after) ',' 0 = name.length := find_start rfl (fun member => (clean _ member).1 rfl)
  have beyond : (name.length : Int) < find (name ++ ',' :: after) '[' 0 := by
    obtain ⟨inner, tail, rfl, absent⟩ := List.eq_append_cons_of_mem bracketed
    have text : name ++ ',' :: (inner ++ '[' :: tail) = (name ++ ',' :: inner) ++ '[' :: tail := by
      rw [List.append_assoc]
      rfl
    have front : '[' ∉ name ++ ',' :: inner := by
      rw [List.mem_append, List.mem_cons]
      rintro (inName | clash | inInner)
      · exact (clean _ inName).2.1 rfl
      · cases clash
      · exact absent inInner
    rw [find_start text front, List.length_append, List.length_cons]
    omega
  have cut := splitLoop_cut (l := l) rfl ((nextComma_before (by rw [comma]; exact beyond)).trans comma) (.inl beyond)
  rw [cut, if_neg (by omega)]

/-- Names without brackets behind them are cut once. -/
theorem splitLoop_names {name after : Text} (clean : ∀ c ∈ name, NameChar c) (noOpen : '[' ∉ after)
    (noClose : ']' ∉ after) (l : List Text) : splitLoop (name ++ ',' :: after) l = l.dropLast ++ [name, after] := by
  have comma : find (name ++ ',' :: after) ',' 0 = name.length := find_start rfl (fun member => (clean _ member).1 rfl)
  have unopened : '[' ∉ name ++ ',' :: after := by
    rw [List.mem_append, List.mem_cons]
    rintro (inName | clash | behind)
    · exact (clean _ inName).2.1 rfl
    · cases clash
    · exact noOpen behind
  have unclosed : ']' ∉ name ++ ',' :: after := by
    rw [List.mem_append, List.mem_cons]
    rintro (inName | clash | behind)
    · exact (clean _ inName).2.2.1 rfl
    · cases clash
    · exact noClose behind
  have opened : find (name ++ ',' :: after) '[' 0 = -1 :=
    find_absent (fun member => unopened (List.mem_of_mem_drop member))
  have closed : find (name ++ ',' :: after) ']' 0 = -1 :=
    find_absent (fun member => unclosed (List.mem_of_mem_drop member))
  rw [splitLoop_cut rfl ((nextComma_unbracketed unclosed unopened).trans comma) (.inr (by omega)), if_pos opened]

/-- An item with brackets in front of other items is cut off, and the loop goes on behind it. -/
theorem splitLoop_ranged {stem : Text} (clean : ∀ c ∈ stem, NameChar c) (range : HostRange) (more : List HostRange)
    (after : Text) (l : List Text) :
    splitLoop ((HostItem.ranged stem clean range more).render ++ ',' :: after) l =
      splitLoop after (l.dropLast ++ [(HostItem.ranged stem clean range more).render, after]) := by
  have noClose : ']' ∉ between range more := notMem_between (by decide) rfl (by decide)
  have text : (HostItem.ranged stem clean range more).render ++ ',' :: after =
      (stem ++ '[' :: between range more) ++ ([']'] ++ ',' :: after) := by
    rw [HostItem.render, between, List.append_assoc, List.append_assoc, List.cons_append, List.append_assoc]
    rfl
  have opening : (HostItem.ranged stem clean range more).render ++ ',' :: after =
      stem ++ '[' :: (between range more ++ ']' :: ',' :: after) := by
    rw [text, List.append_assoc]
    rfl
  have width : (HostItem.ranged stem clean range more).render.length = (stem ++ '[' :: between range more).length + 1 := by
    simp [HostItem.render, between]
    omega
  have comma : nextComma ((HostItem.ranged stem clean range more).render ++ ',' :: after) =
      (HostItem.ranged stem clean range more).render.length := by
    rw [nextComma_ranged clean noClose text, find_eq text (by decide), width]
    rfl
  have closed := find_close clean noClose text
  have opened := find_open clean opening
  rw [splitLoop_cut rfl comma (.inr (by omega)), if_neg (by omega)]

theorem splitLoop_joined (first : HostItem) (rest : List HostItem) (l : List Text) :
    splitLoop (joined ((first :: rest).map HostItem.render)) l = l.dropLast ++ pieces first rest := by
  induction rest generalizing first l with
  | nil =>
    rw [List.map_singleton, joined_singleton]
    exact splitLoop_last first l
  | cons next rest ih =>
    rw [List.map_cons, joined_cons _ (by simp)]
    cases first with
    | plain name nonempty clean =>
      rw [pieces]
      cases bracketed : (next :: rest).any HostItem.isRanged with
      | true =>
        rw [HostItem.render, splitLoop_plain clean (HostItem.mem_joined_of_ranged bracketed), ih, dropLast_pair,
          if_pos rfl, List.append_assoc]
        rfl
      | false =>
        rw [HostItem.render, splitLoop_names clean (HostItem.notMem_joined bracketed (.inl rfl))
          (HostItem.notMem_joined bracketed (.inr rfl)), if_neg (by simp)]
    | ranged stem clean range more =>
      rw [splitLoop_ranged, ih, dropLast_pair, pieces, List.append_assoc]
      rfl

/-- No character of an item is white space. -/
theorem HostItem.solid_render {item : HostItem} {c : Char} (member : c ∈ item.render) : isSpace c = false := by
  cases item with
  | plain name nonempty clean => exact (clean c member).2.2.2
  | ranged stem clean first rest =>
    rcases List.mem_append.mp member with inStem | behind
    · exact (clean c inStem).2.2.2
    · rcases List.mem_cons.mp behind with rfl | inside
      · rfl
      · rcases List.mem_append.mp inside with between | closing
        · rcases between_chars between with rfl | digit | rfl
          · rfl
          · exact isSpace_of_isDigit digit
          · rfl
        · rw [List.mem_singleton.mp closing]
          rfl

theorem HostItem.solid_joined {items : List HostItem} {c : Char} (member : c ∈ joined (items.map HostItem.render)) :
    isSpace c = false := by
  rcases mem_joined member with rfl | ⟨text, listed, inside⟩
  · rfl
  · obtain ⟨item, -, rfl⟩ := List.mem_map.mp listed
    exact solid_render inside

theorem solid_pieces (first : HostItem) (rest : List HostItem) :
    ∀ piece ∈ pieces first rest, ∀ c ∈ piece, isSpace c = false := by
  induction rest generalizing first with
  | nil =>
    cases first with
    | plain name nonempty clean =>
      intro piece listed c inside
      rw [List.mem_singleton.mp listed] at inside
      exact (clean c inside).2.2.2
    | ranged stem clean range more =>
      rw [pieces, List.forall_mem_cons, List.forall_mem_singleton]
      refine ⟨fun c inside => ?_, fun c inside => HostItem.solid_render inside⟩
      have whole : c ∈ (HostItem.ranged stem clean range more).render := by
        rw [HostItem.render, ← between, ← List.cons_append, ← List.append_assoc]
        exact List.mem_append_left _ inside
      exact HostItem.solid_render whole
  | cons next rest ih =>
    cases first with
    | plain name nonempty clean =>
      have solid : ∀ c ∈ name, isSpace c = false := fun c inside => (clean c inside).2.2.2
      rw [pieces]
      split
      · exact List.forall_mem_cons.mpr ⟨solid, ih next⟩
      · rw [List.forall_mem_cons, List.forall_mem_singleton]
        exact ⟨solid, fun c inside => HostItem.solid_joined inside⟩
    | ranged stem clean range more =>
      rw [pieces]
      exact List.forall_mem_cons.mpr ⟨fun c inside => HostItem.solid_render inside, ih next⟩

theorem splitOnCommas_joined (first : HostItem) (rest : List HostItem) :
    splitOnCommas (joined ((first :: rest).map HostItem.render)) = pieces first rest := by
  rw [splitOnCommas, splitLoop_joined, List.dropLast_nil, List.nil_append]
  have kept : ∀ piece ∈ pieces first rest, strip isSpace piece = id piece :=
    fun piece listed => strip_eq_self (solid_pieces first rest piece listed)
  rw [List.map_congr_left kept, List.map_id]

theorem HostItem.sub_render (item : HostItem) : expandHostListSub item.render = some item.expansion := by
  cases item with
  | plain name nonempty clean =>
    rw [render, sub_unbracketed (fun member => (clean _ member).2.1 rfl) (fun member => (clean _ member).2.2.1 rfl),
      List.splitOn_eq_singleton (fun member => (clean _ member).1 rfl)]
    rfl
  | ranged stem clean first rest => exact sub_ranged clean first rest

/-- Names that stayed together are taken apart again. -/
theorem sub_names {items : List HostItem} (names : items.any HostItem.isRanged = false) (more : items ≠ []) :
    expandHostListSub (joined (items.map HostItem.render)) = some (items.flatMap HostItem.expansion) := by
  have plain (item : HostItem) (among : item ∈ items) : ',' ∉ item.render ∧ item.expansion = [item.render] := by
    have unranged := List.any_eq_false.mp names item among
    cases item with
    | plain name nonempty clean => exact ⟨fun member => (clean _ member).1 rfl, rfl⟩
    | ranged stem clean first rest => exact absurd rfl unranged
  have apart : (joined (items.map HostItem.render)).splitOn ',' = items.map HostItem.render := by
    refine List.splitOn_intercalate ',' ?_ (by simpa using more)
    intro text listed
    obtain ⟨item, among, rfl⟩ := List.mem_map.mp listed
    exact (plain item among).1
  rw [sub_unbracketed (HostItem.notMem_joined names (.inl rfl)) (HostItem.notMem_joined names (.inr rfl)), apart,
    List.map_eq_flatMap]
  exact congrArg some (List.flatMap_congr (fun item among => (plain item among).2.symm))

theorem mapM_flatten_singleton {piece : Text} {hosts : List Text} (expanded : expandHostListSub piece = some hosts) :
    ([piece].mapM expandHostListSub).map List.flatten = some hosts := by
  have nothing : (([] : List Text).mapM expandHostListSub).map List.flatten = some [] := rfl
  rw [mapM_flatten_cons expanded nothing, List.append_nil]

theorem mapM_pieces (first : HostItem) (rest : List HostItem) :
    ((pieces first rest).mapM expandHostListSub).map List.flatten =
      some ((first :: rest).flatMap HostItem.expansion) := by
  induction rest generalizing first with
  | nil =>
    cases first with
    | plain name nonempty clean => exact mapM_flatten_singleton (HostItem.sub_render (.plain name nonempty clean))
    | ranged stem clean range more =>
      have fragment : expandHostListSub (stem ++ '[' :: between range more) = some [] :=
        sub_unclosed (fun member => (clean _ member).2.1 rfl) (notMem_between (by decide) rfl (by decide))
      have whole := mapM_flatten_singleton (HostItem.sub_render (.ranged stem clean range more))
      rw [pieces, mapM_flatten_cons fragment whole, List.nil_append, List.flatMap_singleton]
  | cons next rest ih =>
    cases first with
    | plain name nonempty clean =>
      rw [pieces]
      cases bracketed : (next :: rest).any HostItem.isRanged with
      | true => exact mapM_flatten_cons (HostItem.sub_render (.plain name nonempty clean)) (ih next)
      | false =>
        have names := mapM_flatten_singleton (sub_names bracketed (by simp))
        exact mapM_flatten_cons (HostItem.sub_render (.plain name nonempty clean)) names
    | ranged stem clean range more =>
      exact mapM_flatten_cons (HostItem.sub_render (.ranged stem clean range more)) (ih next)

end Items

/-- The expansion of a list of items is that of the items, in order. -/
theorem expandHostList_joined (first : HostItem) (rest : List HostItem) :
    expandHostList (joined ((first :: rest).map HostItem.render)) =
      some ((first :: rest).flatMap HostItem.expansion) := by
  rw [expandHostList, splitOnCommas_joined]
  exact mapM_pieces first rest

end DEFw.Hosts
