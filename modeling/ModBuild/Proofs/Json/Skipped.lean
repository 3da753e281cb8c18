import ModBuild.Proofs.Json.Numbers
import ModBuild.Proofs.Json.Strings

/-!
# `ModBuild.Proofs.Json.Skipped`: documents that nobody asks for are taken off

Documents are written without blanks, and no document starts with a comma or with a bracket that
closes. The reader of `skipped` takes a document off in steps, with the brackets that are open on a
stack of its own, and it takes no more than two steps for each character. The theorems:

* `compact_head`: how documents start.
* `taken_parts`: brackets are taken off if each part between them is.
* `taken_value`: every document is taken off, by induction on the document.
* `skipped_compact`: so a limit of the length of the text is enough.
-/

set_option autoImplicit false

namespace ModBuild.Proofs.Json

open ModBuild ModBuild.Json

/-! ### What is written -/

/-- What follows a document between brackets, or at the end of a text. -/
def EndsValue (rest : List Char) : Prop :=
  ∀ c ∈ rest.head?, c = ',' ∨ c = ']' ∨ c = '\x7d'

/-- What ends a value ends a number. -/
theorem EndsValue.endsNumber {rest : List Char} (h : EndsValue rest) : EndsNumber rest := by
  intro c hc
  rcases h c hc with rfl | rfl | rfl <;> decide

/-- Elements are written one by one. -/
theorem compactItems_eq_map (items : List Value) : compactItems items = items.map Value.compact := by
  induction items with
  | nil => rfl
  | cons item items ih => rw [compactItems, ih, List.map_cons]

/-- A member of an object as it is written. -/
def memberText (member : String × Value) : List Char :=
  stringText member.1 ++ ':' :: member.2.compact

/-- Members are written one by one. -/
theorem compactMembers_eq_map (members : List (String × Value)) :
    compactMembers members = members.map memberText := by
  induction members with
  | nil => rfl
  | cons member members ih => rw [compactMembers, ih, List.map_cons, memberText]

/-- What stands in front of a part between brackets: a comma, unless it is the first. -/
def separator (first : Bool) : List Char :=
  if first then [] else [',']

/-- Parts between brackets, each behind its separator. -/
def separated (first : Bool) : List (List Char) → List Char
  | [] => []
  | part :: parts => separator first ++ (part ++ separated false parts)

/-- Both ways to put commas between parts give one text. -/
theorem commaSeparated_eq_separated (parts : List (List Char)) :
    commaSeparated parts = separated true parts := by
  induction parts with
  | nil => rfl
  | cons part parts ih =>
    cases parts with
    | nil => exact (List.append_nil part).symm
    | cons next parts =>
      rw [commaSeparated, ih]
      · rfl
      · exact List.cons_ne_nil next parts

/-- What follows a part is the next comma or the bracket that closes. -/
theorem endsValue_separated (parts : List (List Char)) (bracket : Bracket) (rest : List Char) :
    EndsValue (separated false parts ++ closingOf bracket :: rest) := by
  intro c hc
  cases parts with
  | nil =>
    cases hc
    cases bracket with
    | list => exact .inr (.inl rfl)
    | object => exact .inr (.inr rfl)
  | cons part parts =>
    cases hc
    exact .inl rfl

/-- A digit is none of the characters that are not digits. -/
theorem ne_of_isDigit {c d : Char} (hc : Text.isDigit c = true) (hd : Text.isDigit d = false) :
    c ≠ d := by
  rintro rfl
  rw [hc] at hd
  cases hd

/-- A digit is no blank. -/
theorem isBlank_of_isDigit {c : Char} (h : Text.isDigit c = true) : isBlank c = false := by
  have hne {d : Char} (hd : Text.isDigit d = false) : c ≠ d := ne_of_isDigit h hd
  simp only [isBlank, hne (d := ' ') rfl, hne (d := '\n') rfl, hne (d := '\t') rfl,
    hne (d := '\r') rfl, decide_false, Bool.or_false]

/-- What is written for a number starts with a digit or a sign. -/
theorem number_head (n : Json.Number) : ∃ c s, n.text.toList = c :: s ∧
    (Text.isDigit c = true ∨ c = '-') := by
  obtain ⟨whole, fraction, exponent, hform, htext | htext⟩ := text_number n
  · obtain ⟨hne, hall⟩ := hform.whole_digits
    cases whole with
    | nil => exact absurd rfl hne
    | cons c whole => exact ⟨c, _, htext, .inl (hall c List.mem_cons_self)⟩
  · exact ⟨_, _, htext, .inr rfl⟩

/-- A document starts neither with a blank nor with a bracket that closes. -/
theorem compact_head (v : Value) :
    ∃ c s, v.compact = c :: s ∧ isBlank c = false ∧ c ≠ ']' ∧ c ≠ '\x7d' := by
  cases v with
  | null => exact ⟨'n', ['u', 'l', 'l'], rfl, by decide, by decide, by decide⟩
  | bool b =>
    cases b with
    | true => exact ⟨'t', ['r', 'u', 'e'], rfl, by decide, by decide, by decide⟩
    | false => exact ⟨'f', ['a', 'l', 's', 'e'], rfl, by decide, by decide, by decide⟩
  | string s => exact ⟨_, _, rfl, by decide, by decide, by decide⟩
  | array items => exact ⟨_, _, rfl, by decide, by decide, by decide⟩
  | object members => exact ⟨_, _, rfl, by decide, by decide, by decide⟩
  | number n =>
    obtain ⟨c, s, htext, hc | rfl⟩ := number_head n
    · exact ⟨c, s, htext, isBlank_of_isDigit hc, ne_of_isDigit hc rfl, ne_of_isDigit hc rfl⟩
    · exact ⟨_, s, htext, by decide, by decide, by decide⟩

/-- In front of what is no blank there is nothing to skip. -/
theorem skipBlanks_cons {c : Char} (h : isBlank c = false) (s : List Char) :
    skipBlanks (c :: s) = c :: s :=
  List.dropWhile_cons_of_neg (by simp [h])

/-! ### Documents without brackets -/

/-- A word is taken off where it is written. -/
theorem word_append (letters rest : List Char) : word letters (letters ++ rest) = .ok rest := by
  induction letters with
  | nil => rfl
  | cons c letters ih => rw [List.cons_append, word, if_pos rfl, ih]

/-- What starts with a digit is passed over as a number. -/
theorem skippedScalar_digit {c : Char} (hc : Text.isDigit c = true) (s : List Char) :
    skippedScalar (c :: s) = (skippedNumber (c :: s)).map (none, ·) := by
  unfold skippedScalar
  rw [skipBlanks_cons (isBlank_of_isDigit hc)]
  split
  case h_9 heq =>
    cases heq
    rw [if_pos hc]
    cases skippedNumber (c :: s) <;> rfl
  -- No other document starts with a digit.
  all_goals
    rename_i heq
    cases heq
  all_goals exact absurd hc (by decide)

/-- A number is taken off with its sign. -/
theorem skippedScalar_number (n : Number) {rest : List Char} (hrest : EndsNumber rest) :
    skippedScalar (n.text.toList ++ rest) = .ok (none, rest) := by
  obtain ⟨whole, fraction, exponent, hform, htext⟩ := text_number n
  have hskip := skippedNumber_text hform hrest
  rcases htext with htext | htext
  · rw [htext, List.append_assoc, List.append_assoc]
    obtain ⟨hne, hall⟩ := hform.whole_digits
    cases whole with
    | nil => exact absurd rfl hne
    | cons c whole =>
      have hc := hall c List.mem_cons_self
      rw [List.cons_append, skippedScalar_digit hc, ← List.cons_append, hskip]
      rfl
  · rw [htext, List.cons_append, List.append_assoc, List.append_assoc]
    show (skippedNumber _ >>= fun s => _) = _
    rw [hskip]
    rfl

/-- A document without brackets. -/
def IsScalar : Value → Prop
  | .array _ | .object _ => False
  | _ => True

/-- A value without parts is passed over as it is written. -/
theorem skippedScalar_compact {v : Value} (hv : IsScalar v) {rest : List Char}
    (hrest : EndsValue rest) : skippedScalar (v.compact ++ rest) = .ok (none, rest) := by
  cases v with
  | null =>
    -- Of a word the first letter is read already when the rest of it is compared.
    show (word _ (['u', 'l', 'l'] ++ rest) >>= fun s => _) = _
    rw [word_append]
    rfl
  | bool b =>
    cases b with
    | true =>
      show (word _ (['r', 'u', 'e'] ++ rest) >>= fun s => _) = _
      rw [word_append]
      rfl
    | false =>
      show (word _ (['a', 'l', 's', 'e'] ++ rest) >>= fun s => _) = _
      rw [word_append]
      rfl
  | number n => exact skippedScalar_number n hrest.endsNumber
  | string s =>
    show (skippedString ((s.toList.flatMap escaped ++ ['"']) ++ rest) >>= fun s => _) = _
    rw [List.append_assoc, List.singleton_append, skippedString_written]
    rfl
  | array items => exact hv.elim
  | object members => exact hv.elim

/-! ### Brackets -/

/-- What the reader does behind a document, inside the given brackets. -/
def skippedBehind (limit : Nat) (outer : List Bracket) (s : List Char) :
    Except Fault (List Char) :=
  match outer with
  | bracket :: outer => skippedFrom limit (.inside bracket outer false) s
  | [] => .ok s

/-- Takes off what stands in front of the document in a part between brackets. -/
def skippedName (bracket : Bracket) (s : List Char) : Except Fault (List Char) :=
  match bracket with
  | .list => .ok s
  | .object => skippedKey s

section Steps

variable {limit : Nat} {bracket : Bracket} {outer : List Bracket} {first : Bool} {s : List Char}

/-- Behind a value without parts, the skip goes on in the brackets around it. -/
theorem skippedFrom_scalar {rest : List Char} (h : skippedScalar s = .ok (none, rest)) :
    skippedFrom (limit + 1) (.atValue outer) s = skippedBehind limit outer rest := by
  rw [skippedFrom, h]
  cases outer <;> rfl

/-- An opening bracket is one more bracket around what follows. -/
theorem skippedFrom_opening {rest : List Char} (h : skippedScalar s = .ok (some bracket, rest)) :
    skippedFrom (limit + 1) (.atValue outer) s =
      skippedFrom limit (.inside bracket outer true) rest := by
  rw [skippedFrom, h]
  cases outer <;> rfl

/-- A closing bracket ends the innermost of the open ones. -/
theorem skippedFrom_closing :
    skippedFrom (limit + 1) (.inside bracket outer first) (closingOf bracket :: s) =
      skippedBehind limit outer s := by
  have hblank : isBlank (closingOf bracket) = false := by cases bracket <;> decide
  simp only [skippedFrom, skipBlanks_cons hblank, if_pos]
  cases outer <;> rfl

/-- A part is passed over by its name, if it has one, and then by its value. -/
theorem skippedFrom_part {c : Char} (hblank : isBlank c = false) (hc : c ≠ closingOf bracket) :
    skippedFrom (limit + 1) (.inside bracket outer first) (separator first ++ c :: s) =
      skippedName bracket (c :: s) >>= skippedFrom limit (.atValue (bracket :: outer)) := by
  cases first with
  | true =>
    show skippedFrom (limit + 1) _ (c :: s) = _
    simp only [skippedFrom, skipBlanks_cons hblank, if_neg hc, if_pos]
    cases bracket <;> rfl
  | false =>
    have hcomma : ',' ≠ closingOf bracket := by cases bracket <;> decide
    show skippedFrom (limit + 1) _ (',' :: c :: s) = _
    simp only [skippedFrom, skipBlanks_cons (c := ',') rfl, if_neg hcomma, Bool.false_eq_true,
      if_false, if_pos]
    cases bracket <;> rfl

end Steps

/-- A document is taken off, in at most two steps for each character. -/
def IsTaken (v : Value) : Prop :=
  ∃ steps ≤ 2 * v.compact.length, ∀ limit outer rest, EndsValue rest →
    skippedFrom (steps + limit) (.atValue outer) (v.compact ++ rest) =
      skippedBehind limit outer rest

/-- A part between brackets starts as a document does, and what stands in front of its document is
taken off as well. -/
structure IsPart (bracket : Bracket) (part : List Char) : Prop where
  head : ∃ c s, part = c :: s ∧ isBlank c = false ∧ c ≠ closingOf bracket
  taken : ∃ steps ≤ 2 * part.length, ∀ limit outer rest, EndsValue rest →
    (skippedName bracket (part ++ rest) >>= skippedFrom (steps + limit) (.atValue outer)) =
      skippedBehind limit outer rest

/-- The items of a list are such parts. -/
theorem isPart_item {v : Value} (h : IsTaken v) : IsPart .list v.compact := by
  obtain ⟨c, s, hcompact, hblank, hc, -⟩ := compact_head v
  exact ⟨⟨c, s, hcompact, hblank, hc⟩, h⟩

/-- The name of a member is passed over as it is written. -/
theorem skippedKey_written (name : String) (s : List Char) :
    skippedKey (stringText name ++ ':' :: s) = .ok s := by
  show (skippedString ((name.toList.flatMap escaped ++ ['"']) ++ ':' :: s) >>= colon) = _
  rw [List.append_assoc, List.singleton_append, skippedString_written]
  rfl

/-- The members of an object are. -/
theorem isPart_member {member : String × Value} (h : IsTaken member.2) :
    IsPart .object (memberText member) := by
  obtain ⟨steps, hsteps, htaken⟩ := h
  refine ⟨⟨'"', _, rfl, by decide, by decide⟩, steps, ?_, fun limit outer rest hrest => ?_⟩
  · simp only [memberText, List.length_append, List.length_cons]
    omega
  · show (skippedKey (memberText member ++ rest) >>= _) = _
    rw [memberText, List.append_assoc, List.cons_append, skippedKey_written]
    exact htaken limit outer rest hrest

/-- Brackets are taken off if each part between them is. -/
theorem taken_parts {bracket : Bracket} {parts : List (List Char)}
    (h : ∀ part ∈ parts, IsPart bracket part) (first : Bool) :
    ∃ steps, steps + (separator first).length ≤ 2 * (separated first parts).length + 2 ∧
      ∀ limit outer rest,
        skippedFrom (steps + limit) (.inside bracket outer first)
            (separated first parts ++ closingOf bracket :: rest) =
          skippedBehind limit outer rest := by
  -- By induction on the parts, with `first` general: only the parts behind it have a comma. The
  -- comma pays for the step that goes from the bracket to the part, which the first part has to pay.
  induction parts generalizing first with
  | nil =>
    refine ⟨1, ?_, fun limit outer rest => ?_⟩
    · cases first <;> decide
    · rw [Nat.add_comm 1 limit]
      exact skippedFrom_closing
  | cons part parts ih =>
    obtain ⟨hpart, hparts⟩ := List.forall_mem_cons.mp h
    obtain ⟨steps, hsteps, htaken⟩ := hpart.taken
    obtain ⟨more, hmore, hrest⟩ := ih hparts false
    obtain ⟨c, s, rfl, hblank, hc⟩ := hpart.head
    refine ⟨steps + more + 1, ?_, fun limit outer rest => ?_⟩
    · have hcomma : (separator false).length = 1 := rfl
      simp only [separated, List.length_append]
      omega
    · rw [show steps + more + 1 + limit = steps + (more + limit) + 1 by omega, separated,
        List.append_assoc, List.append_assoc, List.cons_append, skippedFrom_part hblank hc,
        ← List.cons_append, htaken _ _ _ (endsValue_separated parts bracket rest)]
      exact hrest limit outer rest

/-- A document with brackets is taken off with what is between them. -/
theorem taken_brackets {bracket : Bracket} {parts : List (List Char)}
    (h : ∀ part ∈ parts, IsPart bracket part) {v : Value} {opening : Char}
    (hcompact : v.compact = opening :: (commaSeparated parts ++ [closingOf bracket]))
    (hopening : ∀ s, skippedScalar (opening :: s) = .ok (some bracket, s)) : IsTaken v := by
  obtain ⟨steps, hsteps, htaken⟩ := taken_parts h true
  rw [commaSeparated_eq_separated] at hcompact
  refine ⟨steps + 1, ?_, fun limit outer rest _ => ?_⟩
  · simp only [hcompact, List.length_append, List.length_cons]
    omega
  · rw [show steps + 1 + limit = steps + limit + 1 by omega, hcompact, List.cons_append,
      List.append_assoc, skippedFrom_opening (hopening _)]
    exact htaken limit outer rest

/-- A value without parts is taken off as it is written. -/
theorem taken_scalar {v : Value} (hv : IsScalar v) : IsTaken v := by
  obtain ⟨c, s, hcompact, -⟩ := compact_head v
  refine ⟨1, ?_, fun limit outer rest hrest => ?_⟩
  · rw [hcompact, List.length_cons]
    omega
  · rw [Nat.add_comm 1 limit]
    exact skippedFrom_scalar (skippedScalar_compact hv hrest)

/-- A list is taken off as it is written, if its elements are. -/
theorem taken_array {items : List Value} (h : ∀ v ∈ items, IsTaken v) : IsTaken (.array items) := by
  have hparts : ∀ part ∈ compactItems items, IsPart .list part := by
    intro part hpart
    rw [compactItems_eq_map] at hpart
    obtain ⟨v, hv, rfl⟩ := List.mem_map.mp hpart
    exact isPart_item (h v hv)
  exact taken_brackets hparts rfl fun _ => rfl

/-- An object is taken off as it is written, if its members are. -/
theorem taken_object {members : List (String × Value)} (h : ∀ m ∈ members, IsTaken m.2) :
    IsTaken (.object members) := by
  have hparts : ∀ part ∈ compactMembers members, IsPart .object part := by
    intro part hpart
    rw [compactMembers_eq_map] at hpart
    obtain ⟨m, hm, rfl⟩ := List.mem_map.mp hpart
    exact isPart_member (h m hm)
  exact taken_brackets hparts rfl fun _ => rfl

/-! ### Documents of any depth -/

mutual

/-- Every document is taken off. -/
theorem taken_value : ∀ v : Value, IsTaken v
  | .null => taken_scalar trivial
  | .bool _ => taken_scalar trivial
  | .number _ => taken_scalar trivial
  | .string _ => taken_scalar trivial
  | .array items => taken_array (taken_items items)
  | .object members => taken_object (taken_members members)

/-- The elements of a list are taken off as they are written. -/
theorem taken_items : ∀ items : List Value, ∀ v ∈ items, IsTaken v
  | [] => fun _ hv => absurd hv List.not_mem_nil
  | item :: items => List.forall_mem_cons.mpr ⟨taken_value item, taken_items items⟩

/-- The members of an object are taken off as they are written. -/
theorem taken_members : ∀ members : List (String × Value), ∀ m ∈ members, IsTaken m.2
  | [] => fun _ hm => absurd hm List.not_mem_nil
  | (_, v) :: members => List.forall_mem_cons.mpr ⟨taken_value v, taken_members members⟩

end

/-- A limit of the length of the text is enough to take a document off. -/
theorem skipped_compact {limit : Nat} {v : Value} (hlimit : v.compact.length ≤ limit)
    {rest : List Char} (hrest : EndsValue rest) :
    skipped limit (v.compact ++ rest) = .ok rest := by
  obtain ⟨steps, hsteps, htaken⟩ := taken_value v
  unfold skipped
  rw [show 2 * limit + 2 = steps + (2 * limit + 2 - steps) by omega]
  exact htaken _ _ _ hrest

end ModBuild.Proofs.Json
