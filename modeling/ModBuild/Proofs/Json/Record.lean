import Mathlib.Data.List.Nodup
import ModBuild.Json.Record
import ModBuild.Proofs.Json.Skipped

/-!
# `ModBuild.Proofs.Json.Record`: lists and records that are written are read back

A record is read from an object with its fields in any order and with members of other names among
them. `Widens` is the relation between an object and such a wider one. The state of the reader is a
draft that depends on the names it has seen: `ReadsMembers` says so of each known member, and
`membersOnto_written` carries it through all members, last name first.

The theorems:

* `listOf_written`: a list is read back if its items are.
* `membersOnto_written`: the draft behind the members of an object.
* `record_widened`: a record is read from a wider object.
* `whole_written`: a text is read from its start to its end.
-/

set_option autoImplicit false

namespace ModBuild.Proofs.Json

open ModBuild ModBuild.Json

/-! ### Lengths -/

/-- Parts with commas between them are at least as long as each part. -/
theorem length_le_separated {parts : List (List Char)} {part : List Char} (h : part ∈ parts)
    (first : Bool) : part.length ≤ (separated first parts).length := by
  induction parts generalizing first with
  | nil => exact absurd h List.not_mem_nil
  | cons next parts ih =>
    simp only [separated, List.length_append]
    rcases List.mem_cons.mp h with rfl | h
    · omega
    · have hrest := ih h false
      omega

/-- Parts that are not empty take at least one character each. -/
theorem count_le_separated {parts : List (List Char)} (h : ∀ part ∈ parts, part ≠ [])
    (first : Bool) : parts.length ≤ (separated first parts).length := by
  induction parts generalizing first with
  | nil => exact Nat.zero_le _
  | cons part parts ih =>
    obtain ⟨hpart, hparts⟩ := List.forall_mem_cons.mp h
    have hpos := List.length_pos_iff.mpr hpart
    have hrest := ih hparts false
    simp only [separated, List.length_append, List.length_cons]
    omega

/-- A list is written as its elements in brackets, with commas between them. -/
theorem compact_array (items : List Value) :
    (Value.array items).compact = '[' :: (separated true (items.map Value.compact) ++ [']']) := by
  rw [Value.compact, commaSeparated_eq_separated, compactItems_eq_map]

/-- An object is written as its members in braces, with commas between them. -/
theorem compact_object (members : List (String × Value)) :
    (Value.object members).compact =
      '\x7b' :: (separated true (members.map memberText) ++ ['\x7d']) := by
  rw [Value.compact, commaSeparated_eq_separated, compactMembers_eq_map]

/-- A member of an object is shorter than the object. -/
theorem length_lt_object {members : List (String × Value)} {m : String × Value}
    (hm : m ∈ members) : m.2.compact.length < (Value.object members).compact.length := by
  have hle := length_le_separated (List.mem_map_of_mem (f := memberText) hm) true
  simp only [memberText, List.length_append, List.length_cons] at hle
  simp only [compact_object, List.length_cons, List.length_append]
  omega

/-- An element of a list is shorter than the list. -/
theorem length_lt_array {items : List Value} {v : Value} (hv : v ∈ items) :
    v.compact.length < (Value.array items).compact.length := by
  have hle := length_le_separated (List.mem_map_of_mem (f := Value.compact) hv) true
  simp only [compact_array, List.length_cons, List.length_append]
  omega

/-- An object has fewer members than characters. -/
theorem count_lt_object (members : List (String × Value)) :
    members.length < (Value.object members).compact.length := by
  have hne : ∀ part ∈ members.map memberText, part ≠ [] := by
    intro part hpart
    obtain ⟨m, -, rfl⟩ := List.mem_map.mp hpart
    exact List.cons_ne_nil _ _
  have hle := count_le_separated hne true
  rw [List.length_map] at hle
  simp only [compact_object, List.length_cons, List.length_append]
  omega

/-- A list has fewer elements than characters. -/
theorem count_lt_array (items : List Value) :
    items.length < (Value.array items).compact.length := by
  have hne : ∀ part ∈ items.map Value.compact, part ≠ [] := by
    intro part hpart
    obtain ⟨v, -, rfl⟩ := List.mem_map.mp hpart
    obtain ⟨c, s, hcompact, -⟩ := compact_head v
    rw [hcompact]
    exact List.cons_ne_nil c s
  have hle := count_le_separated hne true
  rw [List.length_map] at hle
  simp only [compact_array, List.length_cons, List.length_append]
  omega

/-! ### Lists -/

/-- An element is next where one is written, with its comma if it is not the first. -/
theorem nextItem_part {c : Char} (hblank : isBlank c = false) (hc : c ≠ ']') (first : Bool)
    (s : List Char) : nextItem first (separator first ++ c :: s) = .ok (true, c :: s) := by
  -- The first element has no comma in front, and every other one has.
  cases first with
  | true =>
    show nextItem true (c :: s) = _
    unfold nextItem
    rw [skipBlanks_cons hblank]
    split
    case h_2 heq => exact absurd (List.cons.inj heq).1 hc
    case h_3 heq => rw [heq]; rfl
    case h_4 => rfl
    case h_1 heq => cases heq
  | false =>
    show nextItem false (',' :: c :: s) = _
    unfold nextItem
    rw [skipBlanks_cons (c := ',') rfl]
    simp only [Bool.false_eq_true, if_false]
    rw [skipBlanks_cons hblank]
    split
    case h_1 heq => cases heq
    case h_2 heq => exact absurd (List.cons.inj heq).1 hc
    case h_3 => rfl

/-- The items are read back behind those that were read before. -/
theorem itemsOnto_written {α : Type} {item : List Char → Except Fault (α × List Char)}
    {items : List α} {values : List Value}
    (h : List.Forall₂ (fun a (v : Value) => ∀ rest, EndsValue rest →
      item (v.compact ++ rest) = .ok (a, rest)) items values)
    {limit : Nat} (hlimit : values.length < limit) (read : List α) (rest : List Char) :
    itemsOnto item limit read (separated read.isEmpty (values.map Value.compact) ++ ']' :: rest) =
      .ok (read.reverse ++ items, rest) := by
  -- The items read before stay general: whether a comma is due depends on them.
  induction h generalizing limit read with
  | nil =>
    cases limit with
    | zero => exact absurd hlimit (Nat.not_lt_zero _)
    | succ limit =>
      rw [List.append_nil]
      rfl
  | @cons a v items values hitem _ ih =>
    cases limit with
    | zero => exact absurd hlimit (Nat.not_lt_zero _)
    | succ limit =>
      obtain ⟨c, s, hcompact, hblank, hc, -⟩ := compact_head v
      have hends : EndsValue (separated false (values.map Value.compact) ++ ']' :: rest) :=
        endsValue_separated _ .list rest
      have hrest := ih (Nat.lt_of_succ_lt_succ hlimit) (a :: read)
      rw [List.map_cons, separated, List.append_assoc, List.append_assoc, itemsOnto, hcompact,
        List.cons_append, nextItem_part hblank hc, ← List.cons_append, ← hcompact]
      show (item (v.compact ++ _) >>= fun r => itemsOnto item limit (r.1 :: read) r.2) = _
      rw [hitem _ hends]
      show itemsOnto item limit (a :: read) _ = _
      rw [List.isEmpty_cons] at hrest
      rw [hrest, List.reverse_cons, List.append_assoc]
      rfl

/-- A list is read back if its items are. -/
theorem listOf_written {α : Type} {item : List Char → Except Fault (α × List Char)}
    {items : List α} {values : List Value}
    (h : List.Forall₂ (fun a (v : Value) => ∀ rest, EndsValue rest →
      item (v.compact ++ rest) = .ok (a, rest)) items values)
    {limit : Nat} (hlimit : (Value.array values).compact.length < limit) (rest : List Char) :
    listOf limit item ((Value.array values).compact ++ rest) = .ok (items, rest) := by
  rw [compact_array, List.cons_append, List.append_assoc]
  exact itemsOnto_written h (Nat.lt_trans (count_lt_array values) hlimit) [] rest

/-! ### Members of an object -/

/-- A name is next where a quote is written, with its comma if it is not the first. -/
theorem nextKey_quote (first : Bool) (s : List Char) :
    nextKey first (separator first ++ '"' :: s) =
      (stringBody s).map fun (name, s) => (some name, s) := by
  cases first with
  | true =>
    show (stringBody s >>= fun r => _) = _
    cases stringBody s <;> rfl
  | false =>
    show (stringBody s >>= fun r => _) = _
    cases stringBody s <;> rfl

/-- The name of a member is next where the member is written. -/
theorem nextKey_member (first : Bool) (m : String × Value) (s : List Char) :
    nextKey first (separator first ++ (memberText m ++ s)) =
      .ok (some m.1, ':' :: (m.2.compact ++ s)) := by
  have htext : memberText m ++ s =
      '"' :: (m.1.toList.flatMap escaped ++ '"' :: ':' :: (m.2.compact ++ s)) := by
    simp [memberText, stringText]
  rw [htext, nextKey_quote, stringBody_written]
  rfl

/-- An object with the members of another in any order, among further members whose names are not
among the given ones. -/
inductive Widens (names : List String) : Value → Value → Prop where
  | intro {known members : List (String × Value)} (extra : List (String × Value))
      (hextra : ∀ m ∈ extra, m.1 ∉ names) (hperm : members.Perm (known ++ extra)) :
      Widens names (.object known) (.object members)

/-- A known member is shorter than the wider object. -/
theorem length_lt_of_widens {names : List String} {known : List (String × Value)} {v : Value}
    (h : Widens names (.object known) v) {m : String × Value} (hm : m ∈ known) :
    m.2.compact.length < v.compact.length := by
  cases h with
  | intro extra hextra hperm =>
    exact length_lt_object (hperm.mem_iff.mpr (List.mem_append_left _ hm))

section Record

variable {σ : Type}

/-- The known members are read as fields into a draft, which depends on the names of the members
seen before, last name first. -/
structure ReadsMembers (fields : List (RecordField σ)) (limit : Nat)
    (known : List (String × Value)) (draftOf : List String → σ) : Prop where
  nodup : (known.map (·.1)).Nodup
  member : ∀ m ∈ known, ∃ field, fields.find? (·.name = m.1) = some field ∧
    (∀ seen, m.1 ∉ seen → field.isSet (draftOf seen) = false) ∧
    ∀ seen rest, EndsValue rest →
      field.read limit (draftOf seen) (m.2.compact ++ rest) = .ok (draftOf (m.1 :: seen), rest)
  /-- No field is missing when all known members are there. -/
  complete : ∀ seen, (∀ m ∈ known, m.1 ∈ seen) →
    fields.find? (fun field => !field.optional && !field.isSet (draftOf seen)) = none

/-- The names of the members that are read as fields. -/
def fieldNames (fields : List (RecordField σ)) (members : List (String × Value)) : List String :=
  (members.map (·.1)).filter (· ∈ fields.map (·.name))

variable {fields : List (RecordField σ)} {limit : Nat} {known members : List (String × Value)}
  {draftOf : List String → σ}

/-- A member that a field reads counts among the fields that were read. -/
theorem fieldNames_cons_field {m : String × Value} (h : m.1 ∈ fields.map (·.name)) :
    fieldNames fields (m :: members) = m.1 :: fieldNames fields members := by
  rw [fieldNames, List.map_cons, List.filter_cons, if_pos (decide_eq_true h), fieldNames]

/-- A member that no field reads does not count. -/
theorem fieldNames_cons_other {m : String × Value} (h : m.1 ∉ fields.map (·.name)) :
    fieldNames fields (m :: members) = fieldNames fields members := by
  rw [fieldNames, List.map_cons, List.filter_cons, if_neg (by rwa [decide_eq_true_eq]), fieldNames]

/-- A member that a field reads is stored in the draft. -/
theorem recordMember_known (h : ReadsMembers fields limit known draftOf) {m : String × Value}
    (hm : m ∈ known) {seen : List String} (hseen : m.1 ∉ seen) {rest : List Char}
    (hrest : EndsValue rest) :
    recordMember fields limit (draftOf seen) m.1 (':' :: (m.2.compact ++ rest)) =
      .ok (draftOf (m.1 :: seen), rest) := by
  obtain ⟨field, hfind, hset, hread⟩ := h.member m hm
  unfold recordMember
  rw [hfind]
  simp only [hset seen hseen, Bool.false_eq_true, if_false]
  exact hread seen rest hrest

/-- A member that no field reads is passed over. -/
theorem recordMember_other {m : String × Value} (hm : m.1 ∉ fields.map (·.name))
    (hlimit : m.2.compact.length ≤ limit) (draft : σ) {rest : List Char}
    (hrest : EndsValue rest) :
    recordMember fields limit draft m.1 (':' :: (m.2.compact ++ rest)) = .ok (draft, rest) := by
  have hfind : fields.find? (·.name = m.1) = none := by
    rw [List.find?_eq_none]
    intro field hfield hname
    exact hm (List.mem_map.mpr ⟨field, hfield, of_decide_eq_true hname⟩)
  unfold recordMember
  rw [hfind]
  show (skipped limit (m.2.compact ++ rest) >>= fun s => pure (draft, s)) = _
  rw [skipped_compact hlimit hrest]
  rfl

/-- The draft behind the members of an object: each known member is read once, the others leave the
draft as it is. -/
theorem membersOnto_written (h : ReadsMembers fields limit known draftOf)
    (hmembers : ∀ m ∈ members, m ∈ known ∨ m.1 ∉ fields.map (·.name))
    (hlimit : ∀ m ∈ members, m.2.compact.length ≤ limit) {seen : List String}
    (hnodup : (seen ++ fieldNames fields members).Nodup) {count : Nat}
    (hcount : members.length < count) (first : Bool) (rest : List Char) :
    membersOnto (recordMember fields limit) count first (draftOf seen)
        (separated first (members.map memberText) ++ '\x7d' :: rest) =
      .ok (draftOf ((fieldNames fields members).reverse ++ seen), '\x7d' :: rest) := by
  -- By induction on the members. That no name of a field comes twice, among those seen and those to
  -- come, is what lets the draft take each member when its turn comes.
  induction members generalizing seen count first with
  | nil =>
    cases count with
    | zero => exact absurd hcount (Nat.not_lt_zero _)
    | succ count => rfl
  | cons m members ih =>
    cases count with
    | zero => exact absurd hcount (Nat.not_lt_zero _)
    | succ count =>
      obtain ⟨hm, hmembers⟩ := List.forall_mem_cons.mp hmembers
      obtain ⟨hlength, hlimit⟩ := List.forall_mem_cons.mp hlimit
      have hcount := Nat.lt_of_succ_lt_succ hcount
      have hends : EndsValue (separated false (members.map memberText) ++ '\x7d' :: rest) :=
        endsValue_separated _ .object rest
      rw [List.map_cons, separated, List.append_assoc, List.append_assoc, membersOnto,
        nextKey_member]
      by_cases hfield : m.1 ∈ fields.map (·.name)
      · rw [fieldNames_cons_field hfield] at hnodup ⊢
        have hknown := hm.resolve_right fun hother => hother hfield
        have hseen : m.1 ∉ seen := fun hmem =>
          (List.nodup_append.mp hnodup).2.2 _ hmem _ List.mem_cons_self rfl
        have hnodup : (m.1 :: seen ++ fieldNames fields members).Nodup :=
          List.nodup_middle.mp hnodup
        have hrest := ih hmembers hlimit hnodup hcount false
        show (recordMember fields limit (draftOf seen) m.1 (':' :: (m.2.compact ++ _)) >>= fun r =>
          membersOnto (recordMember fields limit) count false r.1 r.2) = _
        rw [recordMember_known h hknown hseen hends, List.reverse_cons, List.append_assoc]
        exact hrest
      · rw [fieldNames_cons_other hfield] at hnodup ⊢
        have hrest := ih hmembers hlimit hnodup hcount false
        show (recordMember fields limit (draftOf seen) m.1 (':' :: (m.2.compact ++ _)) >>= fun r =>
          membersOnto (recordMember fields limit) count false r.1 r.2) = _
        rw [recordMember_other hfield hlength _ hends]
        exact hrest

/-- The names of the known members are names of fields. -/
theorem ReadsMembers.mem_fields (h : ReadsMembers fields limit known draftOf) {m : String × Value}
    (hm : m ∈ known) : m.1 ∈ fields.map (·.name) := by
  obtain ⟨field, hfind, -⟩ := h.member m hm
  have hname : field.name = m.1 := by simpa using List.find?_some hfind
  rw [← hname]
  exact List.mem_map_of_mem (List.mem_of_find?_eq_some hfind)

/-- Of the members that fields read, all count. -/
theorem fieldNames_known (h : ReadsMembers fields limit known draftOf) :
    fieldNames fields known = known.map (·.1) := by
  refine List.filter_eq_self.mpr fun name hname => decide_eq_true ?_
  obtain ⟨m, hm, rfl⟩ := List.mem_map.mp hname
  exact h.mem_fields hm

/-- The names of the fields are seen once each, in whatever order the members stand. -/
theorem fieldNames_widened (h : ReadsMembers fields limit known draftOf)
    {extra : List (String × Value)} (hextra : ∀ m ∈ extra, m.1 ∉ fields.map (·.name))
    (hperm : members.Perm (known ++ extra)) :
    (fieldNames fields members).Perm (known.map (·.1)) := by
  -- No other member has the name of a field, and each known one has.
  have hother : fieldNames fields extra = [] := by
    refine List.filter_eq_nil_iff.mpr fun name hname => ?_
    obtain ⟨m, hm, rfl⟩ := List.mem_map.mp hname
    simpa using hextra m hm
  have happend : fieldNames fields (known ++ extra) = known.map (·.1) := by
    rw [← fieldNames_known h, ← List.append_nil (fieldNames fields known), ← hother]
    simp only [fieldNames, List.map_append, List.filter_append]
  rw [← happend]
  exact (hperm.map _).filter _

/-- A record is read from a wider object. -/
theorem record_widened (title : String) (h : ReadsMembers fields limit known draftOf) {v : Value}
    (hv : Widens (fields.map (·.name)) (.object known) v) (hlimit : v.compact.length < limit)
    (rest : List Char) :
    ∃ seen, (∀ m ∈ known, m.1 ∈ seen) ∧
      record title fields limit (draftOf []) (v.compact ++ rest) = .ok (draftOf seen, rest) := by
  cases hv with
  | @intro _ members extra hextra hperm =>
    have hnames := fieldNames_widened h hextra hperm
    have hmembers : ∀ m ∈ members, m ∈ known ∨ m.1 ∉ fields.map (·.name) := by
      intro m hm
      rcases List.mem_append.mp (hperm.mem_iff.mp hm) with hm | hm
      · exact .inl hm
      · exact .inr (hextra m hm)
    have hlengths : ∀ m ∈ members, m.2.compact.length ≤ limit := by
      intro m hm
      have hlt := length_lt_object hm
      omega
    -- Each field is read at most once, as no name is there twice.
    have hnodup : ([] ++ fieldNames fields members).Nodup := hnames.nodup_iff.mpr h.nodup
    have hcount := Nat.lt_trans (count_lt_object members) hlimit
    have hseen : ∀ m ∈ known, m.1 ∈ (fieldNames fields members).reverse ++ [] := by
      intro m hm
      rw [List.append_nil, List.mem_reverse, hnames.mem_iff]
      exact List.mem_map_of_mem hm
    have hrun := membersOnto_written h hmembers hlengths hnodup hcount true rest
    refine ⟨_, hseen, ?_⟩
    rw [compact_object, List.cons_append, List.append_assoc]
    show (membersOnto (recordMember fields limit) limit true (draftOf []) _ >>= fun r => _) = _
    rw [List.singleton_append, hrun]
    simp only [bind, Except.bind, h.complete _ hseen]
    rfl

end Record

/-- A text is read from its start to its end. -/
theorem whole_written {α : Type} {reader : Nat → List Char → Except Fault (α × List Char)}
    {text : String} {a : α}
    (h : reader (text.toList.length + 1) text.toList = .ok (a, [])) :
    whole reader text = .ok a := by
  unfold whole
  simp only [h]
  rfl

end ModBuild.Proofs.Json
