import ModBuild.Proofs.Json.Stops

/-!
# `ModBuild.Proofs.Json.Parts`: records are read from their parts

The parts of a list or of an object can be told without a look at what they are: everything is taken
off, and the text from the start of each part on is kept. A record says what its parts say under the
names of its fields, in whatever order they stand and whatever other parts there are. The theorems:

* `itemsOnto_starts` and `listOf_items`: the items of a list are read from its parts.
* `membersOnto_starts` and `recordItems_starts`: so are the fields of a record, from members or from
  items.
* `record_parts`: what each field keeps of a draft and the parts is so behind the record.
-/

set_option autoImplicit false

namespace ModBuild.Proofs.Json

open ModBuild ModBuild.Json

/-! ### Parts -/

/-- The text from the start of each part on, with the name of the part. The last one comes first. -/
abbrev Parts := List (String × List Char)

/-- Takes a document off and keeps the text from its start on. -/
def startOf (limit : Nat) (s : List Char) : Except Fault (List Char × List Char) :=
  (skipped limit s).map (s, ·)

/-- The items of a list. -/
def items? (limit : Nat) (s : List Char) : Option (List (List Char)) :=
  match skipBlanks s with
  | '[' :: s => (itemsOnto (startOf limit) limit [] s).toOption.map (·.1)
  | _ => none

/-- Takes a member off behind its name, and adds it to the parts before it. -/
def memberStart (limit : Nat) (parts : Parts) (name : String) (s : List Char) :
    Except Fault (Parts × List Char) := do
  let s ← colon s
  return ((name, s) :: parts, ← skipped limit s)

/-- The members of an object. -/
def members? (limit : Nat) (s : List Char) : Option Parts :=
  match skipBlanks s with
  | '\x7b' :: s => (membersOnto (memberStart limit) limit true [] s).toOption.map (·.1)
  | _ => none

/-- The parts of a record. The names belong to the items of a list in order. -/
def parts? (names : List String) (limit : Nat) (s : List Char) : Option Parts :=
  members? limit s <|> (items? limit s).map fun starts => (names.zip starts).reverse

/-! ### Items of a list -/

section Items

variable {limit : Nat} {s s' rest : List Char}

/-- To look for the next element makes no text longer. -/
theorem length_of_nextItem {first more : Bool} (h : nextItem first s = .ok (more, s')) :
    s'.length ≤ s.length := by
  have hle := length_skipBlanks_le s
  unfold nextItem at h
  split at h
  · cases h
  · rename_i heq
    cases h
    rwa [heq] at hle
  · -- With a comma the text is shorter by it, and the blanks behind it may go as well.
    rename_i behind heq
    rw [heq, List.length_cons] at hle
    split at h
    · cases h
      exact hle
    · have hbehind := length_skipBlanks_le behind
      split at h
      · cases h
      · cases h
      · cases h
        omega
  · split at h
    · cases h
      exact hle
    · cases h

/-- A value that is taken off within the limit is found to start where it does. -/
theorem startOf_of_takesOff (h : TakesOff (.atValue []) s rest) (hlimit : s.length < limit) :
    startOf limit s = .ok (s, rest) := by
  unfold startOf
  rw [skipped_of_takesOff h (Nat.le_of_lt hlimit)]
  rfl

section Starts

variable {count : Nat} {before : List (List Char)} {start left : List Char}

/-- An element that is taken off is one more of those found. -/
theorem itemsOnto_start (hnext : nextItem before.isEmpty s = .ok (true, start))
    (htaken : TakesOff (.atValue []) start left) (hstart : start.length < limit) :
    itemsOnto (startOf limit) (count + 1) before s =
      itemsOnto (startOf limit) count (start :: before) left := by
  rw [itemsOnto, hnext]
  show (startOf limit start >>= fun r => itemsOnto (startOf limit) count (r.1 :: before) r.2) = _
  rw [startOf_of_takesOff htaken hstart]
  rfl

/-- The closing bracket ends the elements that were found. -/
theorem itemsOnto_end (hnext : nextItem before.isEmpty s = .ok (false, start))
    (hend : listEnd start = .ok rest) :
    itemsOnto (startOf limit) (count + 1) before s = .ok (before.reverse, rest) := by
  rw [itemsOnto, hnext]
  show (listEnd start >>= fun s => .ok (before.reverse, s)) = _
  rw [hend]
  rfl

/-- Where there are no more items, none are taken off. -/
theorem itemsOnto_none {first : Bool} (hnext : nextItem first s = .ok (false, start))
    (hend : listEnd start = .ok rest) (many : Nat) (before : List (List Char))
    (hmany : s.length < many) (hbefore : before.isEmpty = first) :
    itemsOnto (startOf limit) many before s = .ok (before.reverse ++ [], rest) := by
  cases many with
  | zero => exact absurd hmany (Nat.not_lt_zero _)
  | succ many => rw [itemsOnto_end (by rw [hbefore, hnext]) hend, List.append_nil]

end Starts

section List

variable {α : Type} {item : List Char → Except Fault (α × List Char)}

/-- The items are read from the parts behind those that were taken off before. -/
theorem itemsOnto_starts
    (hitem : ∀ s a rest, s.length < limit → item s = .ok (a, rest) → TakesOff (.atValue []) s rest)
    {count : Nat} {read as : List α} (h : itemsOnto item count read s = .ok (as, rest))
    (hlimit : s.length < limit) (before : List (List Char))
    (hbefore : before.isEmpty = read.isEmpty) :
    TakesOff (.inside .list [] read.isEmpty) s rest ∧ ∃ more starts, as = read.reverse ++ more ∧
      itemsOnto (startOf limit) count before s = .ok (before.reverse ++ starts, rest) ∧
      List.Forall₂ (fun a start => start.length < limit ∧ ∃ left, item start = .ok (a, left))
        more starts := by
  -- What was read and what was taken off before stay general: all that counts is whether there was
  -- anything, since then a comma is due.
  induction count generalizing read before s with
  | zero => cases h
  | succ count ih =>
    rw [itemsOnto] at h
    obtain ⟨⟨more, start⟩, hnext, h⟩ := bind_eq_ok h
    have hstart : start.length < limit := Nat.lt_of_le_of_lt (length_of_nextItem hnext) hlimit
    have hsame : nextItem before.isEmpty s = .ok (more, start) := by rw [hbefore, hnext]
    cases more with
    | false =>
      obtain ⟨left, hend, hread⟩ := bind_eq_ok h
      cases hread
      refine ⟨takesOff_listEnd hnext hend, [], [], (List.append_nil _).symm, ?_, .nil⟩
      rw [itemsOnto_end hsame hend, List.append_nil]
    | true =>
      obtain ⟨⟨a, left⟩, hread, h⟩ := bind_eq_ok h
      have htaken := hitem start a left hstart hread
      have hshorter := htaken.shorter
      obtain ⟨hrest, more, starts, rfl, hstarts, hall⟩ :=
        ih h (by omega) (start :: before) rfl
      refine ⟨(hrest.behind htaken).item hnext, a :: more, start :: starts, ?_, ?_,
        .cons ⟨hstart, left, hread⟩ hall⟩
      · rw [List.reverse_cons, List.append_assoc]
        rfl
      · rw [itemsOnto_start hsame htaken hstart, hstarts, List.reverse_cons, List.append_assoc]
        rfl

/-- The items of a list are read from its parts. -/
theorem listOf_items
    (hitem : ∀ s a rest, s.length < limit → item s = .ok (a, rest) → TakesOff (.atValue []) s rest)
    {as : List α} (h : listOf limit item s = .ok (as, rest)) (hlimit : s.length < limit) :
    TakesOff (.atValue []) s rest ∧ ∃ starts, items? limit s = some starts ∧
      List.Forall₂ (fun a start => start.length < limit ∧ ∃ left, item start = .ok (a, left))
        as starts := by
  have hle := length_skipBlanks_le s
  unfold listOf at h
  split at h
  · cases h
  · rename_i behind heq
    rw [heq, List.length_cons] at hle
    -- The bracket is taken off first, so each item starts within the limit.
    obtain ⟨hrest, more, starts, rfl, hstarts, hall⟩ :=
      itemsOnto_starts hitem h (by omega) [] rfl
    refine ⟨hrest.list heq, starts, ?_, hall⟩
    unfold items?
    rw [heq]
    simp only [hstarts]
    rfl
  · cases h

end List

end Items

/-! ### Fields of a record -/

section Record

variable {σ : Type}

/-- A field that is read is taken off and set, and what the draft says then the parts say with one
part more. -/
structure KeepsField (fields : List (RecordField σ)) (Says : σ → Parts → Prop)
    (field : RecordField σ) (draft : σ) (s : List Char) (draft' : σ) (rest : List Char) : Prop where
  taken : TakesOff (.atValue []) s rest
  tells : ∀ parts, Says draft parts → Says draft' ((field.name, s) :: parts)
  isSet : field.isSet draft' = true
  stays : ∀ other ∈ fields, other.isSet draft = true → other.isSet draft' = true

/-- The fields of a record keep what a draft says as the parts say it. Other parts do not count. -/
structure KeepsParts (fields : List (RecordField σ)) (limit : Nat) (Says : σ → Parts → Prop) :
    Prop where
  field : ∀ field ∈ fields, ∀ draft s draft' rest, s.length < limit →
    field.read limit draft s = .ok (draft', rest) →
    KeepsField fields Says field draft s draft' rest
  other : ∀ draft parts name s, name ∉ fields.map (·.name) → Says draft parts →
    Says draft ((name, s) :: parts)

variable {fields : List (RecordField σ)} {limit : Nat} {Says : σ → Parts → Prop}
  {draft draft' : σ} {s s' rest : List Char}

/-- A member is read from its part, or does not count. -/
theorem recordMember_start (h : KeepsParts fields limit Says) {name : String}
    (hread : recordMember fields limit draft name s = .ok (draft', rest))
    (hlimit : ∀ start, colon s = .ok start → start.length < limit) :
    ∃ start, colon s = .ok start ∧ TakesOff (.atValue []) start rest ∧
      ∀ parts, Says draft parts → Says draft' ((name, start) :: parts) := by
  unfold recordMember at hread
  split at hread
  · rename_i field hfind
    have hname : field.name = name := by simpa using List.find?_some hfind
    subst hname
    split at hread
    · cases hread
    · obtain ⟨start, hcolon, hread⟩ := bind_eq_ok hread
      have hkeeps := h.field field (List.mem_of_find?_eq_some hfind) draft start draft' rest
        (hlimit start hcolon) hread
      exact ⟨start, hcolon, hkeeps.taken, hkeeps.tells⟩
  · rename_i hfind
    obtain ⟨start, hcolon, hread⟩ := bind_eq_ok hread
    obtain ⟨left, hskip, hsame⟩ := bind_eq_ok hread
    cases hsame
    -- A member that no field reads is passed over, and that is enough to find where it ends.
    have hname : name ∉ fields.map (·.name) := by
      simpa [List.find?_eq_none] using hfind
    exact ⟨start, hcolon, takesOff_of_skipped hskip,
      fun parts => h.other draft parts name start hname⟩

/-- The members of an object are read from its parts. -/
theorem membersOnto_starts (h : KeepsParts fields limit Says) {count : Nat} {first : Bool}
    (hread : membersOnto (recordMember fields limit) count first draft s = .ok (draft', s'))
    (hend : objectEnd s' = .ok rest) (hlimit : s.length < limit) {parts : Parts}
    (hparts : Says draft parts) :
    TakesOff (.inside .object [] first) s rest ∧ ∃ parts',
      membersOnto (memberStart limit) count first parts s = .ok (parts', s') ∧
        Says draft' parts' := by
  -- By induction on the limit of the members, which is the same for the draft and for the parts.
  -- What the draft says stays with the parts from one member to the next.
  induction count generalizing first draft s parts with
  | zero => cases hread
  | succ count ih =>
    rw [membersOnto] at hread ⊢
    obtain ⟨⟨key, behind⟩, hkey, hread⟩ := bind_eq_ok hread
    rw [hkey]
    cases key with
    | none =>
      cases hread
      exact ⟨takesOff_objectEnd hkey hend, parts, rfl, hparts⟩
    | some name =>
      obtain ⟨⟨next, left⟩, hmember, hread⟩ := bind_eq_ok hread
      have hshorter : ∀ start, colon behind = .ok start → start.length < limit := by
        intro start hcolon
        have hlength := length_of_nextPart (nextPart_of_nextKey hkey hcolon)
        have hle := Bool.toNat_le (true && first)
        omega
      obtain ⟨start, hcolon, htaken, htells⟩ := recordMember_start h hmember hshorter
      have hstart := hshorter start hcolon
      have hleft := htaken.shorter
      obtain ⟨hrest, parts', hothers, hdraft⟩ := ih hread (by omega) (htells parts hparts)
      refine ⟨(hrest.behind htaken).part (nextPart_of_nextKey hkey hcolon), parts', ?_, hdraft⟩
      have hmember : memberStart limit parts name behind = .ok ((name, start) :: parts, left) := by
        unfold memberStart
        rw [hcolon]
        show (skipped limit start >>= fun s => pure ((name, start) :: parts, s)) = _
        rw [skipped_of_takesOff htaken (Nat.le_of_lt hstart)]
        rfl
      show (memberStart limit parts name behind >>= fun r =>
        membersOnto (memberStart limit) count false r.1 r.2) = _
      rw [hmember]
      exact hothers

/-- Fields for which there are no items are left out. -/
theorem recordItems_closing {title : String} {later : List (RecordField σ)} {count : Nat}
    {first : Bool} (hclosing : nextItem first s = .ok (false, s'))
    {behind : List Char}
    (hread : recordItems title limit later count first draft s = .ok (draft', behind))
    (hend : listEnd behind = .ok rest) :
    draft' = draft ∧ listEnd s' = .ok rest ∧ ∀ field ∈ later, field.optional = true := by
  obtain ⟨left, heq, rfl⟩ := nextItem_closing hclosing
  -- The closing bracket stays where it is, so each field behind finds the same text.
  induction later generalizing s count with
  | nil =>
    cases hread
    refine ⟨rfl, ?_, nofun⟩
    unfold listEnd at hend
    rw [heq] at hend
    exact hend
  | cons field later ih =>
    rw [recordItems, hclosing] at hread
    have hagain : nextItem first (']' :: left) = .ok (false, ']' :: left) := rfl
    by_cases hoptional : field.optional = true
    · have hrest : recordItems title limit later (count + 1) first draft (']' :: left) =
          .ok (draft', behind) := by
        rw [← hread]
        show _ = (if field.optional then _ else _)
        rw [if_pos hoptional]
      obtain ⟨hdraft, hlast, hothers⟩ := ih hrest rfl hagain
      exact ⟨hdraft, hlast, List.forall_mem_cons.mpr ⟨hoptional, hothers⟩⟩
    · have herror : (if field.optional then _ else Except.error _) = _ := hread
      rw [if_neg hoptional] at herror
      cases herror

/-- What became of a draft when items were read as the later fields of a record. -/
structure ReadsItems (fields later : List (RecordField σ)) (Says : σ → Parts → Prop)
    (draft : σ) (starts : List (List Char)) (draft' : σ) : Prop where
  tells : ∀ parts, Says draft parts →
    Says draft' (((later.map (·.name)).zip starts).reverse ++ parts)
  isSet : ∀ field ∈ later, field.optional = false → field.isSet draft' = true
  stays : ∀ field ∈ fields, field.isSet draft = true → field.isSet draft' = true

/-- Where there are no items, nothing becomes of it. -/
theorem readsItems_nil {later : List (RecordField σ)}
    (hoptional : ∀ field ∈ later, field.optional = true) :
    ReadsItems fields later Says draft [] draft where
  tells := by
    intro parts hparts
    rw [List.zip_nil_right]
    exact hparts
  isSet := by
    intro field hmem hrequired
    rw [hoptional field hmem] at hrequired
    cases hrequired
  stays := fun _ _ hset => hset

/-- An item is read as the first of the later fields, and the other items as the others. -/
theorem KeepsField.readsItems {field : RecordField σ} {later : List (RecordField σ)} {next : σ}
    {start left : List Char} {starts : List (List Char)}
    (h : KeepsField fields Says field draft start next left) (hfield : field ∈ fields)
    (hreads : ReadsItems fields later Says next starts draft') :
    ReadsItems fields (field :: later) Says draft (start :: starts) draft' where
  tells := by
    intro parts hparts
    rw [List.map_cons, List.zip_cons_cons, List.reverse_cons, List.append_assoc]
    exact hreads.tells _ (h.tells parts hparts)
  isSet := by
    refine List.forall_mem_cons.mpr ⟨fun _ => ?_, hreads.isSet⟩
    exact hreads.stays field hfield h.isSet
  stays := fun other hother hset => hreads.stays other hother (h.stays other hother hset)

/-- The fields are read from the items in order. -/
theorem recordItems_starts (h : KeepsParts fields limit Says) {title : String}
    {later : List (RecordField σ)} (hlater : ∀ field ∈ later, field ∈ fields) {count : Nat}
    {first : Bool}
    (hread : recordItems title limit later count first draft s = .ok (draft', s'))
    (hend : listEnd s' = .ok rest) (hlimit : s.length < limit) :
    TakesOff (.inside .list [] first) s rest ∧ ∃ starts,
      (∀ many before, s.length < many → before.isEmpty = first →
        itemsOnto (startOf limit) many before s = .ok (before.reverse ++ starts, rest)) ∧
      ReadsItems fields later Says draft starts draft' := by
  -- By induction on the fields, not on a limit: a record has at most as many items as it has
  -- fields, so the limit for the items of a list is left to the length of the text.
  induction later generalizing draft s count first with
  | nil =>
    cases hread
    have hnext : nextItem first s' = .ok (false, ']' :: rest) := nextItem_of_listEnd hend
    exact ⟨takesOff_listEnd hnext rfl, [], itemsOnto_none hnext rfl, readsItems_nil nofun⟩
  | cons field later ih =>
    obtain ⟨hfield, hlater⟩ := List.forall_mem_cons.mp hlater
    obtain ⟨⟨more, start⟩, hnext, hstep⟩ := bind_eq_ok hread
    have hstart : start.length < limit := Nat.lt_of_le_of_lt (length_of_nextItem hnext) hlimit
    cases more with
    | false =>
      obtain ⟨rfl, hclosing, hoptional⟩ := recordItems_closing hnext hread hend
      exact ⟨takesOff_listEnd hnext hclosing, [], itemsOnto_none hnext hclosing,
        readsItems_nil hoptional⟩
    | true =>
      obtain ⟨⟨next, left⟩, hitem, hothers⟩ := bind_eq_ok hstep
      have hkeeps := h.field field hfield draft start next left hstart hitem
      have hshorter := hkeeps.taken.shorter
      obtain ⟨hrest, starts, hstarts, hreads⟩ := ih hlater hothers (by omega)
      refine ⟨(hrest.behind hkeeps.taken).item hnext, start :: starts, ?_,
        hkeeps.readsItems hfield hreads⟩
      intro many before hmany hbefore
      cases many with
      | zero => exact absurd hmany (Nat.not_lt_zero _)
      | succ many =>
        have hlength := length_of_nextItem hnext
        rw [itemsOnto_start (by rw [hbefore, hnext]) hkeeps.taken hstart,
          hstarts many (start :: before) (by omega) rfl, List.reverse_cons, List.append_assoc]
        rfl

/-- A record is read from its parts, and no field that it needs is missing. -/
theorem record_parts {title : String} (h : KeepsParts fields limit Says)
    (hread : record title fields limit draft s = .ok (draft', rest)) (hlimit : s.length < limit)
    (hdraft : Says draft []) :
    TakesOff (.atValue []) s rest ∧ ∃ parts,
      parts? (fields.map (·.name)) limit s = some parts ∧ Says draft' parts ∧
        ∀ field ∈ fields, field.optional = false → field.isSet draft' = true := by
  have hle := length_skipBlanks_le s
  unfold record at hread
  split at hread
  · cases hread
  · -- An object has its members by name.
    rename_i behind heq
    rw [heq, List.length_cons] at hle
    obtain ⟨⟨last, left⟩, hmembers, hread⟩ := bind_eq_ok hread
    simp only at hread
    split at hread
    · cases hread
    rename_i hnone
    obtain ⟨left', hend, hsame⟩ := bind_eq_ok hread
    cases hsame
    obtain ⟨htaken, parts, hparts, htells⟩ :=
      membersOnto_starts h hmembers hend (by omega) hdraft
    refine ⟨htaken.object heq, parts, ?_, htells, ?_⟩
    · unfold parts? members?
      rw [heq]
      simp only [hparts]
      rfl
    · intro field hmem hrequired
      simpa [hrequired] using List.find?_eq_none.mp hnone field hmem
  · -- A list has the fields in their order.
    rename_i behind heq
    rw [heq, List.length_cons] at hle
    obtain ⟨⟨last, left⟩, hitems, hread⟩ := bind_eq_ok hread
    obtain ⟨left', hend, hsame⟩ := bind_eq_ok hread
    cases hsame
    obtain ⟨htaken, starts, hstarts, hreads⟩ :=
      recordItems_starts h (fun _ hmem => hmem) hitems hend (by omega)
    refine ⟨htaken.list heq, ((fields.map (·.name)).zip starts).reverse, ?_, ?_, hreads.isSet⟩
    · unfold parts? members? items?
      rw [heq]
      simp only [hstarts limit [] (by omega) rfl]
      rfl
    · have htells := hreads.tells [] hdraft
      rwa [List.append_nil] at htells
  · cases hread

end Record

end ModBuild.Proofs.Json
