import ModBuild.Proofs.Template.Cut
import ModBuild.Template.Expand

/-!
# `ModBuild.Proofs.Template.Pass`: what one pass does to a text

`substitute` writes the pieces of a text one after the other and checks names and lengths on the
way. The theorems say what is known from its outcome:

* `substitute_ok`: after a pass that succeeds, every token of the text was registered, and the new
  text is the pieces with each token exchanged for its value.
* `substitute_firstMissing`: a pass that stops at a name stops at the leftmost token of the text
  that is not registered.
* `wellDelimited_flatMap_valueText`: in well-delimited texts the cut of the new text is the old cut
  with each token exchanged for the cut of its value. No token arises across a border.
-/

set_option autoImplicit false

namespace ModBuild.Proofs.Template

open ModBuild ModBuild.Template

/-- The value under the name of a token. -/
def valueOf? (table : Table) (letters : List Char) : Option String :=
  table.find? (String.ofList (tokenText letters))

/-- What a pass writes for a piece whose name is registered. -/
def valueText (table : Table) : Piece → List Char
  | .char c => [c]
  | .token letters => ((valueOf? table letters).getD "").toList

/-- Every value of the table is well-delimited. -/
def DelimitedValues (table : Table) : Prop :=
  ∀ e ∈ table.entries, WellDelimited e.2.toList

/-- A value that is found is one of the table. -/
theorem mem_entries_of_valueOf? {table : Table} {letters : List Char} {value : String}
    (h : valueOf? table letters = some value) :
    (String.ofList (tokenText letters), value) ∈ table.entries := by
  obtain ⟨before, after, heq, -⟩ := List.lookup_eq_some_iff.mp h
  simp [heq]

/-- The value of a token is delimited, if all values are. -/
theorem wellDelimited_of_valueOf? {table : Table} {letters : List Char} {value : String}
    (ht : DelimitedValues table) (h : valueOf? table letters = some value) :
    WellDelimited value.toList :=
  ht _ (mem_entries_of_valueOf? h)

/-! ### The outcomes of a pass -/

/-- What a pass that goes through the pieces without a fault has written. -/
theorem substituteOnto_ok {table : Table} {ps : List Piece} {written out : List Char} {size : Nat}
    (h : substituteOnto table written size ps = .ok out) :
    (∀ letters, .token letters ∈ ps → (valueOf? table letters).isSome) ∧
      out = written.reverse ++ ps.flatMap (valueText table) := by
  induction ps generalizing written size with
  | nil =>
    simp only [substituteOnto, Except.ok.injEq] at h
    simp [h]
  | cons p rest ih =>
    cases p with
    | char c =>
      obtain ⟨hall, hout⟩ := ih h
      refine ⟨fun letters hmem => hall letters (by simpa using hmem), ?_⟩
      simpa [valueText] using hout
    | token letters =>
      simp only [substituteOnto] at h
      split at h
      · cases h
      · rename_i value hfind
        split at h
        · cases h
        · obtain ⟨hall, hout⟩ := ih h
          -- Of this token the value was found; of the tokens behind it the induction says so.
          have hvalue : valueOf? table letters = some value := hfind
          refine ⟨fun found hmem => ?_, ?_⟩
          · rcases List.mem_cons.mp hmem with heq | hmem
            · cases heq
              simp [hvalue]
            · exact hall found hmem
          · simpa [valueText, hvalue] using hout

/-- The first token among the pieces that has no value. -/
def FirstMissing (table : Table) (ps : List Piece) (letters : List Char) : Prop :=
  ∃ before after, ps = before ++ .token letters :: after ∧
    (∀ found, .token found ∈ before → (valueOf? table found).isSome) ∧
    valueOf? table letters = none

/-- A token without a value that stands in front is the first one. -/
theorem firstMissing_head {table : Table} {letters : List Char} (rest : List Piece)
    (h : valueOf? table letters = none) : FirstMissing table (.token letters :: rest) letters :=
  ⟨[], rest, rfl, nofun, h⟩

/-- It is the first one behind a piece that is a character or has a value, too. -/
theorem FirstMissing.cons {table : Table} {ps : List Piece} {letters : List Char} {p : Piece}
    (hp : ∀ found, p = .token found → (valueOf? table found).isSome)
    (h : FirstMissing table ps letters) : FirstMissing table (p :: ps) letters := by
  obtain ⟨before, after, rfl, hbefore, hnone⟩ := h
  refine ⟨p :: before, after, rfl, fun found hmem => ?_, hnone⟩
  rcases List.mem_cons.mp hmem with heq | hmem
  · exact hp found heq.symm
  · exact hbefore found hmem

/-- Where a pass stops at a name. -/
theorem substituteOnto_unregistered {table : Table} {ps : List Piece} {written : List Char}
    {size : Nat} {token : String}
    (h : substituteOnto table written size ps = .error (.unregistered token)) :
    ∃ letters, FirstMissing table ps letters ∧ token = String.ofList (tokenText letters) := by
  induction ps generalizing written size with
  | nil => cases h
  | cons p rest ih =>
    cases p with
    | char c =>
      obtain ⟨letters, hfirst, htoken⟩ := ih h
      exact ⟨letters, hfirst.cons nofun, htoken⟩
    | token letters =>
      simp only [substituteOnto] at h
      split at h
      · rename_i hfind
        cases h
        exact ⟨letters, firstMissing_head rest hfind, rfl⟩
      · rename_i value hfind
        split at h
        · cases h
        · obtain ⟨missing, hfirst, htoken⟩ := ih h
          -- The token in front has a value, so it is not the one that is missing.
          refine ⟨missing, hfirst.cons fun found heq => ?_, htoken⟩
          cases heq
          exact Option.isSome_iff_exists.mpr ⟨value, hfind⟩

/-- After a pass that succeeds. -/
theorem substitute_ok {table : Table} {s out : List Char} (h : substitute table s = .ok out) :
    (∀ letters, .token letters ∈ pieces s → (valueOf? table letters).isSome) ∧
      out = (pieces s).flatMap (valueText table) :=
  substituteOnto_ok h

/-- After a pass that stops at a name. -/
theorem substitute_firstMissing {table : Table} {s : List Char} {token : String}
    (h : substitute table s = .error (.unregistered token)) :
    ∃ letters, FirstMissing table (pieces s) letters ∧ token = String.ofList (tokenText letters) :=
  substituteOnto_unregistered h

/-- A pass that reports a token has found it in the text, without a value. -/
theorem substitute_unregistered {table : Table} {s : List Char} {token : String}
    (h : substitute table s = .error (.unregistered token)) :
    ∃ letters, .token letters ∈ pieces s ∧ valueOf? table letters = none ∧
      token = String.ofList (tokenText letters) := by
  obtain ⟨letters, ⟨before, after, hsplit, -, hnone⟩, htoken⟩ := substitute_firstMissing h
  exact ⟨letters, by rw [hsplit]; simp, hnone, htoken⟩

/-! ### The cut of the new text -/

/-- What a pass makes of a piece, cut again. -/
def valuePieces (table : Table) : Piece → List Piece
  | .char c => [.char c]
  | .token letters => pieces ((valueOf? table letters).getD "").toList

/-- The value that is written for a token is well-delimited, also where none is registered. -/
theorem wellDelimited_valueOf?_getD {table : Table} (ht : DelimitedValues table)
    (letters : List Char) : WellDelimited ((valueOf? table letters).getD "").toList := by
  cases h : valueOf? table letters with
  | none => exact wellDelimited_nil
  | some value => exact wellDelimited_of_valueOf? ht h

/-- A pass over a well-delimited text writes a well-delimited text, and cutting it cuts the
values. -/
theorem wellDelimited_flatMap_valueText {table : Table} (ht : DelimitedValues table)
    {s : List Char} (hs : WellDelimited s) :
    WellDelimited ((pieces s).flatMap (valueText table)) ∧
      pieces ((pieces s).flatMap (valueText table)) = (pieces s).flatMap (valuePieces table) := by
  induction s using cut_induction with
  | nil => simp [wellDelimited_nil]
  | char c rest hc ih =>
    obtain ⟨hne, hrest⟩ := (wellDelimited_cons_iff hc).mp hs
    obtain ⟨hwell, hcut⟩ := ih hrest
    rw [pieces_of_char hc]
    -- A character that is no token is not the sign, as that is never alone in a delimited text.
    refine ⟨?_, ?_⟩
    · exact (wellDelimited_cons_iff (tokenAtHead?_of_ne hne)).mpr ⟨hne, hwell⟩
    · simp only [List.flatMap_cons, valueText, valuePieces, List.singleton_append]
      rw [pieces_cons_of_ne hne, hcut]
  | token letters after hletters ih =>
    have hafter := (wellDelimited_tokenText_append_iff hletters after).mp hs
    have hvalue := wellDelimited_valueOf?_getD ht letters
    obtain ⟨hwell, hcut⟩ := ih hafter
    rw [pieces_tokenText_append hletters]
    simp only [List.flatMap_cons, valueText, valuePieces]
    exact ⟨wellDelimited_append hvalue hwell, by rw [pieces_append hvalue, hcut]⟩

/-! ### One pass after another -/

/-- A text without tokens needs no pass. -/
theorem settle_of_hasToken_eq_false (table : Table) (template : String) (left : Nat)
    {s : List Char} (hfree : hasToken s = false) : settle table template left s = .ok s := by
  cases left <;> simp only [settle, hfree, Bool.false_eq_true, if_false]

/-- With no pass left, tokens are an error. -/
theorem settle_zero_of_hasToken (table : Table) (template : String) {s : List Char}
    (htoken : hasToken s = true) :
    settle table template 0 s = .error (.expansionLimit template maxPasses) := by
  simp only [settle, htoken, if_true]

/-- A pass that goes through leaves the new text to the others. -/
theorem settle_succ_of_ok {table : Table} (template : String) (left : Nat) {s next : List Char}
    (htoken : hasToken s = true) (hpass : substitute table s = .ok next) :
    settle table template (left + 1) s = settle table template left next := by
  simp only [settle, htoken, if_true, hpass]

/-- A pass that finds a token without a value is the last, and its error is reported. -/
theorem settle_succ_of_unregistered {table : Table} (template : String) (left : Nat)
    {s : List Char} {token : String} (htoken : hasToken s = true)
    (hstop : substitute table s = .error (.unregistered token)) :
    settle table template (left + 1) s = .error (unresolved table token) := by
  simp only [settle, htoken, if_true, hstop]

/-- A pass that gets too long is the last, and the passes up to there are reported. -/
theorem settle_succ_of_tooLong {table : Table} (template : String) (left : Nat) {s : List Char}
    (htoken : hasToken s = true) (hstop : substitute table s = .error .tooLong) :
    settle table template (left + 1) s = .error (.expansionLimit template (maxPasses - left)) := by
  simp only [settle, htoken, if_true, hstop]

/-- What passes settle on without any pass is the text itself. -/
theorem settle_zero_eq_ok_iff {table : Table} {template : String} {s t : List Char} :
    settle table template 0 s = .ok t ↔ hasToken s = false ∧ t = s := by
  cases htoken : hasToken s with
  | true => simp [settle_zero_of_hasToken table template htoken]
  | false => simp [settle_of_hasToken_eq_false table template 0 htoken, eq_comm]

/-- What passes do to a text with tokens begins with one that succeeds. -/
theorem substitute_of_settle {table : Table} {template : String} {left : Nat} {s t : List Char}
    (h : settle table template (left + 1) s = .ok t) (htoken : hasToken s = true) :
    ∃ next, substitute table s = .ok next ∧ settle table template left next = .ok t := by
  cases hpass : substitute table s with
  | ok next =>
    rw [settle_succ_of_ok template left htoken hpass] at h
    exact ⟨next, rfl, h⟩
  | error stop =>
    cases stop with
    | unregistered token =>
      rw [settle_succ_of_unregistered template left htoken hpass] at h
      cases h
    | tooLong =>
      rw [settle_succ_of_tooLong template left htoken hpass] at h
      cases h

/-! ### From passes to an expansion -/

/-- An expansion succeeds exactly if its passes settle. -/
theorem expand_eq_ok_iff {table : Table} {template s : String} :
    expand table template = .ok s ↔
      settle table template maxPasses template.toList = .ok s.toList := by
  unfold expand
  cases settle table template maxPasses template.toList with
  | error e => simp [Except.map]
  | ok t =>
    simp only [Except.map, Except.ok.injEq]
    constructor
    · rintro rfl
      rw [String.toList_ofList]
    · rintro rfl
      rw [String.ofList_toList]

/-- An expansion fails exactly if its passes fail, with the same error. -/
theorem expand_eq_error_iff {table : Table} {template : String} {e : BuildError} :
    expand table template = .error e ↔
      settle table template maxPasses template.toList = .error e := by
  unfold expand
  cases settle table template maxPasses template.toList with
  | error e => simp [Except.map]
  | ok t => simp [Except.map]

/-- A template with a token that is not registered does not expand. -/
theorem expand_of_unregistered {table : Table} {template : String} {letters : List Char}
    (hmem : .token letters ∈ pieces template.toList) (hnone : valueOf? table letters = none) :
    ∃ e, expand table template = .error e := by
  cases h : expand table template with
  | error e => exact ⟨e, rfl⟩
  | ok s =>
    have hsettle : settle table template (31 + 1) template.toList = .ok s.toList :=
      expand_eq_ok_iff.mp h
    have htoken : hasToken template.toList = true := List.any_eq_true.mpr ⟨_, hmem, rfl⟩
    -- The first pass would have found a value for every token.
    obtain ⟨next, hpass, -⟩ := substitute_of_settle hsettle htoken
    have hsome := (substitute_ok hpass).1 letters hmem
    rw [hnone] at hsome
    cases hsome

end ModBuild.Proofs.Template
