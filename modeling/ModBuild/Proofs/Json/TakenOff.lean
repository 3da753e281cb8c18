import Mathlib.Data.List.DropRight
import ModBuild.Proofs.Json.Skipped

/-!
# `ModBuild.Proofs.Json.TakenOff`: documents are taken off within any brackets

The reader of `skipped` has a stack of brackets of its own and a limit. `TakesOff` frees it from
both: a document that is taken off is taken off within any brackets around it, in at most two steps
for each character. The theorems:

* `length_of_skippedScalar` and `length_of_nextPart`: the characters that a step takes.
* `skippedFrom_inside`: what a step inside brackets does.
* `TakesOff.opened`, `TakesOff.part`, `TakesOff.behind` and `TakesOff.closed`: documents are taken
  off one step after another.
* `takesOff_of_skippedFrom`: what is taken off once is taken off within any brackets.
* `skipped_of_takesOff`: and by itself, if the limit is the length of the text.
-/

set_option autoImplicit false

namespace ModBuild.Proofs.Json

open ModBuild ModBuild.Json

/-! ### One reader behind another -/

/-- Two steps succeed if the first does, and then the second on its result. -/
theorem bind_eq_ok {α β : Type} {read : Except Fault α} {next : α → Except Fault β} {b : β}
    (h : read >>= next = .ok b) : ∃ a, read = .ok a ∧ next a = .ok b := by
  cases read with
  | error fault => cases h
  | ok a => exact ⟨a, rfl, h⟩

/-- A result that is changed afterwards comes from a step that succeeds. -/
theorem map_eq_ok {α β : Type} {read : Except Fault α} {f : α → β} {b : β}
    (h : read.map f = .ok b) : ∃ a, read = .ok a ∧ f a = b := by
  cases read with
  | error fault => cases h
  | ok a => exact ⟨a, rfl, Except.ok.inj h⟩

/-! ### Lengths -/

section Lengths

variable {s rest : List Char}

/-- To skip blanks makes no text longer. -/
theorem length_skipBlanks_le (s : List Char) : (skipBlanks s).length ≤ s.length :=
  (List.dropWhile_sublist isBlank).length_le

/-- To skip digits makes no text longer. -/
theorem length_skipDigits_le (s : List Char) : (skipDigits s).length ≤ s.length :=
  (List.dropWhile_sublist Text.isDigit).length_le

/-- To take a word off makes no text longer. -/
theorem length_of_word {letters : List Char} (h : word letters s = .ok rest) :
    rest.length ≤ s.length := by
  induction letters generalizing s with
  | nil =>
    cases h
    exact Nat.le_refl _
  | cons c letters ih =>
    cases s with
    | nil => cases h
    | cons d s =>
      rw [word] at h
      split at h
      · exact Nat.le_succ_of_le (ih h)
      · cases h

/-- A string that is passed over takes up characters. -/
theorem length_of_skippedString (h : skippedString s = .ok rest) : rest.length < s.length := by
  fun_induction skippedString s with
  | case1 => cases h
  | case2 s =>
    cases h
    exact Nat.lt_succ_self _
  | case3 s next hescape hquote ih =>
    have hle := length_of_skippedEscape hescape
    have hlt := ih h
    show rest.length < s.length + 1
    omega
  | case4 => cases h
  | case5 => cases h
  | case6 c s hquote hslash hcontrol ih => exact Nat.lt_succ_of_lt (ih h)

/-- An exponent that is passed over takes up characters. -/
theorem length_of_skippedExponent (h : skippedExponent s = .ok rest) : rest.length < s.length := by
  fun_cases skippedExponent s
  all_goals grind [skippedExponent, length_skipDigits_le]

/-- A number that is passed over takes up characters. -/
theorem length_of_skippedNumber (h : skippedNumber s = .ok rest) : rest.length < s.length := by
  fun_cases skippedNumber s
  all_goals grind [skippedNumber, length_skipDigits_le, → length_of_skippedExponent]

/-- A colon takes up a character. -/
theorem length_of_colon (h : colon s = .ok rest) : rest.length < s.length := by
  have hle := length_skipBlanks_le s
  unfold colon at h
  split at h
  · cases h
  · rename_i heq
    cases h
    rw [heq] at hle
    exact hle
  · cases h

/-- A name that is passed over takes up characters. -/
theorem length_of_skippedKey (h : skippedKey s = .ok rest) : rest.length < s.length := by
  have hle := length_skipBlanks_le s
  unfold skippedKey at h
  split at h
  · cases h
  · rename_i name heq
    rw [heq, List.length_cons] at hle
    obtain ⟨behind, hstring, hcolon⟩ := bind_eq_ok h
    have hname := length_of_skippedString hstring
    have hbehind := length_of_colon hcolon
    omega
  · cases h

/-- A value without brackets, or the bracket that opens one, has at least one character. -/
theorem length_of_skippedScalar {bracket : Option Bracket}
    (h : skippedScalar s = .ok (bracket, rest)) : rest.length < s.length := by
  have hle := length_skipBlanks_le s
  -- Whatever takes the rest off behind the first character may take nothing more.
  have hbehind : ∀ {c : Char} {behind : List Char} {taken : Except Fault (List Char)},
      skipBlanks s = c :: behind → (∀ rest, taken = .ok rest → rest.length ≤ behind.length) →
      (taken >>= fun s => pure (none, s)) = .ok (bracket, rest) → rest.length < s.length := by
    intro c behind taken heq htaken hrun
    rw [heq, List.length_cons] at hle
    obtain ⟨left, hleft, hsame⟩ := bind_eq_ok hrun
    cases hsame
    have hlength := htaken _ hleft
    omega
  unfold skippedScalar at h
  split at h
  case h_1 => cases h
  case h_2 heq => exact hbehind heq (fun _ => length_of_word) h
  case h_3 heq => exact hbehind heq (fun _ => length_of_word) h
  case h_4 heq => exact hbehind heq (fun _ => length_of_word) h
  case h_5 heq =>
    exact hbehind heq (fun _ htaken => Nat.le_of_lt (length_of_skippedNumber htaken)) h
  case h_6 heq =>
    exact hbehind heq (fun _ htaken => Nat.le_of_lt (length_of_skippedString htaken)) h
  case h_7 heq =>
    cases h
    rw [heq] at hle
    exact hle
  case h_8 heq =>
    cases h
    rw [heq] at hle
    exact hle
  case h_9 c behind heq =>
    split at h
    · refine hbehind heq (fun rest htaken => ?_) h
      exact Nat.le_of_lt_succ (length_of_skippedNumber htaken)
    · cases h

end Lengths

/-! ### Steps -/

/-- What comes next inside brackets: a document, at which the text is left, or the bracket that
closes, which is taken off. -/
def nextPart (bracket : Bracket) (first : Bool) (s : List Char) :
    Except Fault (Bool × List Char) :=
  match skipBlanks s with
  | [] => .error (.behind (eofIn bracket) [])
  | c :: s =>
    if c = closingOf bracket then .ok (false, s)
    else if first then (skippedName bracket (c :: s)).map (true, ·)
    else if c = ',' then (skippedName bracket s).map (true, ·)
    else .error (.next (expectedEnd bracket) (c :: s))

section Steps

variable {limit : Nat} {bracket : Bracket} {outer : List Bracket} {first : Bool}
  {s s' rest : List Char}

/-- Inside brackets the reader goes on to the next part. -/
theorem skippedFrom_inside (limit : Nat) (bracket : Bracket) (outer : List Bracket) (first : Bool)
    (s : List Char) :
    skippedFrom (limit + 1) (.inside bracket outer first) s =
      nextPart bracket first s >>= fun part =>
        if part.1 then skippedFrom limit (.atValue (bracket :: outer)) part.2
        else skippedBehind limit outer part.2 := by
  -- The two differ only in where they go on, so the same cases settle both.
  unfold nextPart
  rw [skippedFrom]
  cases skipBlanks s with
  | nil => rfl
  | cons c s =>
    simp only
    split
    · cases outer <;> rfl
    · split
      · show (skippedName bracket (c :: s) >>= skippedFrom limit (.atValue (bracket :: outer))) = _
        cases skippedName bracket (c :: s) <;> rfl
      · split
        · show (skippedName bracket s >>= skippedFrom limit (.atValue (bracket :: outer))) = _
          cases skippedName bracket s <;> rfl
        · rfl

/-- To pass over a name, if there is one, makes no text longer. -/
theorem length_of_skippedName (h : skippedName bracket s = .ok rest) : rest.length ≤ s.length := by
  cases bracket with
  | list =>
    cases h
    exact Nat.le_refl _
  | object => exact Nat.le_of_lt (length_of_skippedKey h)

/-- The bracket that closes is a character. In front of a part there is a comma, unless it is
the first. -/
theorem length_of_nextPart {more : Bool} (h : nextPart bracket first s = .ok (more, rest)) :
    rest.length + 1 ≤ s.length + (more && first).toNat := by
  have hle := length_skipBlanks_le s
  unfold nextPart at h
  split at h
  · cases h
  · rename_i c behind heq
    rw [heq, List.length_cons] at hle
    split at h
    · cases h
      omega
    · -- A first part has no comma to take off, which is what the spare step is for.
      split at h
      · rename_i hfirst
        obtain ⟨left, hname, hsame⟩ := map_eq_ok h
        cases hsame
        have hlength := length_of_skippedName hname
        rw [List.length_cons] at hlength
        rw [hfirst, Bool.true_and, Bool.toNat_true]
        omega
      · split at h
        · obtain ⟨left, hname, hsame⟩ := map_eq_ok h
          cases hsame
          have hlength := length_of_skippedName hname
          omega
        · cases h

end Steps

/-! ### Taking documents off -/

/-- The place of a reader within further brackets around those that are open. -/
def within (outer : List Bracket) : SkipState → SkipState
  | .atValue stack => .atValue (stack ++ outer)
  | .inside bracket stack first => .inside bracket (stack ++ outer) first

/-- The steps that a place has to spare. The first part between brackets has no comma that would pay
for the step to it; the bracket in front of it does. -/
def spare : SkipState → Nat
  | .atValue _ => 0
  | .inside _ _ first => first.toNat

/-- The text from a place on is taken off up to the rest, in at most two steps for each character,
and within any brackets. -/
structure TakesOff (state : SkipState) (s rest : List Char) : Prop where
  shorter : rest.length < s.length
  run : ∃ steps, steps + 2 * rest.length ≤ 2 * s.length + spare state ∧ ∀ limit outer,
    skippedFrom (steps + limit) (within outer state) s = skippedBehind limit outer rest

section Taking

variable {limit : Nat} {bracket : Bracket} {stack : List Bracket} {first : Bool}
  {state state' : SkipState} {s s' rest : List Char}

/-- A state has at most one step to spare. -/
theorem spare_le_one (state : SkipState) : spare state ≤ 1 := by
  cases state with
  | atValue => exact Nat.zero_le 1
  | inside bracket stack first => exact Bool.toNat_le first

/-- One step, and the others behind it. -/
theorem TakesOff.step (h : TakesOff state' s' rest)
    (hlength : 2 * s'.length + spare state' < 2 * s.length + spare state)
    (hrun : ∀ limit outer, skippedFrom (limit + 1) (within outer state) s =
      skippedFrom limit (within outer state') s') : TakesOff state s rest := by
  obtain ⟨hshorter, steps, hsteps, hrest⟩ := h
  have hspare := spare_le_one state
  refine ⟨by omega, steps + 1, by omega, fun limit outer => ?_⟩
  rw [Nat.add_right_comm steps 1 limit, hrun]
  exact hrest limit outer

/-- The last step. -/
theorem takesOff_of_last (hlength : rest.length < s.length)
    (hrun : ∀ limit outer, skippedFrom (limit + 1) (within outer state) s =
      skippedBehind limit outer rest) : TakesOff state s rest := by
  refine ⟨hlength, 1, by omega, fun limit outer => ?_⟩
  rw [Nat.add_comm 1 limit]
  exact hrun limit outer

/-- A value without parts that is passed over is taken off. -/
theorem takesOff_scalar (h : skippedScalar s = .ok (none, rest)) :
    TakesOff (.atValue []) s rest :=
  takesOff_of_last (length_of_skippedScalar h) fun _ _ => skippedFrom_scalar h

/-- A document with brackets is taken off with what is between them. -/
theorem TakesOff.opened (h : TakesOff (.inside bracket stack true) s' rest)
    (hopen : skippedScalar s = .ok (some bracket, s')) : TakesOff (.atValue stack) s rest := by
  refine h.step ?_ fun limit outer => skippedFrom_opening hopen
  have hlength := length_of_skippedScalar hopen
  show 2 * s'.length + 1 < 2 * s.length + 0
  omega

/-- Behind a document inside brackets the reader looks for the next. -/
theorem TakesOff.behind (h : TakesOff (.inside bracket stack false) s' rest)
    (hdocument : TakesOff (.atValue []) s s') : TakesOff (.atValue (bracket :: stack)) s rest := by
  obtain ⟨hshorter, steps, hsteps, hrun⟩ := hdocument
  obtain ⟨hshorter', more, hmore, hrest⟩ := h
  have hspare : spare (.inside bracket stack false) = 0 := rfl
  have hspare' : ∀ stack, spare (.atValue stack) = 0 := fun _ => rfl
  refine ⟨by omega, steps + more, ?_, fun limit outer => ?_⟩
  · rw [hspare] at hmore
    rw [hspare'] at hsteps ⊢
    omega
  · rw [Nat.add_assoc]
    exact (hrun (more + limit) (bracket :: (stack ++ outer))).trans (hrest limit outer)

/-- Inside brackets a part comes first, and then the others. -/
theorem TakesOff.part (h : TakesOff (.atValue (bracket :: stack)) s' rest)
    (hpart : nextPart bracket first s = .ok (true, s')) :
    TakesOff (.inside bracket stack first) s rest := by
  refine h.step ?_ fun limit outer => ?_
  · have hlength := length_of_nextPart hpart
    have hle := Bool.toNat_le first
    show 2 * s'.length + 0 < 2 * s.length + first.toNat
    rw [Bool.true_and] at hlength
    omega
  · show skippedFrom (limit + 1) (.inside bracket (stack ++ outer) first) s = _
    rw [skippedFrom_inside, hpart]
    rfl

/-- Behind the bracket that closes the reader is inside the next. -/
theorem TakesOff.closed {around : Bracket} (h : TakesOff (.inside around stack false) s' rest)
    (hclosing : nextPart bracket first s = .ok (false, s')) :
    TakesOff (.inside bracket (around :: stack) first) s rest := by
  refine h.step ?_ fun limit outer => ?_
  · have hlength := length_of_nextPart hclosing
    show 2 * s'.length + 0 < 2 * s.length + first.toNat
    rw [Bool.false_and, Bool.toNat_false] at hlength
    omega
  · show skippedFrom (limit + 1) (.inside bracket (around :: (stack ++ outer)) first) s = _
    rw [skippedFrom_inside, hclosing]
    rfl

/-- A closing bracket is taken off. -/
theorem takesOff_closing (h : nextPart bracket first s = .ok (false, rest)) :
    TakesOff (.inside bracket [] first) s rest := by
  refine takesOff_of_last (length_of_nextPart h) fun limit outer => ?_
  show skippedFrom (limit + 1) (.inside bracket ([] ++ outer) first) s = _
  rw [skippedFrom_inside, h]
  rfl

/-- What is taken off once is taken off within any brackets. -/
theorem takesOff_of_skippedFrom (h : skippedFrom limit state s = .ok rest) :
    TakesOff state s rest := by
  -- By induction on the limit, with one case for each thing that the reader can do at its place.
  induction limit generalizing state s with
  | zero => cases h
  | succ limit ih =>
    cases state with
    | atValue stack =>
      have hstep := h
      rw [skippedFrom] at hstep
      obtain ⟨⟨bracket, s'⟩, hscalar, -⟩ := bind_eq_ok hstep
      cases bracket with
      | some bracket =>
        rw [skippedFrom_opening hscalar] at h
        exact (ih h).opened hscalar
      | none =>
        rw [skippedFrom_scalar hscalar] at h
        cases stack with
        | nil =>
          cases h
          exact takesOff_scalar hscalar
        | cons around stack =>
          have hrest : TakesOff (.inside around stack false) s' rest := ih h
          exact hrest.behind (takesOff_scalar hscalar)
    | inside bracket stack first =>
      rw [skippedFrom_inside] at h
      obtain ⟨⟨more, s'⟩, hpart, h⟩ := bind_eq_ok h
      cases more with
      | true =>
        have hrest : TakesOff (.atValue (bracket :: stack)) s' rest := ih h
        exact hrest.part hpart
      | false =>
        cases stack with
        | nil =>
          cases h
          exact takesOff_closing hpart
        | cons around stack =>
          have hrest : TakesOff (.inside around stack false) s' rest := ih h
          exact hrest.closed hpart

/-- A value that is passed over within any limit is taken off. -/
theorem takesOff_of_skipped (h : skipped limit s = .ok rest) : TakesOff (.atValue []) s rest :=
  takesOff_of_skippedFrom h

/-- A limit of the length of the text is enough. -/
theorem skipped_of_takesOff (h : TakesOff (.atValue []) s rest) (hlimit : s.length ≤ limit) :
    skipped limit s = .ok rest := by
  obtain ⟨-, steps, hsteps, hrun⟩ := h
  have hspare : spare (.atValue []) = 0 := rfl
  have hcount : 2 * limit + 2 = steps + (2 * limit + 2 - steps) := by omega
  unfold skipped
  rw [hcount]
  exact hrun _ []

/-- Where the blanks are skipped, none is left to skip. -/
theorem skipBlanks_skipBlanks (s : List Char) : skipBlanks (skipBlanks s) = skipBlanks s :=
  List.dropWhile_idempotent isBlank s

/-- Blanks in front of a document do not matter. -/
theorem TakesOff.of_skipBlanks (h : TakesOff (.atValue stack) (skipBlanks s) rest) :
    TakesOff (.atValue stack) s rest := by
  obtain ⟨hshorter, steps, hsteps, hrun⟩ := h
  have hle := length_skipBlanks_le s
  cases steps with
  | zero =>
    -- Nothing is taken off without a step.
    cases hrun 0 []
  | succ steps =>
    refine ⟨by omega, steps + 1, by omega, fun limit outer => ?_⟩
    have hscalar : skippedScalar s = skippedScalar (skipBlanks s) := by
      unfold skippedScalar
      rw [skipBlanks_skipBlanks]
    rw [← hrun, Nat.add_right_comm steps 1 limit]
    show skippedFrom (steps + limit + 1) (.atValue (stack ++ outer)) s =
      skippedFrom (steps + limit + 1) (.atValue (stack ++ outer)) (skipBlanks s)
    rw [skippedFrom, skippedFrom, hscalar]

end Taking

end ModBuild.Proofs.Json
