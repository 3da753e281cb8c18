import Mathlib.Algebra.Group.Nat.Defs
import Mathlib.Data.List.Induction
import ModBuild.Proofs.Text.Decimal
import ModBuild.Template.Format

/-!
# `ModBuild.Proofs.Template.Grammar`: which texts are formats

`format` reads a text with a scan that stops at the first fault, and then counts its way through
what was read. This file says without a scan which texts are formats, and without a counter which
argument a conversion writes.

* `Splits` is the grammar: a text is the texts of its directives, one behind the other.
* `Filled` is what directives come to with arguments. A conversion without a number takes the
  argument whose number is the count of such conversions up to it.
* `scanFormat_eq_iff`: the scan goes through exactly the texts of the grammar. So a text splits in
  one way at most.
* `fill_eq_ok_iff`: the counter agrees with the count.
* `fillWords_eq`: it makes no difference that indices are kept in words of 64 bits.
* `format_accepts_grammar`: all of this for `format`.
-/

set_option autoImplicit false

namespace ModBuild.Proofs.Template

open ModBuild ModBuild.Template

/-! ### The grammar -/

/-- The digits give the number of an argument: a decimal number, leading zeros allowed, from 1 up to
the greatest word of 64 bits. -/
structure IsIndex (digits : List Char) (number : Nat) : Prop where
  nonempty : digits ≠ []
  digit : ∀ c ∈ digits, Text.isDigit c = true
  value : Text.decimalValue digits = number
  pos : 1 ≤ number
  lt : number < 2 ^ 64

/-- The texts of a directive. -/
inductive Spelled : List Char → Directive → Prop where
  | literal {c : Char} (h : c ≠ '%') : Spelled [c] (.literal c)
  | percent : Spelled ['%', '%'] (.literal '%')
  | lineEnd : Spelled ['%', 'n'] (.literal '\n')
  | next (conversion : Conversion) :
      Spelled ['%', conversion.letter] (.convert none conversion)
  | numbered {digits : List Char} {number : Nat} (h : IsIndex digits number)
      (conversion : Conversion) :
      Spelled ('%' :: (digits ++ ['$', conversion.letter])) (.convert (some number) conversion)

/-- The text is made of the texts of the directives, in order. -/
inductive Splits : List Char → List Directive → Prop where
  | nil : Splits [] []
  | cons {text rest : List Char} {d : Directive} {directives : List Directive}
      (h : Spelled text d) (hrest : Splits rest directives) :
      Splits (text ++ rest) (d :: directives)

/-! ### What directives come to -/

/-- What a conversion writes for an argument. Only numbers are written as numbers. -/
inductive WrittenAs : Conversion → Argument → String → Prop where
  | text (arg : Argument) : WrittenAs .text arg arg.display
  | upper (arg : Argument) : WrittenAs .upper arg (Text.upper arg.display)
  | decimal (value : Int64) : WrittenAs .decimal (.int value) (toString value.toInt)
  | hex (value : Int64) : WrittenAs .hex (.int value) (Text.hexDigits value.toUInt64.toNat)
  | isFalse : WrittenAs .truth (.bool false) "false"
  | isTrue {arg : Argument} (h : arg ≠ .bool false) : WrittenAs .truth arg "true"

/-- The conversion takes the argument behind the one that was taken last. -/
def isCounting : Directive → Bool
  | .convert none _ => true
  | _ => false

/-- The number of the argument that a conversion takes, counted from 1: its own, or else the count
of the conversions without one, up to this one. -/
def argumentNumber (before : List Directive) (number : Option Nat) : Nat :=
  number.getD (before.countP isCounting + 1)

/-- The argument that a conversion takes behind other directives. -/
def argument? (args : List Argument) (before : List Directive) (number : Option Nat) :
    Option Argument :=
  args[argumentNumber before number - 1]?

/-- The directives come to a text, from left to right. -/
inductive Filled (args : List Argument) : List Directive → List Char → Prop where
  | nil : Filled args [] []
  | literal {before : List Directive} {out : List Char} (c : Char) (h : Filled args before out) :
      Filled args (before ++ [.literal c]) (out ++ [c])
  | convert {before : List Directive} {out : List Char} {number : Option Nat}
      {conversion : Conversion} {arg : Argument} {text : String} (h : Filled args before out)
      (harg : argument? args before number = some arg) (htext : WrittenAs conversion arg text) :
      Filled args (before ++ [.convert number conversion]) (out ++ text.toList)

/-- Every conversion finds its argument, and a number where it writes one. -/
def ArgumentsFit (args : List Argument) (directives : List Directive) : Prop :=
  ∀ before number conversion after, directives = before ++ .convert number conversion :: after →
    ∃ arg, argument? args before number = some arg ∧
      (conversion = .decimal ∨ conversion = .hex → ∃ value, arg = .int value)

/-! ### One directive -/

/-- A letter stands for the conversion that has it. -/
theorem ofLetter?_eq_some_iff {c : Char} {conversion : Conversion} :
    Conversion.ofLetter? c = some conversion ↔ c = conversion.letter := by
  constructor
  · intro h
    unfold Conversion.ofLetter? at h
    split at h <;> cases h <;> rfl
  · rintro rfl
    cases conversion <;> rfl

/-- No conversion has the letter of an escape. -/
theorem letter_ne (conversion : Conversion) :
    conversion.letter ≠ '%' ∧ conversion.letter ≠ 'n' := by
  cases conversion <;> decide

/-- The letter of a conversion is no digit. -/
theorem isDigit_letter (conversion : Conversion) :
    Text.isDigit conversion.letter = false := by
  cases conversion <;> decide

/-- Without a number, a directive is a percent sign, a line break or a conversion. -/
theorem directiveLetter_none_iff {s rest : List Char} {d : Directive} :
    directiveLetter none s = .ok (d, rest) ↔
      s = '%' :: rest ∧ d = .literal '%' ∨ s = 'n' :: rest ∧ d = .literal '\n' ∨
        ∃ conversion : Conversion, s = conversion.letter :: rest ∧ d = .convert none conversion := by
  constructor
  · intro h
    cases s with
    | nil => cases h
    | cons c s =>
      simp only [directiveLetter, Option.isNone_none, Bool.true_and, decide_eq_true_eq] at h
      split at h
      · rename_i hc
        cases h
        exact .inl ⟨by rw [hc], rfl⟩
      · split at h
        · rename_i hc
          cases h
          exact .inr (.inl ⟨by rw [hc], rfl⟩)
        · split at h
          · rename_i conversion hletter
            cases h
            rw [ofLetter?_eq_some_iff.mp hletter]
            exact .inr (.inr ⟨conversion, rfl, rfl⟩)
          · cases h
  · rintro (⟨rfl, rfl⟩ | ⟨rfl, rfl⟩ | ⟨conversion, rfl, rfl⟩)
    · rfl
    · rfl
    · -- No conversion has the letter of one of the other two.
      obtain ⟨hpercent, hn⟩ := letter_ne conversion
      simp [directiveLetter, hpercent, hn, ofLetter?_eq_some_iff.mpr rfl]

/-- With a number, a directive is a conversion. -/
theorem directiveLetter_some_iff {number : Nat} {s rest : List Char} {d : Directive} :
    directiveLetter (some number) s = .ok (d, rest) ↔
      ∃ conversion : Conversion,
        s = conversion.letter :: rest ∧ d = .convert (some number) conversion := by
  constructor
  · intro h
    cases s with
    | nil => cases h
    | cons c s =>
      simp only [directiveLetter, Option.isNone_some, Bool.false_and, Bool.false_eq_true,
        if_false] at h
      split at h
      · rename_i conversion hletter
        cases h
        rw [ofLetter?_eq_some_iff.mp hletter]
        exact ⟨conversion, rfl, rfl⟩
      · cases h
  · rintro ⟨conversion, rfl, rfl⟩
    simp [directiveLetter, ofLetter?_eq_some_iff.mpr rfl]

/-- The number that is read from digits is the one that they give. -/
theorem isIndex_iff {digits : List Char} {number : Nat} :
    IsIndex digits number ↔
      Text.naturalBelow? indexBound digits = some number ∧ number ≠ 0 := by
  have hbound : 0 < indexBound := by decide
  have hword : indexBound = 2 ^ 64 := rfl
  rw [Text.naturalBelow?_eq_some_iff hbound, hword]
  constructor
  · rintro ⟨hne, hdigit, hvalue, hpos, hlt⟩
    exact ⟨⟨hne, hdigit, hvalue, hlt⟩, by omega⟩
  · rintro ⟨⟨hne, hdigit, hvalue, hlt⟩, hpos⟩
    exact ⟨hne, hdigit, hvalue, by omega, hlt⟩

/-- Digits in front of another character are taken as a whole. -/
theorem takeWhile_digits_append {digits : List Char}
    (h : ∀ c ∈ digits, Text.isDigit c = true) {c : Char} (hc : Text.isDigit c = false)
    (rest : List Char) :
    (digits ++ c :: rest).takeWhile Text.isDigit = digits ∧
      (digits ++ c :: rest).dropWhile Text.isDigit = c :: rest := by
  have hstop : ¬ Text.isDigit c = true := by simp [hc]
  constructor
  · rw [List.takeWhile_append_of_pos h, List.takeWhile_cons_of_neg hstop, List.append_nil]
  · rw [List.dropWhile_append_of_pos h, List.dropWhile_cons_of_neg hstop]

/-- What is read behind a percent sign is the rest of a directive's text. -/
theorem directive_eq_ok_iff {s rest : List Char} {d : Directive} :
    directive s = .ok (d, rest) ↔ ∃ text, Spelled ('%' :: text) d ∧ s = text ++ rest := by
  constructor
  · intro h
    -- The digits in front are the number, if there are any, and the sign has to follow them.
    have hjoin := List.takeWhile_append_dropWhile (p := Text.isDigit) (l := s)
    unfold directive at h
    simp only at h
    split at h
    · rename_i hnone
      rw [hnone, List.nil_append] at hjoin
      rw [hjoin] at h
      rcases directiveLetter_none_iff.mp h with ⟨rfl, rfl⟩ | ⟨rfl, rfl⟩ | ⟨conversion, rfl, rfl⟩
      · exact ⟨['%'], .percent, rfl⟩
      · exact ⟨['n'], .lineEnd, rfl⟩
      · exact ⟨[conversion.letter], .next conversion, rfl⟩
    · split at h
      · rename_i behind hdollar
        rw [hdollar] at hjoin
        split at h
        · cases h
        · cases h
        · rename_i number hzero hread
          obtain ⟨conversion, rfl, rfl⟩ := directiveLetter_some_iff.mp h
          have hindex : IsIndex (s.takeWhile Text.isDigit) number :=
            isIndex_iff.mpr ⟨hread, hzero⟩
          exact ⟨_, .numbered hindex conversion, by simpa using hjoin.symm⟩
      · cases h
  · rintro ⟨text, hspelled, rfl⟩
    cases hspelled with
    | literal h => exact absurd rfl h
    | percent => rfl
    | lineEnd => rfl
    -- A letter is no digit, so the digits end in front of it.
    | next conversion =>
      obtain ⟨hnone, hrest⟩ := @takeWhile_digits_append [] (by simp) _
        (isDigit_letter conversion) rest
      simp only [List.nil_append] at hnone hrest
      simp only [directive, List.cons_append, List.nil_append, hnone, hrest, if_true]
      exact directiveLetter_none_iff.mpr (.inr (.inr ⟨conversion, rfl, rfl⟩))
    | @numbered digits number hindex conversion =>
      obtain ⟨hread, hzero⟩ := isIndex_iff.mp hindex
      have hdollar : Text.isDigit '$' = false := by decide
      obtain ⟨htake, hdrop⟩ := takeWhile_digits_append hindex.digit hdollar
        (conversion.letter :: rest)
      have htext : digits ++ ['$', conversion.letter] ++ rest =
          digits ++ '$' :: conversion.letter :: rest := by simp
      rw [htext]
      unfold directive
      simp only
      rw [htake, hdrop, if_neg hindex.nonempty]
      simp only [hread]
      exact directiveLetter_some_iff.mpr ⟨conversion, rfl, rfl⟩

/-! ### The scan -/

/-- The scan takes the text of a directive as a whole. -/
theorem scanOnto_append {text : List Char} {d : Directive} (h : Spelled text d)
    (read : List Directive) (rest : List Char) :
    scanOnto read (text ++ rest) = scanOnto (d :: read) rest := by
  -- Behind a percent sign the directive is read, whatever its kind.
  have hpercent : ∀ text, Spelled ('%' :: text) d →
      scanOnto read ('%' :: text ++ rest) = scanOnto (d :: read) rest := by
    intro text htext
    have hread : directive (text ++ rest) = .ok (d, rest) :=
      directive_eq_ok_iff.mpr ⟨text, htext, rfl⟩
    rw [List.cons_append, scanOnto.eq_def]
    simp only [if_true]
    split
    · rename_i d' rest' hread'
      rw [hread] at hread'
      cases hread'
      rfl
    · rename_i hfault
      rw [hread] at hfault
      cases hfault
  cases h with
  | literal hc =>
    rw [List.cons_append, List.nil_append, scanOnto.eq_def]
    simp only [if_neg hc]
  | percent => exact hpercent _ .percent
  | lineEnd => exact hpercent _ .lineEnd
  | next conversion => exact hpercent _ (.next conversion)
  | numbered hindex conversion => exact hpercent _ (.numbered hindex conversion)

/-- So it takes a text that is made of directives, whatever follows. -/
theorem scanOnto_splits_append {s : List Char} {directives : List Directive}
    (h : Splits s directives) (read : List Directive) (rest : List Char) :
    scanOnto read (s ++ rest) = scanOnto (directives.reverse ++ read) rest := by
  induction h generalizing read with
  | nil => rfl
  | @cons text behind d directives hd _ ih =>
    rw [List.append_assoc, scanOnto_append hd, ih (d :: read)]
    simp

/-- A text that splits into directives is scanned as these. -/
theorem scanOnto_of_splits {s : List Char} {directives : List Directive}
    (h : Splits s directives) (read : List Directive) :
    scanOnto read s = ⟨read.reverse ++ directives, none⟩ := by
  have hscan := scanOnto_splits_append h read []
  rw [List.append_nil] at hscan
  rw [hscan]
  simp [scanOnto]

/-- What is read without a fault makes up the text. -/
theorem splits_of_scanOnto {s : List Char} {read directives : List Directive}
    (h : scanOnto read s = ⟨directives, none⟩) :
    ∃ found, directives = read.reverse ++ found ∧ Splits s found := by
  fun_induction scanOnto read s with
  | case1 read =>
    cases h
    exact ⟨[], by simp, .nil⟩
  | case2 read rest d rest' hread ih =>
    obtain ⟨text, htext, rfl⟩ := directive_eq_ok_iff.mp hread
    obtain ⟨found, rfl, hfound⟩ := ih h
    exact ⟨d :: found, by simp, .cons htext hfound⟩
  | case3 => cases h
  | case4 read c rest hc ih =>
    obtain ⟨found, rfl, hfound⟩ := ih h
    exact ⟨.literal c :: found, by simp, .cons (.literal hc) hfound⟩

/-- The scan goes through a text without a fault exactly if the text is made of directives, and
reads these. -/
theorem scanFormat_eq_iff {s : List Char} {directives : List Directive} :
    scanFormat s = ⟨directives, none⟩ ↔ Splits s directives := by
  constructor
  · intro h
    obtain ⟨found, rfl, hfound⟩ := splits_of_scanOnto h
    exact hfound
  · intro h
    exact scanOnto_of_splits h []

/-- A text splits into directives in one way at most. -/
theorem Splits.unique {s : List Char} {directives others : List Directive}
    (h : Splits s directives) (h' : Splits s others) : directives = others := by
  have hscan := (scanFormat_eq_iff.mpr h).symm.trans (scanFormat_eq_iff.mpr h')
  exact congrArg Scan.directives hscan

/-! ### Filling -/

/-- A conversion writes an argument as the grammar says, or not at all. -/
theorem write?_eq_some_iff {conversion : Conversion} {arg : Argument} {text : String} :
    conversion.write? arg = some text ↔ WrittenAs conversion arg text := by
  constructor
  · intro h
    -- The two numbers refuse what is no number; the truth value takes all but false for true.
    cases conversion with
    | text =>
      cases h
      exact .text arg
    | upper =>
      cases h
      exact .upper arg
    | decimal =>
      cases arg with
      | int value =>
        cases h
        exact .decimal value
      | text | bool => cases h
    | hex =>
      cases arg with
      | int value =>
        cases h
        exact .hex value
      | text | bool => cases h
    | truth =>
      cases arg with
      | bool value =>
        cases value with
        | false =>
          cases h
          exact .isFalse
        | true =>
          cases h
          exact .isTrue nofun
      | text | int =>
        cases h
        exact .isTrue nofun
  · intro h
    cases h with
    | text | upper | decimal | hex | isFalse => rfl
    | isTrue harg =>
      cases arg with
      | bool value =>
        cases value with
        | false => exact absurd rfl harg
        | true => rfl
      | text | int => rfl

/-- A conversion can write every argument, unless it writes numbers only. -/
theorem exists_writtenAs_iff {conversion : Conversion} {arg : Argument} :
    (∃ text, WrittenAs conversion arg text) ↔
      (conversion = .decimal ∨ conversion = .hex → ∃ value, arg = .int value) := by
  constructor
  · rintro ⟨text, h⟩ hnumber
    cases h with
    | decimal value | hex value => exact ⟨value, rfl⟩
    | text | upper | isFalse | isTrue => rcases hnumber with h | h <;> cases h
  · intro h
    cases conversion with
    | text => exact ⟨_, .text arg⟩
    | upper => exact ⟨_, .upper arg⟩
    | decimal =>
      obtain ⟨value, rfl⟩ := h (.inl rfl)
      exact ⟨_, .decimal value⟩
    | hex =>
      obtain ⟨value, rfl⟩ := h (.inr rfl)
      exact ⟨_, .hex value⟩
    | truth =>
      by_cases harg : arg = .bool false
      · subst harg
        exact ⟨_, .isFalse⟩
      · exact ⟨_, .isTrue harg⟩

namespace Filled

variable {args : List Argument} {before after : List Directive} {out : List Char}

/-- Directives that end with a character are filled by what fills those in front, and that
character. -/
theorem literal_iff {c : Char} :
    Filled args (before ++ [.literal c]) out ↔ ∃ front, out = front ++ [c] ∧ Filled args before front := by
  constructor
  · intro h
    generalize hdirectives : before ++ [Directive.literal c] = directives at h
    cases h with
    | nil => simp at hdirectives
    | literal c' h =>
      obtain ⟨rfl, hlast⟩ := List.append_inj' hdirectives rfl
      cases hlast
      exact ⟨_, rfl, h⟩
    | convert =>
      obtain ⟨-, hlast⟩ := List.append_inj' hdirectives rfl
      cases hlast
  · rintro ⟨front, rfl, h⟩
    exact .literal c h

/-- Directives that end with a conversion are filled by what fills those in front, and the text of
its argument. -/
theorem convert_iff {number : Option Nat} {conversion : Conversion} :
    Filled args (before ++ [.convert number conversion]) out ↔
      ∃ front arg text, out = front ++ text.toList ∧ Filled args before front ∧
        argument? args before number = some arg ∧ WrittenAs conversion arg text := by
  constructor
  · intro h
    generalize hdirectives : before ++ [Directive.convert number conversion] = directives at h
    cases h with
    | nil => simp at hdirectives
    | literal =>
      obtain ⟨-, hlast⟩ := List.append_inj' hdirectives rfl
      cases hlast
    | convert h harg htext =>
      obtain ⟨rfl, hlast⟩ := List.append_inj' hdirectives rfl
      cases hlast
      exact ⟨_, _, _, rfl, h, harg, htext⟩
  · rintro ⟨front, arg, text, rfl, h, harg, htext⟩
    exact .convert h harg htext

/-- What comes first is filled by itself. -/
theorem front (h : Filled args (before ++ after) out) : ∃ out', Filled args before out' := by
  induction after using List.reverseRecOn generalizing out with
  | nil => exact ⟨out, by simpa using h⟩
  | append_singleton after d ih =>
    rw [← List.append_assoc] at h
    cases d with
    | literal c =>
      obtain ⟨out', -, h⟩ := literal_iff.mp h
      exact ih h
    | convert number conversion =>
      obtain ⟨out', _, _, -, h, -, -⟩ := convert_iff.mp h
      exact ih h

/-- Every conversion that is filled has an argument that it can write. -/
theorem exists_argument {number : Option Nat} {conversion : Conversion}
    (h : Filled args (before ++ .convert number conversion :: after) out) :
    ∃ arg text, argument? args before number = some arg ∧ WrittenAs conversion arg text := by
  have hsplit : before ++ .convert number conversion :: after =
      before ++ [.convert number conversion] ++ after := by simp
  rw [hsplit] at h
  obtain ⟨out', h⟩ := h.front
  obtain ⟨_, arg, text, -, -, harg, htext⟩ := convert_iff.mp h
  exact ⟨arg, text, harg, htext⟩

/-- Directives come to one text at most. -/
theorem unique {out' : List Char} (h : Filled args before out) (h' : Filled args before out') :
    out = out' := by
  induction h generalizing out' with
  | nil =>
    generalize hnil : ([] : List Directive) = directives at h'
    cases h' with
    | nil => rfl
    | literal | convert => simp at hnil
  | literal c _ ih =>
    obtain ⟨front, rfl, hfront⟩ := literal_iff.mp h'
    rw [ih hfront]
  | convert _ harg htext ih =>
    obtain ⟨front, arg, text, rfl, hfront, harg', htext'⟩ := convert_iff.mp h'
    rw [harg] at harg'
    cases harg'
    have hsame := (write?_eq_some_iff.mpr htext).symm.trans (write?_eq_some_iff.mpr htext')
    cases hsame
    rw [ih hfront]

end Filled

/-- Directives can be filled exactly if the arguments fit. -/
theorem exists_filled_iff {args : List Argument} {directives : List Directive} :
    (∃ out, Filled args directives out) ↔ ArgumentsFit args directives := by
  constructor
  · rintro ⟨out, h⟩ before number conversion after rfl
    obtain ⟨arg, text, harg, htext⟩ := h.exists_argument
    exact ⟨arg, harg, exists_writtenAs_iff.mp ⟨text, htext⟩⟩
  · intro h
    -- From the end, as the argument of a conversion is counted by those in front of it.
    induction directives using List.reverseRecOn with
    | nil => exact ⟨[], .nil⟩
    | append_singleton directives d ih =>
      have hfront : ArgumentsFit args directives := by
        intro before number conversion after heq
        exact h before number conversion (after ++ [d]) (by simp [heq])
      obtain ⟨out, hout⟩ := ih hfront
      cases d with
      | literal c => exact ⟨_, .literal c hout⟩
      | convert number conversion =>
        obtain ⟨arg, harg, hnumber⟩ := h directives number conversion [] rfl
        obtain ⟨text, htext⟩ := exists_writtenAs_iff.mpr hnumber
        exact ⟨_, .convert hout harg htext⟩

/-- To go on filling behind what is filled already. The counter is the count of the conversions
without a number, and the text is held last character first. -/
theorem fillOnto_eq_ok_iff {args : List Argument} {before : List Directive} {front : List Char}
    (h : Filled args before front) (directives : List Directive) (out : List Char) :
    fillOnto args.toArray front.reverse (before.countP isCounting) directives = .ok out ↔
      Filled args (before ++ directives) out := by
  induction directives generalizing before front with
  | nil =>
    simp only [fillOnto, List.reverse_reverse, Except.ok.injEq, List.append_nil]
    constructor
    · rintro rfl
      exact h
    · exact h.unique
  | cons d rest ih =>
    have hsplit : before ++ d :: rest = before ++ [d] ++ rest := by simp
    cases d with
    | literal c =>
      have hnext := ih (h.literal c)
      rw [hsplit]
      simpa [fillOnto, isCounting] using hnext
    | convert number conversion =>
      have hindex : args.toArray[number.elim (before.countP isCounting) (· - 1)]? =
          argument? args before number := by
        cases number <;> simp [argument?, argumentNumber]
      have hcount : (before ++ [Directive.convert number conversion]).countP isCounting =
          if number.isNone then before.countP isCounting + 1 else before.countP isCounting := by
        cases number <;> simp [isCounting]
      simp only [fillOnto, hindex]
      cases harg : argument? args before number with
      | none =>
        -- Without an argument the directives cannot be filled up to here.
        refine ⟨nofun, fun hfilled => ?_⟩
        obtain ⟨arg, _, hsome, -⟩ := hfilled.exists_argument
        rw [harg] at hsome
        cases hsome
      | some arg =>
        cases htext : conversion.write? arg with
        | none =>
          simp only [htext]
          refine ⟨nofun, fun hfilled => ?_⟩
          obtain ⟨arg', text, hsome, hwritten⟩ := hfilled.exists_argument
          rw [harg] at hsome
          cases hsome
          rw [write?_eq_some_iff.mpr hwritten] at htext
          cases htext
        | some text =>
          have hnext := ih (h.convert harg (write?_eq_some_iff.mp htext))
          have hwritten : (front ++ text.toList).reverse =
              text.toList.reverseAux front.reverse := by
            rw [List.reverse_append, List.reverseAux_eq]
          rw [hcount, hwritten, ← hsplit] at hnext
          simp only [htext]
          exact hnext

/-- A scan without a fault is filled exactly if its directives can be filled. -/
theorem fill_eq_ok_iff {scan : Scan} {args : List Argument} {out : List Char} :
    fill scan args = .ok out ↔ scan.fault = none ∧ Filled args scan.directives out := by
  have hfilled := fillOnto_eq_ok_iff (.nil : Filled args [] []) scan.directives out
  simp only [List.reverse_nil, List.countP_nil, List.nil_append] at hfilled
  rw [← hfilled]
  unfold fill
  cases hresult : fillOnto args.toArray [] 0 scan.directives with
  | error fault => simp
  | ok text =>
    cases scan.fault with
    | none => simp
    | some fault => simp

/-- A format is filled exactly if its text splits into directives, and these come to the result. -/
theorem format_eq_ok_iff {template : String} {args : List Argument} {out : String} :
    format template args = .ok out ↔
      ∃ directives, Splits template.toList directives ∧ Filled args directives out.toList := by
  have hfill : format template args = .ok out ↔
      fill (scanFormat template.toList) args = .ok out.toList := by
    unfold format
    cases fill (scanFormat template.toList) args with
    | error fault => simp
    | ok text =>
      rw [Except.ok.injEq, Except.ok.injEq, ← String.toList_inj, String.toList_ofList]
  rw [hfill, fill_eq_ok_iff]
  constructor
  · rintro ⟨hfault, hfilled⟩
    have hscan : scanFormat template.toList =
        ⟨(scanFormat template.toList).directives, none⟩ := by rw [← hfault]
    exact ⟨_, scanFormat_eq_iff.mp hscan, hfilled⟩
  · rintro ⟨directives, hsplits, hfilled⟩
    rw [scanFormat_eq_iff.mpr hsplits]
    exact ⟨rfl, hfilled⟩

/-- What cannot be filled is reported with the whole text, as it was given. -/
theorem format_cases (template : String) (args : List Argument) :
    (∃ out, format template args = .ok out) ∨
      ∃ reason, format template args = .error (.invalidFormat template reason) := by
  unfold format
  cases fill (scanFormat template.toList) args with
  | ok text => exact .inl ⟨_, rfl⟩
  | error fault => exact .inr ⟨_, rfl⟩

/-! ### Words -/

/-- Writes directives as `fillOnto` does, with indices in words of 64 bits, which wrap around. -/
def fillWords (args : Array Argument) (written : List Char) (cursor : UInt64) :
    List Directive → Except FormatFault (List Char)
  | [] => .ok written.reverse
  | .literal c :: rest => fillWords args (c :: written) cursor rest
  | .convert number conversion :: rest =>
    let index := number.elim cursor (UInt64.ofNat · - 1)
    let cursor := if number.isNone then cursor + 1 else cursor
    match args[index.toNat]? with
    | none => .error (.missing (index + 1).toNat conversion)
    | some arg =>
      match conversion.write? arg with
      | some text => fillWords args (text.toList.reverseAux written) cursor rest
      | none => .error (.mismatch conversion arg)

/-- The numbers in directives fit in words, and none is zero. -/
def NumbersFit (directives : List Directive) : Prop :=
  ∀ number conversion, .convert (some number) conversion ∈ directives →
    1 ≤ number ∧ number < 2 ^ 64

/-- The number in a directive that can be spelled fits in a word. -/
theorem numbersFit_cons {d : Directive} {text : List Char} {directives : List Directive}
    (h : Spelled text d) (hrest : NumbersFit directives) : NumbersFit (d :: directives) := by
  intro number conversion hmem
  rcases List.mem_cons.mp hmem with rfl | hmem
  · cases h with
    | numbered hindex => exact ⟨hindex.pos, hindex.lt⟩
  · exact hrest number conversion hmem

/-- What the scan reads has numbers that fit, also where it then meets a fault. -/
theorem numbersFit_scanOnto {s : List Char} {read : List Directive} (h : NumbersFit read) :
    NumbersFit (scanOnto read s).directives := by
  fun_induction scanOnto read s with
  | case1 read => exact fun number conversion hmem => h number conversion (by simpa using hmem)
  | case2 read rest d rest' hread ih =>
    obtain ⟨text, htext, -⟩ := directive_eq_ok_iff.mp hread
    exact ih (numbersFit_cons htext h)
  | case3 read => exact fun number conversion hmem => h number conversion (by simpa using hmem)
  | case4 read c rest hc ih => exact ih (numbersFit_cons (.literal hc) h)

/-- The index of an argument, in a word: the number before the one that is given, or the counter.
With one more, as an error tells it, it fits in a word still. -/
theorem index_word {number : Option Nat} {cursor : UInt64} {count : Nat}
    (hnumber : ∀ n, number = some n → 1 ≤ n ∧ n < 2 ^ 64) (hcount : count + 1 < 2 ^ 64)
    (hcursor : cursor.toNat ≤ count) :
    (number.elim cursor (UInt64.ofNat · - 1)).toNat = number.elim cursor.toNat (· - 1) ∧
      (number.elim cursor (UInt64.ofNat · - 1) + 1).toNat =
        number.elim cursor.toNat (· - 1) + 1 := by
  cases number with
  | none =>
    refine ⟨rfl, ?_⟩
    rw [Option.elim_none, Option.elim_none, UInt64.toNat_add, UInt64.toNat_one]
    omega
  | some n =>
    -- A number is at least 1, so to take 1 away does not wrap around.
    obtain ⟨hpos, hlt⟩ := hnumber n rfl
    have hword : (UInt64.ofNat n).toNat = n := UInt64.toNat_ofNat_of_lt' hlt
    have hone : (1 : UInt64) ≤ UInt64.ofNat n := by
      rw [UInt64.le_iff_toNat_le, hword]
      exact hpos
    have hless : (UInt64.ofNat n - 1).toNat = n - 1 := by
      rw [UInt64.toNat_sub_of_le _ _ hone, hword, UInt64.toNat_one]
    refine ⟨hless, ?_⟩
    rw [Option.elim_some, Option.elim_some, UInt64.toNat_add, hless, UInt64.toNat_one]
    omega

/-- Words do as well as numbers without a bound: no index wraps around, however the digits in the
text of a format read. -/
theorem fillWords_eq {args : Array Argument} {directives : List Directive}
    (hnumbers : NumbersFit directives) (hsize : args.size + 1 < 2 ^ 64) (written : List Char)
    {cursor : UInt64} (hcursor : cursor.toNat ≤ args.size) :
    fillWords args written cursor directives =
      fillOnto args written cursor.toNat directives := by
  induction directives generalizing written cursor with
  | nil => rfl
  | cons d rest ih =>
    have hrest : NumbersFit rest := fun number conversion hmem =>
      hnumbers number conversion (List.mem_cons_of_mem _ hmem)
    cases d with
    | literal c => exact ih hrest (c :: written) hcursor
    | convert number conversion =>
      have hnumber : ∀ n, number = some n → 1 ≤ n ∧ n < 2 ^ 64 := by
        rintro n rfl
        exact hnumbers n conversion List.mem_cons_self
      obtain ⟨hindex, hsucc⟩ := index_word hnumber hsize hcursor
      simp only [fillWords, fillOnto, hindex, hsucc]
      cases harg : args[number.elim cursor.toNat (· - 1)]? with
      | none => rfl
      | some arg =>
        cases htext : conversion.write? arg with
        | none => simp only [htext]
        | some text =>
          simp only [htext]
          cases number with
          | some n => exact ih hrest _ hcursor
          | none =>
            -- The counter stands on an argument, so one more is no more than there are of them.
            have hlt : cursor.toNat < args.size := (Array.getElem?_eq_some_iff.mp harg).1
            have hnext : (cursor + 1).toNat = cursor.toNat + 1 := hsucc
            have hcursor' : (cursor + 1).toNat ≤ args.size := by
              rw [hnext]
              exact hlt
            have hstep := ih hrest (text.toList.reverseAux written) hcursor'
            rw [hnext] at hstep
            exact hstep

/-! ### Formats -/

/-- `format` gives a result for the texts of the grammar whose conversions have the arguments that
they need, and for no others: what the directives come to, in order. All else it reports as a format
that cannot be used, with the whole text.

The last part is about words. There is room for one more than the arguments, as there is in any
machine that holds them. -/
theorem format_accepts_grammar (template : String) (args : List Argument) :
    ((∃ out, format template args = .ok out) ↔
      ∃ directives, Splits template.toList directives ∧ ArgumentsFit args directives) ∧
    (∀ out, format template args = .ok out ↔
      ∃ directives, Splits template.toList directives ∧ Filled args directives out.toList) ∧
    ((¬ ∃ directives, Splits template.toList directives ∧ ArgumentsFit args directives) →
      ∃ reason, format template args = .error (.invalidFormat template reason)) ∧
    (args.length + 1 < 2 ^ 64 →
      fillWords args.toArray [] 0 (scanFormat template.toList).directives =
        fillOnto args.toArray [] 0 (scanFormat template.toList).directives) := by
  have haccepts : (∃ out, format template args = .ok out) ↔
      ∃ directives, Splits template.toList directives ∧ ArgumentsFit args directives := by
    constructor
    · rintro ⟨out, h⟩
      obtain ⟨directives, hsplits, hfilled⟩ := format_eq_ok_iff.mp h
      exact ⟨directives, hsplits, exists_filled_iff.mp ⟨_, hfilled⟩⟩
    · rintro ⟨directives, hsplits, hfit⟩
      obtain ⟨out, hfilled⟩ := exists_filled_iff.mpr hfit
      refine ⟨String.ofList out, format_eq_ok_iff.mpr ⟨directives, hsplits, ?_⟩⟩
      rw [String.toList_ofList]
      exact hfilled
  refine ⟨haccepts, fun out => format_eq_ok_iff, fun hno => ?_, fun hsize => ?_⟩
  · -- Either there is a result, or the error says so.
    rcases format_cases template args with hok | herror
    · exact absurd (haccepts.mp hok) hno
    · exact herror
  · have hnumbers : NumbersFit (scanFormat template.toList).directives :=
      numbersFit_scanOnto (fun number conversion hmem => nomatch hmem)
    exact fillWords_eq hnumbers hsize [] (Nat.zero_le _)

/-- A number with a leading zero, conversions that count around it, and both escapes. The same text
with one argument less has no result. -/
theorem format_counts_around_numbers :
    (∃ directives, Splits "%s %02$s %d%%%n".toList directives ∧
      Filled [.text "a", .int 7] directives "a 7 7%\n".toList) ∧
    (∃ reason, format "%s %02$s %d%%%n" [.text "a"] =
      .error (.invalidFormat "%s %02$s %d%%%n" reason)) ∧
    fillWords #[.text "a", .int 7] [] 0 (scanFormat "%s %02$s %d%%%n".toList).directives =
      .ok "a 7 7%\n".toList := by
  have hok : format "%s %02$s %d%%%n" [.text "a", .int 7] = .ok "a 7 7%\n" := by decide +kernel
  have hmissing : format "%s %02$s %d%%%n" [.text "a"] =
      .error (.invalidFormat "%s %02$s %d%%%n" "missing argument 2 for %s") := by decide +kernel
  have hwith := format_accepts_grammar "%s %02$s %d%%%n" [.text "a", .int 7]
  have hwithout := format_accepts_grammar "%s %02$s %d%%%n" [.text "a"]
  refine ⟨(hwith.2.1 _).mp hok, hwithout.2.2.1 ?_, ?_⟩
  · rw [← hwithout.1]
    rintro ⟨out, h⟩
    rw [hmissing] at h
    cases h
  · rw [hwith.2.2.2 (by decide)]
    decide +kernel

end ModBuild.Proofs.Template
