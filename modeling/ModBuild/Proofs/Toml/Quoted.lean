import Mathlib.Data.List.Basic
import ModBuild.Toml.Quoted

/-!
# `ModBuild.Proofs.Toml.Quoted`: texts that are written are read back

A text is written in one of four ways, and each way is read by rules of its own. Whichever is taken,
the reader gives the text back and stops where it ends. The theorems:

* `numberedChar?_fourDigits` and `writtenChar_cases`: what stands for one character.
* `closing?_run`: a run of up to two quotes does not end a text between three, unless its end
  follows.
* `escapedOnto_written`, `escapedLinesOnto_written`, `verbatimOnto_self` and
  `verbatimLinesOnto_text`:
  the four ways, behind what is read already.
* `quotedText?_quotedChars`: all texts, in the way that is chosen for them.
-/

set_option autoImplicit false

namespace ModBuild.Proofs.Toml

open ModBuild ModBuild.Toml

/-! ### Characters by number -/

/-- Digits are read whatever their case. -/
theorem hexDigit?_toUpper_digitChar {d : Nat} (h : d < 16) :
    Text.hexDigit? (Nat.digitChar d).toUpper = some d := by
  have hall : ∀ d < 16, Text.hexDigit? (Nat.digitChar d).toUpper = some d := by decide
  exact hall d h

/-- Four digits are read as the number that they were written for. -/
theorem hexNumber_fourDigits {n : Nat} (h : n < 65536) : Text.hexNumber (fourDigits n) = n := by
  have h1 : n / 4096 < 16 := by omega
  have h2 : n / 256 % 16 < 16 := by omega
  have h3 : n / 16 % 16 < 16 := by omega
  have h4 : n % 16 < 16 := by omega
  simp only [Text.hexNumber, fourDigits, List.map_cons, List.map_nil, List.foldl_cons,
    List.foldl_nil, hexDigit?_toUpper_digitChar h1, hexDigit?_toUpper_digitChar h2,
    hexDigit?_toUpper_digitChar h3, hexDigit?_toUpper_digitChar h4, Option.getD_some]
  omega

/-- Each of the four digits is a hexadecimal digit. -/
theorem isSome_hexDigit?_of_mem_fourDigits {n : Nat} (h : n < 65536) {c : Char}
    (hc : c ∈ fourDigits n) : (Text.hexDigit? c).isSome = true := by
  obtain ⟨d, hd, rfl⟩ := List.mem_map.mp hc
  have hsmall : d < 16 := by
    simp only [List.mem_cons, List.not_mem_nil, or_false] at hd
    omega
  rw [hexDigit?_toUpper_digitChar hsmall]
  rfl

/-- A character is read from the number that it is written as. -/
theorem numberedChar?_fourDigits {c : Char} (h : c.toNat < 65536) (rest : List Char) :
    numberedChar? 4 (fourDigits c.toNat ++ rest) = some (c, rest) := by
  have hlength : (fourDigits c.toNat).length = 4 := rfl
  have htake : (fourDigits c.toNat ++ rest).take 4 = fourDigits c.toNat := by
    rw [← hlength, List.take_left]
  have hdrop : (fourDigits c.toNat ++ rest).drop 4 = rest := by
    rw [← hlength, List.drop_left]
  have hdigits : (fourDigits c.toNat).all (fun d => (Text.hexDigit? d).isSome) = true :=
    List.all_eq_true.mpr fun d hd => isSome_hexDigit?_of_mem_fourDigits h hd
  have hvalid : c.toNat.isValidChar := c.valid
  unfold numberedChar?
  simp only [htake, hdrop, hexNumber_fourDigits h, hlength, hdigits, hvalid, Char.ofNat_toNat,
    decide_true, Bool.and_self, if_true]

/-! ### One character between double quotes -/

/-- What follows a backslash and starts no line. -/
def IsEscapeLetter (c : Char) : Prop :=
  isBlank c = false ∧ c ≠ '\n' ∧ c ≠ '\r'

instance (c : Char) : Decidable (IsEscapeLetter c) :=
  inferInstanceAs (Decidable (_ ∧ _ ∧ _))

/-- A character that needs no code is plain, unless it ends the line. -/
theorem isPlain_of_uncoded {c : Char} (h : isCoded c = false) (hc : c ≠ '\n') :
    isPlain c = true := by
  simp only [isCoded, Bool.and_eq_false_iff, Bool.or_eq_false_iff, decide_eq_false_iff_not,
    not_not] at h
  simp only [isPlain, Bool.or_eq_true, Bool.and_eq_true, decide_eq_true_eq]
  rcases h with ⟨h, hdel⟩ | h
  · exact .inr ⟨by omega, hdel⟩
  · exact absurd h hc

/-- A character stands for itself, or an escape stands for it. -/
theorem writtenChar_cases (lines : Bool) (c : Char) :
    (writtenChar lines c = [c] ∧ c ≠ '\\' ∧ (isPlain c = true ∨ lines = true ∧ c = '\n')) ∨
    ∃ letter more, writtenChar lines c = '\\' :: letter :: more ∧ IsEscapeLetter letter ∧
      ∀ rest, escape? (letter :: more ++ rest) = some (c, rest) := by
  by_cases hb : c = '\x08'
  · subst hb
    exact .inr ⟨'b', [], rfl, by decide, fun _ => rfl⟩
  by_cases ht : c = '\t'
  · subst ht
    exact .inr ⟨'t', [], rfl, by decide, fun _ => rfl⟩
  by_cases hn : c = '\n'
  · subst hn
    cases lines with
    | true => exact .inl ⟨rfl, by decide, .inr ⟨rfl, rfl⟩⟩
    | false => exact .inr ⟨'n', [], rfl, by decide, fun _ => rfl⟩
  by_cases hf : c = '\x0c'
  · subst hf
    exact .inr ⟨'f', [], rfl, by decide, fun _ => rfl⟩
  by_cases hr : c = '\r'
  · subst hr
    exact .inr ⟨'r', [], rfl, by decide, fun _ => rfl⟩
  by_cases hs : c = '\\'
  · subst hs
    exact .inr ⟨'\\', [], rfl, by decide, fun _ => rfl⟩
  unfold writtenChar
  simp only [hb, ht, hn, hf, hr, hs, if_false]
  cases hcoded : isCoded c with
  | false => exact .inl ⟨rfl, hs, .inl (isPlain_of_uncoded hcoded hn)⟩
  | true =>
    -- Control characters have small numbers.
    have hsmall : c.toNat < 65536 := by
      simp only [isCoded, Bool.and_eq_true, Bool.or_eq_true, decide_eq_true_eq] at hcoded
      omega
    exact .inr ⟨'u', fourDigits c.toNat, rfl, by decide, numberedChar?_fourDigits hsmall⟩

/-- A character other than the quote is written by itself. -/
theorem writtenChars_cons_of_ne (lines : Bool) (free : Nat) {c : Char} (hc : c ≠ '"')
    (s : List Char) :
    writtenChars lines free (c :: s) =
      writtenChar lines c ++ writtenChars lines (if lines then 2 else 0) s := by
  rw [writtenChars]
  exact hc

/-- What stands for a character other than a quote does not start with a quote. -/
theorem head?_writtenChar (lines : Bool) {c : Char} (hc : c ≠ '"') (rest : List Char) :
    ∃ d more, writtenChar lines c ++ rest = d :: more ∧ d ≠ '"' := by
  rcases writtenChar_cases lines c with ⟨hself, -, -⟩ | ⟨letter, more, hescape, -, -⟩
  · exact ⟨c, rest, by rw [hself]; rfl, hc⟩
  · exact ⟨'\\', letter :: more ++ rest, by rw [hescape]; rfl, by decide⟩

/-! ### Between double quotes -/

/-- A quote ends the text. -/
theorem escapedOnto_quote (read s : List Char) :
    escapedOnto read ('"' :: s) = some (read.reverse, s) := by
  rw [escapedOnto]
  rfl

/-- A plain character is read as itself. -/
theorem escapedOnto_plain {c : Char} (hc : isPlain c = true) (hquote : c ≠ '"') (hslash : c ≠ '\\')
    (read s : List Char) : escapedOnto read (c :: s) = escapedOnto (c :: read) s := by
  rw [escapedOnto, if_neg hquote, if_neg hslash, if_pos hc]

/-- An escape is read as the character that it stands for. -/
theorem escapedOnto_escape {c : Char} {s rest : List Char} (h : escape? s = some (c, rest))
    (read : List Char) : escapedOnto read ('\\' :: s) = escapedOnto (c :: read) rest := by
  rw [escapedOnto, if_neg (by decide), if_pos rfl]
  split
  · rename_i hescape
    rw [h] at hescape
    cases hescape
    rfl
  · rename_i hescape
    rw [h] at hescape
    cases hescape

/-- A text is read as it is written, up to its closing quote. -/
theorem escapedOnto_written (s read rest : List Char) :
    escapedOnto read (writtenChars false 0 s ++ '"' :: rest) = some (read.reverse ++ s, rest) := by
  induction s generalizing read with
  | nil =>
    show escapedOnto read ('"' :: rest) = _
    rw [escapedOnto_quote, List.append_nil]
  | cons c s ih =>
    -- Of the quote nothing depends on the mode, and any other character is written by itself.
    by_cases hquote : c = '"'
    · subst hquote
      show escapedOnto read ('\\' :: '"' :: (writtenChars false 0 s ++ '"' :: rest)) = _
      have hescape : escape? ('"' :: (writtenChars false 0 s ++ '"' :: rest)) =
          some ('"', writtenChars false 0 s ++ '"' :: rest) := rfl
      rw [escapedOnto_escape hescape, ih]
      simp
    · rw [writtenChars_cons_of_ne false 0 hquote, List.append_assoc]
      rcases writtenChar_cases false c with
        ⟨hself, hslash, hplain | ⟨hlines, -⟩⟩ | ⟨letter, more, hwritten, -, hescape⟩
      · rw [hself, List.singleton_append, escapedOnto_plain hplain hquote hslash]
        show escapedOnto (c :: read) (writtenChars false 0 s ++ '"' :: rest) = _
        rw [ih]
        simp
      · cases hlines
      · rw [hwritten, List.cons_append, escapedOnto_escape (hescape _)]
        show escapedOnto (c :: read) (writtenChars false 0 s ++ '"' :: rest) = _
        rw [ih]
        simp

/-! ### Between single quotes -/

/-- A text without quotes is read as it is, up to its closing quote. -/
theorem verbatimOnto_self {s : List Char} (hplain : ∀ c ∈ s, isPlain c = true)
    (hquote : '\'' ∉ s) (read rest : List Char) :
    verbatimOnto read (s ++ '\'' :: rest) = some (read.reverse ++ s, rest) := by
  induction s generalizing read with
  | nil => simp [verbatimOnto]
  | cons c s ih =>
    obtain ⟨hc, hs⟩ := List.forall_mem_cons.mp hplain
    have hne : c ≠ '\'' := fun h => hquote (h ▸ List.mem_cons_self)
    have hrest : '\'' ∉ s := fun h => hquote (List.mem_cons_of_mem c h)
    rw [List.cons_append, verbatimOnto, if_neg hne, if_pos hc, ih hs hrest]
    simp

/-! ### Runs of quotes -/

section Runs

variable {quote : Char}

/-- A text begins with a run of quotes, which may be none. -/
theorem exists_run (quote : Char) (s : List Char) :
    ∃ k t, s = List.replicate k quote ++ t ∧ t.head? ≠ some quote := by
  induction s with
  | nil => exact ⟨0, [], rfl, nofun⟩
  | cons c s ih =>
    by_cases hc : c = quote
    · obtain ⟨k, t, rfl, ht⟩ := ih
      exact ⟨k + 1, t, by rw [hc]; rfl, ht⟩
    · exact ⟨0, c :: s, rfl, by simpa using hc⟩

/-- A run of quotes ends where another character follows. -/
theorem takeWhile_run (k : Nat) {t : List Char} (ht : t.head? ≠ some quote) :
    (List.replicate k quote ++ t).takeWhile (· = quote) = List.replicate k quote := by
  induction k with
  | zero =>
    cases t with
    | nil => rfl
    | cons c t =>
      have hc : c ≠ quote := by simpa using ht
      simp [hc]
  | succ k ih => simp [List.replicate_succ, ih]

/-- A run of up to two quotes belongs to the text. If three more follow, they end it. -/
theorem closing?_run {k : Nat} (hk : k ≤ 2) {t rest : List Char} (ht : t.head? ≠ some quote)
    (hrest : rest.head? ≠ some quote) :
    closing? quote (List.replicate k quote ++ (t ++ quote :: quote :: quote :: rest)) =
      if t = [] then some (k, rest) else none := by
  cases t with
  | nil =>
    -- With nothing in between, the run and the closing quotes are one run of at most five.
    have hrun : List.replicate k quote ++ ([] ++ quote :: quote :: quote :: rest) =
        List.replicate (k + 3) quote ++ rest := by
      rw [List.nil_append, List.replicate_add, List.append_assoc]
      rfl
    have hcount : min 5 (List.replicate (k + 3) quote).length = k + 3 := by
      rw [List.length_replicate]
      omega
    have hdrop : (List.replicate (k + 3) quote ++ rest).drop (k + 3) = rest := by
      have hlength : k + 3 = (List.replicate (k + 3) quote).length := by simp
      exact List.drop_left' hlength.symm
    unfold closing?
    rw [hrun, takeWhile_run (k + 3) hrest]
    simp only [hcount, hdrop]
    simp
  | cons c t =>
    have hc : (c :: t ++ quote :: quote :: quote :: rest).head? ≠ some quote := by simpa using ht
    unfold closing?
    rw [takeWhile_run k hc, List.length_replicate]
    -- The run alone is too short to close anything.
    have hcount : ¬ 3 ≤ min 5 k := by omega
    simp [hcount]

/-- Where no quote comes first, no text ends. -/
theorem closing?_of_ne {c : Char} (hc : c ≠ quote) (s : List Char) :
    closing? quote (c :: s) = none := by
  unfold closing?
  rw [List.takeWhile_cons_of_neg (by simpa using hc)]
  rfl

/-- The longest run is at least as long as the one in front. -/
theorem le_longestRun (quote : Char) (run : Nat) (s : List Char) :
    run ≤ longestRun quote run s := by
  induction s generalizing run with
  | nil => exact Nat.le_refl run
  | cons c s ih =>
    rw [longestRun]
    split
    · exact Nat.le_of_succ_le (ih (run + 1))
    · exact Nat.le_max_left run _

/-- No run is longer than the longest, the one at the start among them. -/
theorem add_le_longestRun (quote : Char) (run k : Nat) (t : List Char) :
    run + k ≤ longestRun quote run (List.replicate k quote ++ t) := by
  induction k generalizing run with
  | zero => exact le_longestRun quote run t
  | succ k ih =>
    have hrest := ih (run + 1)
    rw [List.replicate_succ, List.cons_append, longestRun, if_pos rfl]
    omega

end Runs

/-! ### Between three double quotes -/

/-- Closing quotes end the lines. -/
theorem escapedLinesOnto_closing {c : Char} {s rest : List Char} {more : Nat}
    (h : closing? '"' (c :: s) = some (more, rest)) (read : List Char) :
    escapedLinesOnto false read (c :: s) =
      some ((List.replicate more '"' ++ read).reverse, rest) := by
  rw [escapedLinesOnto]
  simp only [Bool.false_and, Bool.false_eq_true, if_false, h]

/-- A plain character or the end of a line is read as itself. -/
theorem escapedLinesOnto_self {c : Char} {s : List Char} (h : closing? '"' (c :: s) = none)
    (hslash : c ≠ '\\') (hc : isPlain c = true ∨ c = '\n') (read : List Char) :
    escapedLinesOnto false read (c :: s) = escapedLinesOnto false (c :: read) s := by
  have hself : (isPlain c || c = '\n' || (c = '\r' && s.head? = some '\n')) = true := by
    rcases hc with hc | hc <;> simp [hc]
  rw [escapedLinesOnto]
  simp only [Bool.false_and, Bool.false_eq_true, if_false, h, if_neg hslash, hself, if_true]

/-- An escape in lines is read as the character that it stands for. -/
theorem escapedLinesOnto_escape {c : Char} {s rest : List Char}
    (hline : startsLine (s.dropWhile isBlank) = false) (h : escape? s = some (c, rest))
    (read : List Char) :
    escapedLinesOnto false read ('\\' :: s) = escapedLinesOnto false (c :: read) rest := by
  have hopen : closing? '"' ('\\' :: s) = none := closing?_of_ne (by decide) s
  rw [escapedLinesOnto]
  simp only [Bool.false_and, Bool.false_eq_true, if_false, hopen, if_true, hline]
  split
  · rename_i hescape
    rw [h] at hescape
    cases hescape
    rfl
  · rename_i hescape
    rw [h] at hescape
    cases hescape

/-- An escape does not join lines. -/
theorem startsLine_of_isEscapeLetter {c : Char} (h : IsEscapeLetter c) (s : List Char) :
    startsLine ((c :: s).dropWhile isBlank) = false := by
  obtain ⟨hblank, hline, hreturn⟩ := h
  rw [List.dropWhile_cons_of_neg (by simp [hblank])]
  unfold startsLine
  split
  · rename_i h
    cases h
    exact absurd rfl hline
  · rename_i h
    cases h
    exact absurd rfl hreturn
  · rfl

/-- Of quotes in a row no more than the free ones stand for themselves. -/
theorem run_writtenChars (free : Nat) (s : List Char) :
    ∃ k t, writtenChars true free s = List.replicate k '"' ++ t ∧ t.head? ≠ some '"' ∧ k ≤ free ∧
      (t = [] → s = List.replicate k '"') := by
  induction s generalizing free with
  | nil => exact ⟨0, [], rfl, nofun, Nat.zero_le free, fun _ => rfl⟩
  | cons c s ih =>
    by_cases hquote : c = '"'
    · subst hquote
      -- Once none is free, the next quote is written as an escape.
      cases free with
      | zero => exact ⟨0, _, rfl, by simp, Nat.le_refl 0, nofun⟩
      | succ free =>
        obtain ⟨k, t, hwritten, ht, hk, hall⟩ := ih free
        refine ⟨k + 1, t, ?_, ht, Nat.succ_le_succ hk, fun h => ?_⟩
        · rw [writtenChars, hwritten]
          rfl
        · rw [hall h]
          rfl
    · rw [writtenChars_cons_of_ne true free hquote]
      obtain ⟨d, more, hwritten, hd⟩ := head?_writtenChar true hquote (writtenChars true 2 s)
      refine ⟨0, d :: more, hwritten, by simpa using hd, Nat.zero_le free, nofun⟩

/-- Lines are read as they are written, up to their closing quotes. -/
theorem escapedLinesOnto_written {free : Nat} (hfree : free ≤ 2) (s read : List Char)
    {rest : List Char} (hrest : rest.head? ≠ some '"') :
    escapedLinesOnto false read (writtenChars true free s ++ '"' :: '"' :: '"' :: rest) =
      some (read.reverse ++ s, rest) := by
  induction s generalizing free read with
  | nil =>
    have hclosing := closing?_run (Nat.zero_le 2) (t := []) nofun hrest
    show escapedLinesOnto false read ('"' :: '"' :: '"' :: rest) = _
    rw [escapedLinesOnto_closing hclosing]
    simp
  | cons c s ih =>
    by_cases hquote : c = '"'
    · subst hquote
      cases free with
      | zero =>
        rw [writtenChars]
        have hline := startsLine_of_isEscapeLetter (c := '"') (by decide)
          (writtenChars true 2 s ++ '"' :: '"' :: '"' :: rest)
        show escapedLinesOnto false read
          ('\\' :: '"' :: (writtenChars true 2 s ++ '"' :: '"' :: '"' :: rest)) = _
        rw [escapedLinesOnto_escape hline rfl, ih (Nat.le_refl 2)]
        simp
      | succ free =>
        -- The run of quotes that begins here ends the text, or there is more of it.
        obtain ⟨k, t, hwritten, ht, hk, hall⟩ := run_writtenChars (free + 1) ('"' :: s)
        have hclosing := closing?_run (k := k) (by omega) ht hrest
        rw [← List.append_assoc, ← hwritten] at hclosing
        rw [writtenChars, List.cons_append] at hclosing ⊢
        by_cases hend : t = []
        · rw [if_pos hend] at hclosing
          rw [escapedLinesOnto_closing hclosing, hall hend]
          simp
        · rw [if_neg hend] at hclosing
          rw [escapedLinesOnto_self hclosing (by decide) (.inl rfl), ih (by omega)]
          simp
    · rw [writtenChars_cons_of_ne true free hquote, List.append_assoc]
      show escapedLinesOnto false read (writtenChar true c ++ (writtenChars true 2 s ++ _)) = _
      rcases writtenChar_cases true c with
        ⟨hself, hslash, hplain⟩ | ⟨letter, more, hwritten, hletter, hescape⟩
      · have hc : isPlain c = true ∨ c = '\n' := hplain.imp_right And.right
        rw [hself, List.singleton_append,
          escapedLinesOnto_self (closing?_of_ne hquote _) hslash hc, ih (Nat.le_refl 2)]
        simp
      · have hread := hescape (writtenChars true 2 s ++ '"' :: '"' :: '"' :: rest)
        rw [List.cons_append] at hread
        rw [hwritten, List.cons_append, List.cons_append,
          escapedLinesOnto_escape (startsLine_of_isEscapeLetter hletter _) hread,
          ih (Nat.le_refl 2)]
        simp

/-! ### Between three single quotes -/

/-- Closing quotes end the lines. -/
theorem verbatimLinesOnto_closing {c : Char} {s rest : List Char} {more : Nat}
    (h : closing? '\'' (c :: s) = some (more, rest)) (read : List Char) :
    verbatimLinesOnto read (c :: s) = some ((List.replicate more '\'' ++ read).reverse, rest) := by
  simp only [verbatimLinesOnto, h]

/-- A plain character or the end of a line is read as itself. -/
theorem verbatimLinesOnto_self {c : Char} {s : List Char} (h : closing? '\'' (c :: s) = none)
    (hc : isPlain c = true ∨ c = '\n') (read : List Char) :
    verbatimLinesOnto read (c :: s) = verbatimLinesOnto (c :: read) s := by
  have hself : (isPlain c || c = '\n' || (c = '\r' && s.head? = some '\n')) = true := by
    rcases hc with hc | hc <;> simp [hc]
  simp only [verbatimLinesOnto, h, hself, if_true]

/-- Lines without three quotes in a row are read as they are, up to their closing quotes. -/
theorem verbatimLinesOnto_text {s : List Char} {run : Nat}
    (hplain : ∀ c ∈ s, isPlain c = true ∨ c = '\n') (hrun : longestRun '\'' run s ≤ 2)
    (read : List Char) {rest : List Char} (hrest : rest.head? ≠ some '\'') :
    verbatimLinesOnto read (s ++ '\'' :: '\'' :: '\'' :: rest) =
      some (read.reverse ++ s, rest) := by
  induction s generalizing run read with
  | nil =>
    have hclosing := closing?_run (Nat.zero_le 2) (t := []) nofun hrest
    show verbatimLinesOnto read ('\'' :: '\'' :: '\'' :: rest) = _
    rw [verbatimLinesOnto_closing hclosing]
    simp
  | cons c s ih =>
    obtain ⟨hc, hs⟩ := List.forall_mem_cons.mp hplain
    obtain ⟨k, t, htext, ht⟩ := exists_run '\'' (c :: s)
    -- No more than two quotes are left of the run that the text is in.
    have hk : run + k ≤ 2 := by
      have hle := add_le_longestRun '\'' run k t
      rw [← htext] at hle
      omega
    have hclosing := closing?_run (k := k) (by omega) ht hrest
    rw [← List.append_assoc, ← htext, List.cons_append] at hclosing
    rw [List.cons_append]
    by_cases hend : t = []
    · rw [if_pos hend] at hclosing
      rw [verbatimLinesOnto_closing hclosing, htext, hend]
      simp
    · -- The run goes on with this character, or it is over.
      have hleft : ∃ run', longestRun '\'' run' s ≤ 2 := by
        rw [longestRun] at hrun
        split at hrun
        · exact ⟨run + 1, hrun⟩
        · exact ⟨0, by omega⟩
      obtain ⟨run', hleft⟩ := hleft
      rw [if_neg hend] at hclosing
      rw [verbatimLinesOnto_self hclosing hc, ih hs hleft]
      simp

/-! ### All texts -/

/-- In a text without codes no character needs one. -/
theorem uncoded_of_plain {s : List Char} (h : (!s.any isCoded) = true) {c : Char} (hc : c ∈ s) :
    isCoded c = false := by
  simp only [Bool.not_eq_true', List.any_eq_false] at h
  simpa using h c hc

/-- Single quotes are for texts of one line without a single quote. -/
theorem of_style_verbatim {s : List Char} (h : style s = .verbatim) :
    (∀ c ∈ s, isPlain c = true) ∧ '\'' ∉ s := by
  unfold style at h
  simp only at h
  split at h
  · cases h
  · split at h
    · rename_i hverbatim
      simp only [Bool.and_eq_true, Bool.not_eq_true', List.contains_eq_mem,
        decide_eq_false_iff_not] at hverbatim
      obtain ⟨⟨hplain, hquote⟩, hline⟩ := hverbatim
      refine ⟨fun c hc => isPlain_of_uncoded (uncoded_of_plain (by simp [hplain]) hc) ?_, hquote⟩
      rintro rfl
      exact hline hc
    · split at h
      · cases h
      · split at h
        · cases h
        · split at h <;> cases h

/-- Three single quotes are for texts without three single quotes in a row. -/
theorem of_style_verbatimLines {s : List Char} (h : style s = .verbatimLines) :
    (∀ c ∈ s, isPlain c = true ∨ c = '\n') ∧ longestRun '\'' 0 s ≤ 2 := by
  unfold style at h
  simp only at h
  split at h
  · cases h
  · split at h
    · cases h
    · split at h
      · cases h
      · split at h
        · rename_i hverbatim
          simp only [Bool.and_eq_true, decide_eq_true_eq] at hverbatim
          obtain ⟨hplain, hrun⟩ := hverbatim
          refine ⟨fun c hc => ?_, hrun⟩
          by_cases hline : c = '\n'
          · exact .inr hline
          · exact .inl (isPlain_of_uncoded (uncoded_of_plain hplain hc) hline)
        · split at h <;> cases h

/-- A line end behind the opening quotes is there for the text that has lines, and passed over. -/
theorem withoutLineEnd_linesStart (quote : Char) {s written : List Char}
    (h : s.contains '\n' = false → ∀ d more, written = d :: more → d ≠ '\n' ∧ d ≠ '\r') :
    ∃ body, linesStart quote s ++ written = quote :: quote :: quote :: body ∧
      withoutLineEnd body = written := by
  unfold linesStart
  cases hlines : s.contains '\n' with
  | true => exact ⟨'\n' :: written, rfl, rfl⟩
  | false =>
    refine ⟨written, rfl, ?_⟩
    cases written with
    | nil => rfl
    | cons d more =>
      obtain ⟨hline, hreturn⟩ := h hlines d more rfl
      unfold withoutLineEnd
      split
      · rename_i heq
        cases heq
        exact absurd rfl hline
      · rename_i heq
        cases heq
        exact absurd rfl hreturn
      · rfl

/-- Between double quotes nothing starts a line where there is no line end. -/
theorem head_writtenChars {s : List Char} (h : s.contains '\n' = false) {d : Char}
    {more : List Char} (hwritten : writtenChars true 2 s = d :: more) : d ≠ '\n' ∧ d ≠ '\r' := by
  cases s with
  | nil => cases hwritten
  | cons c s =>
    have hline : c ≠ '\n' := by
      rintro rfl
      simp at h
    by_cases hquote : c = '"'
    · subst hquote
      rw [writtenChars] at hwritten
      cases hwritten
      decide
    · rw [writtenChars_cons_of_ne true 2 hquote] at hwritten
      rcases writtenChar_cases true c with
        ⟨hself, -, hplain⟩ | ⟨letter, spelled, hescape, -, -⟩
      · rw [hself] at hwritten
        cases hwritten
        -- A carriage return is neither plain nor a line end, so it is written as an escape.
        refine ⟨hline, ?_⟩
        rintro rfl
        rcases hplain with hplain | ⟨-, hreturn⟩
        · exact absurd hplain (by decide)
        · cases hreturn
      · rw [hescape] at hwritten
        cases hwritten
        decide

/-- A text that is written with escapes is read back. -/
theorem quotedText?_escaped (s : List Char) {rest : List Char} (hrest : rest.head? ≠ some '"') :
    quotedText? ('"' :: (writtenChars false 0 s ++ '"' :: rest)) = some (s, rest) := by
  have hline : quotedLine? ('"' :: (writtenChars false 0 s ++ '"' :: rest)) = some (s, rest) :=
    escapedOnto_written s [] rest
  unfold quotedText?
  split
  · -- Three quotes in a row would need one more behind an empty text.
    rename_i body heq
    cases s with
    | nil =>
      cases heq
      exact absurd rfl hrest
    | cons c s =>
      by_cases hquote : c = '"'
      · subst hquote
        cases heq
      · rw [writtenChars_cons_of_ne false 0 hquote, List.append_assoc] at heq
        obtain ⟨d, more, hwritten, hd⟩ := head?_writtenChar false hquote
          (writtenChars false 0 s ++ '"' :: rest)
        have hsame := (List.cons.inj heq).2
        have hhead := hwritten.symm.trans hsame
        exact absurd (List.cons.inj hhead).1 hd
  · rename_i heq
    cases heq
  · exact hline

/-- A text that is written as it is is read back. -/
theorem quotedText?_verbatim {s : List Char} (hplain : ∀ c ∈ s, isPlain c = true)
    (hquote : '\'' ∉ s) {rest : List Char} (hrest : rest.head? ≠ some '\'') :
    quotedText? ('\'' :: (s ++ '\'' :: rest)) = some (s, rest) := by
  have hline : quotedLine? ('\'' :: (s ++ '\'' :: rest)) = some (s, rest) :=
    verbatimOnto_self hplain hquote [] rest
  unfold quotedText?
  split
  · rename_i heq
    cases heq
  · rename_i body heq
    cases s with
    | nil =>
      cases heq
      exact absurd rfl hrest
    | cons c s =>
      have hsame := (List.cons.inj heq).2
      rw [List.cons_append] at hsame
      exact absurd ((List.cons.inj hsame).1 ▸ List.mem_cons_self) hquote
  · exact hline

/-- What is written is read back, up to where it ends. -/
theorem quotedText?_quotedChars (s : List Char) {rest : List Char} (hdouble : rest.head? ≠ some '"')
    (hsingle : rest.head? ≠ some '\'') :
    quotedText? (quotedChars s ++ rest) = some (s, rest) := by
  unfold quotedChars
  cases hstyle : style s with
  | escaped =>
    simp only [List.cons_append, List.append_assoc]
    exact quotedText?_escaped s hdouble
  | verbatim =>
    obtain ⟨hplain, hquote⟩ := of_style_verbatim hstyle
    simp only [List.cons_append, List.append_assoc]
    exact quotedText?_verbatim hplain hquote hsingle
  | escapedLines =>
    simp only [List.append_assoc, List.cons_append, List.nil_append]
    -- A text of one line is written right behind the quotes, so it must not look like a line end.
    have hstart : s.contains '\n' = false → ∀ d more,
        writtenChars true 2 s ++ '"' :: '"' :: '"' :: rest = d :: more → d ≠ '\n' ∧ d ≠ '\r' := by
      intro hlines d more heq
      cases hwritten : writtenChars true 2 s with
      | nil =>
        rw [hwritten] at heq
        cases heq
        decide
      | cons c written =>
        rw [hwritten] at heq
        cases heq
        exact head_writtenChars hlines hwritten
    obtain ⟨body, hbody, hwithout⟩ := withoutLineEnd_linesStart '"' hstart
    rw [hbody]
    show escapedLinesOnto false [] (withoutLineEnd body) = _
    rw [hwithout, escapedLinesOnto_written (Nat.le_refl 2) s [] hdouble]
    rfl
  | verbatimLines =>
    obtain ⟨hplain, hrun⟩ := of_style_verbatimLines hstyle
    simp only [List.append_assoc, List.cons_append, List.nil_append]
    -- As before, but here the text stands as it is.
    have hstart : s.contains '\n' = false → ∀ d more,
        s ++ '\'' :: '\'' :: '\'' :: rest = d :: more → d ≠ '\n' ∧ d ≠ '\r' := by
      intro hlines d more heq
      cases s with
      | nil =>
        cases heq
        decide
      | cons c s =>
        cases heq
        have hline : d ≠ '\n' := by
          rintro rfl
          simp at hlines
        refine ⟨hline, ?_⟩
        rintro rfl
        rcases hplain _ List.mem_cons_self with hplain | hreturn
        · exact absurd hplain (by decide)
        · exact absurd hreturn (by decide)
    obtain ⟨body, hbody, hwithout⟩ := withoutLineEnd_linesStart '\'' hstart
    rw [hbody]
    show verbatimLinesOnto [] (withoutLineEnd body) = _
    rw [hwithout, verbatimLinesOnto_text hplain hrun [] hsingle]
    rfl

end ModBuild.Proofs.Toml
