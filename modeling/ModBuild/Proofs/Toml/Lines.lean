import ModBuild.Proofs.Toml.Quoted
import ModBuild.Proofs.Toml.Scalar
import ModBuild.Toml.Reader

/-!
# `ModBuild.Proofs.Toml.Lines`: settings that are written are read back

A document is written as sections with a heading each, and in a section each setting has a line of
its own. The theorems:

* `readsAs_quoted` and `readsAs_natural`: what a line gives, for texts and for numbers.
* `lines?_heading` and `lines?_setting`: what reading one line adds to a document.
* `lines?_settings` and `lines?_sections`: what many lines add to it.
* `ofText?_documentChars`: a document is read as its sections.
-/

set_option autoImplicit false

namespace ModBuild.Proofs.Toml

open ModBuild ModBuild.Toml ModBuild.Proofs.Text

/-! ### Values -/

/-- A text that stands for a value, up to the end of its line. -/
structure ReadsAs (chars : List Char) (node : Node) : Prop where
  /-- It starts with the value. -/
  starts : ∀ rest, skipBlanks (chars ++ '\n' :: rest) = chars ++ '\n' :: rest
  reads : ∀ limit rest,
    value? limit maxDepth (chars ++ '\n' :: rest) = some (node, '\n' :: rest)

/-- What is written starts with a quote. -/
theorem head_quotedChars (s : List Char) :
    ∃ c more, quotedChars s = c :: more ∧ (c = '"' ∨ c = '\'') := by
  unfold quotedChars linesStart
  cases style s with
  | escaped => exact ⟨_, _, rfl, .inl rfl⟩
  | verbatim => exact ⟨_, _, rfl, .inr rfl⟩
  | escapedLines => exact ⟨_, _, rfl, .inl rfl⟩
  | verbatimLines => exact ⟨_, _, rfl, .inr rfl⟩

/-- A text in quotes is read as that text. -/
theorem readsAs_quoted (text : String) : ReadsAs (quotedChars text.toList) (.text text) := by
  obtain ⟨c, more, hchars, hquote⟩ := head_quotedChars text.toList
  constructor
  · intro rest
    have hblank : isBlank c = false := by rcases hquote with rfl | rfl <;> rfl
    rw [hchars, List.cons_append, skipBlanks, List.dropWhile_cons_of_neg (by simp [hblank])]
  · intro limit rest
    have hread : quotedText? (quotedChars text.toList ++ '\n' :: rest) =
        some (text.toList, '\n' :: rest) :=
      quotedText?_quotedChars text.toList (by simp) (by simp)
    rw [hchars, List.cons_append] at hread ⊢
    have hc : (c = '"' || c = '\'') = true := by rcases hquote with rfl | rfl <;> rfl
    unfold value?
    simp only [hc, if_true, hread, Option.map_some, String.ofList_toList]

/-- A value without quotes ends with its line. -/
theorem cut_line {s : List Char} (h : ∀ c ∈ s, Scalar.isChar c = true) (rest : List Char) :
    Scalar.cut (s ++ '\n' :: rest) = (s, '\n' :: rest) := by
  have hline : Scalar.isChar '\n' = false := by decide
  have htake : (s ++ '\n' :: rest).takeWhile Scalar.isChar = s := by
    rw [List.takeWhile_append_of_pos h, List.takeWhile_cons_of_neg (by simp [hline]),
      List.append_nil]
  have hdrop : (s ++ '\n' :: rest).dropWhile Scalar.isChar = '\n' :: rest := by
    rw [List.dropWhile_append_of_pos h, List.dropWhile_cons_of_neg (by simp [hline])]
  unfold Scalar.cut
  simp only [htake, hdrop]
  rfl

/-- The digits of a number are read as that number. -/
theorem readsAs_natural {n : Nat} (h : n < Nat.pow 2 128) :
    ReadsAs (Nat.toDigits 10 n) (.scalar (.integer n)) := by
  have hread := ofText?_toDigits h
  have hdigits : ∀ c ∈ Nat.toDigits 10 n, Text.isDigit c = true :=
    fun c hc => isDigit_of_mem_toDigits hc
  have hchars : ∀ c ∈ Nat.toDigits 10 n, Scalar.isChar c = true := by
    intro c hc
    have hdigit := Nat.isDigit_of_mem_toDigits (by decide) (by decide) hc
    simp [Scalar.isChar, Char.isAlphanum, hdigit]
  cases hn : Nat.toDigits 10 n with
  | nil => exact absurd hn Nat.toDigits_ne_nil
  | cons c more =>
    rw [hn] at hread hdigits hchars
    have hc := hdigits c List.mem_cons_self
    -- A digit is neither a blank nor a quote or a bracket.
    have hother : ∀ mark, Text.isDigit mark = false → c ≠ mark := by
      rintro mark hmark rfl
      rw [hc] at hmark
      cases hmark
    have hquote : (c = '"' || c = '\'') = false := by
      simp [hother '"' (by decide), hother '\'' (by decide)]
    constructor
    · intro rest
      have hblank : isBlank c = false := by
        simp [isBlank, hother ' ' (by decide), hother '\t' (by decide)]
      rw [List.cons_append, skipBlanks, List.dropWhile_cons_of_neg (by simp [hblank])]
    · intro limit rest
      have hcut := cut_line hchars rest
      rw [List.cons_append] at hcut ⊢
      unfold value?
      simp only [hquote, Bool.false_eq_true, if_false, if_neg (hother '[' (by decide)),
        if_neg (hother '\x7b' (by decide)), hcut, hread, Option.map_some]

/-! ### Keys -/

/-- A name that needs no quotes. -/
def IsBareName (name : String) : Prop :=
  name.toList ≠ [] ∧ ∀ c ∈ name.toList, isBare c = true

instance (name : String) : Decidable (IsBareName name) :=
  decidable_of_iff (name.toList ≠ [] ∧ name.toList.all isBare = true)
    (and_congr_right fun _ => List.all_eq_true)

/-- A character of a bare name starts neither a comment nor a heading, and is no blank. -/
theorem of_isBare {c : Char} (h : isBare c = true) :
    isBlank c = false ∧ c ≠ '\n' ∧ c ≠ '\r' ∧ c ≠ '#' ∧ c ≠ '[' ∧ c ≠ '\uFEFF' := by
  refine ⟨?_, ?_, ?_, ?_, ?_, ?_⟩
  · cases hblank : isBlank c with
    | false => rfl
    | true =>
      simp only [isBlank, Bool.or_eq_true, decide_eq_true_eq] at hblank
      rcases hblank with rfl | rfl <;> exact absurd h (by decide)
  all_goals
    rintro rfl
    exact absurd h (by decide)

section Names

variable {name : String}

/-- A bare name starts with a bare character. -/
theorem IsBareName.cons (h : IsBareName name) :
    ∃ c more, name.toList = c :: more ∧ isBare c = true := by
  obtain ⟨hne, hbare⟩ := h
  cases hname : name.toList with
  | nil => exact absurd hname hne
  | cons c more =>
    rw [hname] at hbare
    exact ⟨c, more, rfl, hbare c List.mem_cons_self⟩

/-- A bare name is read up to what does not belong to it. -/
theorem name?_bare (h : IsBareName name) {rest : List Char}
    (hrest : ∀ c ∈ rest.head?, isBare c = false) :
    name? (name.toList ++ rest) = some (name, rest) := by
  obtain ⟨hne, hbare⟩ := h
  -- What follows is not bare, so it neither adds to the name nor is dropped with it.
  have htake : (name.toList ++ rest).takeWhile isBare = name.toList := by
    rw [List.takeWhile_append_of_pos hbare]
    cases rest with
    | nil => simp
    | cons c rest => simp [hrest c rfl]
  have hdrop : (name.toList ++ rest).dropWhile isBare = rest := by
    rw [List.dropWhile_append_of_pos hbare]
    cases rest with
    | nil => rfl
    | cons c rest => simp [hrest c rfl]
  unfold name?
  rw [htake, hdrop]
  split
  · rename_i hempty
    exact absurd hempty hne
  · rw [String.ofList_toList]

/-- A bare name is read as a key, up to what follows it. -/
theorem key?_bare (h : IsBareName name) (limit : Nat) {rest : List Char}
    (hrest : ∀ c ∈ rest.head?, isBare c = false)
    (hdot : (skipBlanks rest).head? ≠ some '.') :
    key? (limit + 1) (name.toList ++ rest) = some ([], name, skipBlanks rest) := by
  obtain ⟨c, more, hname, hc⟩ := h.cons
  have hskip : skipBlanks (name.toList ++ rest) = name.toList ++ rest := by
    rw [hname, List.cons_append, skipBlanks, List.dropWhile_cons_of_neg (by simp [of_isBare hc])]
  simp only [key?, hskip, name?_bare h hrest, Option.bind_eq_bind, Option.bind_some]
  split
  · rename_i hhead
    rw [hhead] at hdot
    exact absurd rfl hdot
  · rfl

end Names

/-! ### Lines -/

/-- A setting as it is written: its name, the text of its value, and the value. -/
structure Setting where
  name : String
  chars : List Char
  node : Node

namespace Setting

/-- The line of a setting. -/
def line (setting : Setting) : List Char :=
  setting.name.toList ++ ' ' :: '=' :: ' ' :: (setting.chars ++ ['\n'])

/-- What a setting adds to a table. -/
def member (setting : Setting) : String × Node :=
  (setting.name, setting.node)

/-- The line can be read. -/
structure Fits (setting : Setting) : Prop where
  name : IsBareName setting.name
  chars : ReadsAs setting.chars setting.node

end Setting

section Reading

variable {limit fuel : Nat} {draft : Draft} {rest : List Char}

/-- A line is read behind its first character, which is no blank and starts no comment. -/
theorem skipIdle?_of_isBare {c : Char} (h : isBare c = true) (s : List Char) :
    skipIdle? false (c :: s) = some (c :: s) := by
  obtain ⟨hblank, hline, hreturn, hcomment, -, -⟩ := of_isBare h
  simp [skipIdle?, hblank, hline, hreturn, hcomment]

/-- An empty line says nothing. -/
theorem lines?_blank (limit fuel : Nat) (draft : Draft) (s : List Char) :
    lines? limit fuel draft ('\n' :: s) = lines? limit fuel draft s := by
  cases fuel with
  | zero => rfl
  | succ fuel => simp [lines?, skipIdle?]

/-- The line of a setting assigns it, and the lines behind are read from there. -/
theorem lines?_setting {setting : Setting} (h : setting.Fits) {root : Node}
    (hassign : Node.within? false (·.assign? [] setting.name setting.node) draft.path draft.root =
      some root) :
    lines? (limit + 1) (fuel + 1) draft (setting.line ++ rest) =
      lines? (limit + 1) fuel ⟨root, draft.path⟩ rest := by
  obtain ⟨c, more, hname, hc⟩ := h.name.cons
  obtain ⟨-, -, -, -, hheading, -⟩ := of_isBare hc
  have hline : setting.line ++ rest =
      setting.name.toList ++ ' ' :: '=' :: ' ' :: (setting.chars ++ '\n' :: rest) := by
    simp [Setting.line]
  have hstart : setting.line ++ rest =
      c :: (more ++ ' ' :: '=' :: ' ' :: (setting.chars ++ '\n' :: rest)) := by
    rw [hline, hname, List.cons_append]
  -- The blank behind the key is skipped with it, and the one behind the sign in front of the value.
  have hkey : key? (limit + 1) (setting.line ++ rest) =
      some ([], setting.name, '=' :: ' ' :: (setting.chars ++ '\n' :: rest)) := by
    rw [hline]
    exact key?_bare h.name limit (by simp; decide) (by simp [skipBlanks, isBlank])
  have hblank : skipBlanks (' ' :: (setting.chars ++ '\n' :: rest)) =
      setting.chars ++ '\n' :: rest := by
    rw [skipBlanks, List.dropWhile_cons_of_pos rfl]
    exact h.chars.starts rest
  have hsign : keySign? (limit + 1) (setting.line ++ rest) =
      some ([], setting.name, setting.chars ++ '\n' :: rest) := by
    simp only [keySign?, hkey, Option.bind_eq_bind, Option.bind_some, hblank]
  have hsetting : setting? (limit + 1) draft (setting.line ++ rest) =
      some (⟨root, draft.path⟩, '\n' :: rest) := by
    simp only [setting?, hsign, Option.bind_eq_bind, Option.bind_some, h.chars.reads, hassign]
  rw [hstart] at hsetting ⊢
  simp only [lines?, skipIdle?_of_isBare hc, Option.bind_eq_bind, Option.bind_some, if_neg hheading,
    hsetting, skipLine?, if_true]

/-- A heading starts a table. -/
theorem lines?_heading {name : String} (h : IsBareName name) {root : Node}
    (hopen : draft.root.open? [] name = some root) :
    lines? (limit + 1) (fuel + 1) draft ('[' :: (name.toList ++ ']' :: '\n' :: rest)) =
      lines? (limit + 1) fuel ⟨root, [name]⟩ rest := by
  obtain ⟨c, more, hname, hc⟩ := h.cons
  obtain ⟨-, -, -, -, hseveral, -⟩ := of_isBare hc
  have hkey : key? (limit + 1) (name.toList ++ ']' :: '\n' :: rest) =
      some ([], name, ']' :: '\n' :: rest) :=
    key?_bare h limit (by simp; decide) (by simp [skipBlanks, isBlank])
  have hone : ((name.toList ++ ']' :: '\n' :: rest).head? = some '[') = False := by
    rw [hname]
    simpa using hseveral
  have hheading : heading? (limit + 1) draft (name.toList ++ ']' :: '\n' :: rest) =
      some (⟨root, [name]⟩, '\n' :: rest) := by
    simp only [heading?, hone, if_false, hkey, Option.bind_eq_bind, Option.bind_some, hopen,
      heading?.closing?, List.nil_append]
  simp [lines?, skipIdle?, isBlank, hheading, skipLine?]

end Reading

/-! ### Tables -/

section Tables

variable {members before : List (String × Node)} {name : String} {node other : Node}

/-- A fresh name is not found. -/
theorem lookup_of_fresh (h : name ∉ members.map Prod.fst) : members.lookup name = none := by
  rw [List.lookup_eq_none_iff]
  intro member hmember
  have hne : name ≠ member.1 := fun heq => h (heq ▸ List.mem_map_of_mem hmember)
  simpa using hne

/-- A new member comes last. -/
theorem setNew_of_fresh (h : name ∉ members.map Prod.fst) :
    Node.setNew false name node (.table .headed members) =
      some (.table .headed (members ++ [(name, node)])) := by
  simp [Node.setNew, lookup_of_fresh h]

/-- To open a table under a fresh name makes an empty one. -/
theorem open?_of_fresh (h : name ∉ members.map Prod.fst) :
    Node.open? (.table .headed members) [] name =
      some (.table .headed (members ++ [(name, .table .headed [])])) := by
  simp [Node.open?, Node.within?, Node.headed, lookup_of_fresh h]

/-- A fresh name is found where it was put last. -/
theorem lookup_last (h : name ∉ before.map Prod.fst) :
    (before ++ [(name, node)]).lookup name = some node := by
  rw [List.lookup_append, lookup_of_fresh h]
  simp

/-- The last member is replaced by its name, if the name was fresh. -/
theorem replaced_last (h : name ∉ before.map Prod.fst) :
    Node.replaced name node (before ++ [(name, other)]) = before ++ [(name, node)] := by
  have hkept : ∀ m ∈ before, (if m.1 = name then (name, node) else m) = m := by
    intro m hm
    rw [if_neg]
    rintro rfl
    exact h (List.mem_map_of_mem hm)
  have hmap : before.map (fun m => if m.1 = name then (name, node) else m) = before :=
    (List.map_congr_left hkept).trans (List.map_id' before)
  simp [Node.replaced, hmap]

/-- A setting goes to the table of the last heading. -/
theorem assign_last (hbefore : name ∉ before.map Prod.fst) {setting : String}
    (hnew : setting ∉ members.map Prod.fst) :
    Node.within? false (·.assign? [] setting node) [name]
        (.table .headed (before ++ [(name, .table .headed members)])) =
      some (.table .headed (before ++
        [(name, .table .headed (members ++ [(setting, node)]))])) := by
  simp [Node.within?, Node.assign?, lookup_last hbefore, replaced_last hbefore,
    setNew_of_fresh hnew]

end Tables

/-! ### Documents -/

/-- A heading and the settings under it. -/
structure Section where
  name : String
  settings : List Setting

namespace Section

/-- The lines of a section. -/
def chars (part : Section) : List Char :=
  '[' :: (part.name.toList ++ ']' :: '\n' :: part.settings.flatMap Setting.line)

/-- What a section adds to a document. -/
def member (part : Section) : String × Node :=
  (part.name, .table .headed (part.settings.map Setting.member))

/-- The lines can be read, and no setting is there twice. -/
structure Fits (part : Section) : Prop where
  name : IsBareName part.name
  distinct : (part.settings.map Setting.name).Nodup
  settings : ∀ setting ∈ part.settings, setting.Fits

end Section

/-- Sections with an empty line between them. -/
def documentChars (parts : List Section) : List Char :=
  ['\n'].intercalate (parts.map Section.chars)

section Many

variable {fuel : Nat} {before : List (String × Node)} {rest : List Char}

/-- Each line takes one step. With a step more than there are characters, as much is left for the
characters that are left. -/
theorem lines?_settings {name : String} (hname : name ∉ before.map Prod.fst)
    {settings : List Setting} (hfits : ∀ setting ∈ settings, setting.Fits)
    {members : List (String × Node)}
    (hdistinct : (members.map Prod.fst ++ settings.map Setting.name).Nodup)
    (hfuel : (settings.flatMap Setting.line ++ rest).length < fuel) (limit : Nat) :
    ∃ left, rest.length < left ∧
      lines? (limit + 1) fuel
          ⟨.table .headed (before ++ [(name, .table .headed members)]), [name]⟩
          (settings.flatMap Setting.line ++ rest) =
        lines? (limit + 1) left
          ⟨.table .headed (before ++
            [(name, .table .headed (members ++ settings.map Setting.member))]), [name]⟩ rest := by
  induction settings generalizing members fuel with
  | nil =>
    refine ⟨fuel, by simpa using hfuel, ?_⟩
    simp
  | cons setting settings ih =>
    obtain ⟨hfirst, hothers⟩ := List.forall_mem_cons.mp hfits
    obtain ⟨fuel, rfl⟩ : ∃ less, fuel = less + 1 := ⟨fuel - 1, by omega⟩
    have hnew : setting.name ∉ members.map Prod.fst := by
      intro hmem
      exact (List.nodup_append.mp hdistinct).2.2 _ hmem _ List.mem_cons_self rfl
    have hdistinct' : ((members ++ [setting.member]).map Prod.fst ++
        settings.map Setting.name).Nodup := by
      simpa [Setting.member] using hdistinct
    -- A line has at least its end, so one step less is enough for the lines behind it.
    have hless : (settings.flatMap Setting.line ++ rest).length < fuel := by
      have hline : 0 < setting.line.length := by
        simp only [Setting.line, List.length_append, List.length_cons]
        omega
      rw [List.flatMap_cons, List.append_assoc, List.length_append] at hfuel
      omega
    obtain ⟨left, hleft, hrest⟩ := ih hothers hdistinct' hless
    refine ⟨left, hleft, ?_⟩
    rw [List.flatMap_cons, List.append_assoc, lines?_setting hfirst (assign_last hname hnew)]
    rw [Setting.member, List.append_assoc] at hrest
    exact hrest

/-- A section is its heading and its settings. -/
theorem lines?_section {part : Section} (h : part.Fits) (hname : part.name ∉ before.map Prod.fst)
    (hfuel : (part.chars ++ rest).length < fuel) (limit : Nat) (path : List String) :
    ∃ left, rest.length < left ∧
      lines? (limit + 1) fuel ⟨.table .headed before, path⟩ (part.chars ++ rest) =
        lines? (limit + 1) left ⟨.table .headed (before ++ [part.member]), [part.name]⟩ rest := by
  obtain ⟨fuel, rfl⟩ : ∃ less, fuel = less + 1 := ⟨fuel - 1, by omega⟩
  have hchars : part.chars ++ rest = '[' :: (part.name.toList ++
      ']' :: '\n' :: (part.settings.flatMap Setting.line ++ rest)) := by
    simp [Section.chars]
  rw [hchars] at hfuel ⊢
  rw [lines?_heading h.name (open?_of_fresh hname)]
  have hless : (part.settings.flatMap Setting.line ++ rest).length < fuel := by
    simp only [List.length_cons, List.length_append] at hfuel ⊢
    omega
  have hdistinct : (([] : List (String × Node)).map Prod.fst ++
      part.settings.map Setting.name).Nodup := h.distinct
  exact lines?_settings hname h.settings hdistinct hless limit

/-- Sections with names of their own are read as one table each, in order. -/
theorem lines?_sections {parts : List Section} (hfits : ∀ part ∈ parts, part.Fits)
    (hdistinct : (before.map Prod.fst ++ parts.map Section.name).Nodup)
    (hfuel : (documentChars parts).length < fuel) (limit : Nat) (path : List String) :
    lines? (limit + 1) fuel ⟨.table .headed before, path⟩ (documentChars parts) =
      some (.table .headed (before ++ parts.map Section.member)) := by
  induction parts generalizing before path fuel with
  | nil =>
    obtain ⟨fuel, rfl⟩ : ∃ less, fuel = less + 1 := ⟨fuel - 1, by omega⟩
    simp [documentChars, lines?, skipIdle?]
  | cons part parts ih =>
    obtain ⟨hfirst, hothers⟩ := List.forall_mem_cons.mp hfits
    have hname : part.name ∉ before.map Prod.fst := by
      intro hmem
      exact (List.nodup_append.mp hdistinct).2.2 _ hmem _ List.mem_cons_self rfl
    have hdistinct' : ((before ++ [part.member]).map Prod.fst ++
        parts.map Section.name).Nodup := by
      simpa [Section.member] using hdistinct
    -- Behind the last section nothing follows, and behind the others an empty line.
    obtain ⟨rest, hchars, hblank⟩ : ∃ rest, documentChars (part :: parts) = part.chars ++ rest ∧
        ∀ limit fuel draft, lines? limit fuel draft rest =
          lines? limit fuel draft (documentChars parts) ∧
        (documentChars parts).length ≤ rest.length := by
      cases parts with
      | nil => exact ⟨[], by simp [documentChars], fun _ _ _ => ⟨rfl, by simp [documentChars]⟩⟩
      | cons other parts =>
        refine ⟨'\n' :: documentChars (other :: parts), ?_, fun limit fuel draft =>
          ⟨lines?_blank limit fuel draft _, by simp⟩⟩
        simp [documentChars, List.intercalate_cons_cons]
    rw [hchars] at hfuel ⊢
    obtain ⟨left, hleft, hread⟩ := lines?_section hfirst hname hfuel limit path
    obtain ⟨hsame, hlength⟩ := hblank (limit + 1) left
      ⟨.table .headed (before ++ [part.member]), [part.name]⟩
    rw [hread, hsame, ih hothers hdistinct' (by omega) _]
    simp

end Many

/-- A document that is written as sections is read as their tables. -/
theorem ofText?_documentChars {parts : List Section} (hfits : ∀ part ∈ parts, part.Fits)
    (hdistinct : (parts.map Section.name).Nodup) :
    Node.ofText? (String.ofList (documentChars parts)) =
      some (.table .headed (parts.map Section.member)) := by
  -- A document starts with a bracket or is empty, so there is no mark to drop.
  have hmark : ∀ more, documentChars parts ≠ '\uFEFF' :: more := by
    intro more
    cases parts with
    | nil => simp [documentChars]
    | cons part parts =>
      cases parts with
      | nil => simp [documentChars, Section.chars]
      | cons other parts => simp [documentChars, Section.chars, List.intercalate_cons_cons]
  have hnames : (([] : List (String × Node)).map Prod.fst ++ parts.map Section.name).Nodup :=
    hdistinct
  have hread : lines? ((documentChars parts).length + 1) ((documentChars parts).length + 1)
      ⟨.table .headed [], []⟩ (documentChars parts) =
      some (.table .headed ([] ++ parts.map Section.member)) :=
    lines?_sections hfits hnames (Nat.lt_succ_self _) _ []
  unfold Node.ofText?
  rw [String.toList_ofList]
  split
  · rename_i more heq
    exact absurd heq (hmark more)
  · exact hread

end ModBuild.Proofs.Toml
