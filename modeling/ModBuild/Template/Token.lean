/-!
# `ModBuild.Template.Token`: placeholder tokens in a text

A token is an `@`, one or more of the letters `A` to `Z` and `_`, and another `@`. One scan serves
all three questions the library asks about tokens: which text may be registered as a name, where a
text holds tokens, and whether any is left.

* `Token.atHead?` reads a token at the head of a text.
* `pieces` cuts a text into its tokens and the characters between them, leftmost token first.
* `hasToken` and `isName` are both read off that scan.
-/

set_option autoImplicit false

namespace ModBuild.Template

/-- The letters a token's name is made of. -/
def isNameLetter (c : Char) : Bool :=
  c = '_' || ('A' ≤ c && c ≤ 'Z')

/-- The text of the token with the given letters. -/
def tokenText (letters : List Char) : List Char :=
  '@' :: letters ++ ['@']

/-- Reads a token at the head of a text: its letters, and the text after its closing `@`. The
letters are the longest run, so a token ends at the first `@` after its start. -/
def tokenAtHead? : List Char → Option (List Char × List Char)
  | '@' :: rest =>
    match rest.takeWhile isNameLetter, rest.dropWhile isNameLetter with
    | [], _ => none
    | letters, '@' :: after => some (letters, after)
    | _, _ => none
  | _ => none

/-- What follows a token is shorter than the text it heads. -/
theorem length_of_tokenAtHead? {s letters after : List Char}
    (h : tokenAtHead? s = some (letters, after)) : after.length < s.length := by
  unfold tokenAtHead? at h
  split at h
  · rename_i rest
    have hle := (List.dropWhile_suffix isNameLetter (l := rest)).length_le
    split at h
    · simp at h
    · rename_i heq _
      simp only [Option.some.injEq, Prod.mk.injEq] at h
      rw [‹rest.dropWhile isNameLetter = _›, h.2] at hle
      simp only [List.length_cons] at hle ⊢
      omega
    · simp at h
  · simp at h

/-- A text is cut into single characters and tokens. -/
inductive Piece where
  | char (c : Char)
  | token (letters : List Char)
  deriving DecidableEq

namespace Piece

/-- The characters a piece stands for. -/
def text : Piece → List Char
  | char c => [c]
  | token letters => tokenText letters

/-- The pieces that are tokens. -/
def isToken : Piece → Bool
  | char _ => false
  | token _ => true

end Piece

/-- Cuts a text into pieces behind those already cut, which are held last first. A token is taken
wherever one starts, so tokens are the leftmost matches that do not overlap. -/
def piecesOnto (cut : List Piece) (s : List Char) : List Piece :=
  match s with
  | [] => cut.reverse
  | c :: rest =>
    match _h : tokenAtHead? (c :: rest) with
    | some (letters, after) => piecesOnto (.token letters :: cut) after
    | none => piecesOnto (.char c :: cut) rest
termination_by s.length
decreasing_by
  · exact length_of_tokenAtHead? _h
  · simp

/-- The pieces of a text, in order. -/
def pieces (s : List Char) : List Piece :=
  piecesOnto [] s

/-- Some token is left in the text. -/
def hasToken (s : List Char) : Bool :=
  (pieces s).any Piece.isToken

/-- The text is one token and nothing else. -/
def isName (s : List Char) : Bool :=
  match tokenAtHead? s with
  | some (_, []) => true
  | _ => false

/-- Where a token stands in a text, in UTF-8 bytes, and its text. -/
structure TokenSpan where
  start : Nat
  stop : Nat
  text : String
  deriving DecidableEq

/-- The number of UTF-8 bytes of a run of characters. -/
def utf8Length (s : List Char) : Nat :=
  s.foldl (fun n c => n + c.utf8Size) 0

/-- The spans of the tokens among some pieces, the first of which starts at the given offset. -/
def spansFrom (offset : Nat) : List Piece → List TokenSpan
  | [] => []
  | .char c :: rest => spansFrom (offset + c.utf8Size) rest
  | .token letters :: rest =>
    let stop := offset + utf8Length (tokenText letters)
    ⟨offset, stop, String.ofList (tokenText letters)⟩ :: spansFrom stop rest

/-- The tokens of a text, in order. -/
def tokenSpans (s : List Char) : List TokenSpan :=
  spansFrom 0 (pieces s)

/-! ### How the cut proceeds -/

/-- What was cut before stands in front of what is cut now. -/
theorem piecesOnto_eq (cut : List Piece) (s : List Char) :
    piecesOnto cut s = cut.reverse ++ pieces s := by
  suffices h : ∀ n (s : List Char), s.length = n → ∀ cut,
      piecesOnto cut s = cut.reverse ++ piecesOnto [] s from h _ s rfl cut
  intro n
  induction n using Nat.strongRecOn with
  | ind n ih =>
    intro s hn cut
    cases s with
    | nil => simp [piecesOnto]
    | cons c rest =>
      rw [piecesOnto.eq_def]
      conv => rhs; rw [piecesOnto.eq_def]
      simp only
      split
      · rename_i letters after h
        have hlt := length_of_tokenAtHead? h
        rw [ih _ (hn ▸ hlt) _ rfl (.token letters :: cut), ih _ (hn ▸ hlt) _ rfl [.token letters]]
        simp
      · have hlt : rest.length < n := by rw [← hn]; simp
        rw [ih _ hlt _ rfl (.char c :: cut), ih _ hlt _ rfl [.char c]]
        simp

/-- The empty text has no pieces. -/
@[simp]
theorem pieces_nil : pieces [] = [] := by
  simp [pieces, piecesOnto]

/-- A token at the head is the first piece. -/
theorem pieces_of_token {s letters after : List Char}
    (h : tokenAtHead? s = some (letters, after)) : pieces s = .token letters :: pieces after := by
  cases s with
  | nil => simp [tokenAtHead?] at h
  | cons c rest =>
    rw [pieces, piecesOnto.eq_def]
    simp only
    split
    · rename_i h'
      rw [h] at h'
      cases h'
      rw [piecesOnto_eq]; simp
    · rename_i h'; rw [h] at h'; cases h'

/-- Where no token starts, the first piece is one character. -/
theorem pieces_of_char {c : Char} {rest : List Char}
    (h : tokenAtHead? (c :: rest) = none) : pieces (c :: rest) = .char c :: pieces rest := by
  rw [pieces, piecesOnto.eq_def]
  simp only
  split
  · rename_i h'; rw [h] at h'; cases h'
  · rw [piecesOnto_eq]; simp

end ModBuild.Template
