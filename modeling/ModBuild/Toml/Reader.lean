import ModBuild.Toml.Node
import ModBuild.Toml.Quoted

/-!
# `ModBuild.Toml.Reader`: reading settings

A document is a sequence of lines: settings, which are a key and a value, and headings, under which
the settings of a table follow. Values may be lists and tables in braces, which go over several
lines.

* `Node.ofText?` reads a document.
-/

set_option autoImplicit false

namespace ModBuild.Toml

/-! ### Blanks and comments -/

/-- Takes off blanks, line ends and comments, up to the next thing that means something. -/
def skipIdle? (inComment : Bool) : List Char → Option (List Char)
  | [] => some []
  | c :: s =>
    if c = '\n' then skipIdle? false s
    else if c = '\r' && s.head? = some '\n' then skipIdle? false s
    else if inComment then if isPlain c then skipIdle? true s else none
    else if isBlank c then skipIdle? false s
    else if c = '#' then skipIdle? true s
    else some (c :: s)

/-- Takes off the rest of a line, which holds nothing but blanks and a comment. -/
def skipLine? (inComment : Bool) : List Char → Option (List Char)
  | [] => some []
  | c :: s =>
    if c = '\n' then some s
    else if c = '\r' && s.head? = some '\n' then some (s.drop 1)
    else if inComment then if isPlain c then skipLine? true s else none
    else if isBlank c then skipLine? false s
    else if c = '#' then skipLine? true s
    else none

/-- Takes off blanks. -/
def skipBlanks (s : List Char) : List Char :=
  s.dropWhile isBlank

/-! ### Keys -/

/-- A character of a name without quotes. -/
def isBare (c : Char) : Bool :=
  c.isAlphanum || c = '_' || c = '-'

/-- Reads a name. -/
def name? (s : List Char) : Option (String × List Char) :=
  match s.takeWhile isBare with
  | [] => (quotedLine? s).map fun (text, s) => (String.ofList text, s)
  | bare => some (String.ofList bare, s.dropWhile isBare)

/-- Reads names with dots between them. At most `limit` are read, more than a text that long has. -/
def key? : (limit : Nat) → List Char → Option (List String × String × List Char)
  | 0, _ => none
  | limit + 1, s => do
    let (name, s) ← name? (skipBlanks s)
    match skipBlanks s with
    | '.' :: s =>
      let (path, last, s) ← key? limit s
      some (name :: path, last, s)
    | s => some ([], name, s)

/-! ### Values -/

/-- How deep lists and tables in braces go. -/
def maxDepth : Nat := 80

/-- Reads items up to a closing bracket with commas between them. What was read is in `before`, and
`item` reads one more into it. -/
def itemsOnto? {α : Type} (close : Char) (item : α → List Char → Option (α × List Char)) :
    (limit : Nat) → (before : α) → List Char → Option (α × List Char)
  | 0, _, _ => none
  | limit + 1, before, s => do
    match ← skipIdle? false s with
    | [] => none
    | c :: s =>
      if c = close then some (before, s)
      else
        let (after, s) ← item before (c :: s)
        match ← skipIdle? false s with
        | ',' :: s => itemsOnto? close item limit after s
        | c :: s => if c = close then some (after, s) else none
        | [] => none

/-- Reads a key, and the sign between it and its value. -/
def keySign? (limit : Nat) (s : List Char) : Option (List String × String × List Char) := do
  let (path, name, s) ← key? limit s
  match s with
  | '=' :: s => some (path, name, skipBlanks s)
  | _ => none

/-- Reads a value. `limit` bounds the length of keys and lists, and `depth` tells how deep brackets
may still go. -/
def value? (limit : Nat) : (depth : Nat) → List Char → Option (Node × List Char)
  | _, [] => none
  | depth, c :: s =>
    if c = '"' || c = '\'' then
      (quotedText? (c :: s)).map fun (text, s) => (.text (String.ofList text), s)
    else if c = '[' then
      match depth with
      | 0 => none
      | depth + 1 =>
        let item (before : List Node) (s : List Char) : Option (List Node × List Char) :=
          (value? limit depth s).map fun (item, s) => (item :: before, s)
        (itemsOnto? ']' item limit [] s).map fun (items, s) => (.list items.reverse, s)
    else if c = '\x7b' then
      match depth with
      | 0 => none
      | depth + 1 =>
        let setting (table : Node) (s : List Char) : Option (Node × List Char) := do
          let (path, name, s) ← keySign? limit s
          let (value, s) ← value? limit depth s
          (table.assign? path name value).map fun table => (table, s)
        itemsOnto? '\x7d' setting limit (.table .closed []) s
    else
      let (text, s) := Scalar.cut (c :: s)
      (Scalar.ofText? text).map fun scalar => (.scalar scalar, s)

/-! ### Documents -/

/-- A document as far as it is read: its settings, and the path to the table that settings go to. -/
structure Draft where
  root : Node
  path : List String

/-- Reads a heading behind its first bracket. -/
def heading? (limit : Nat) (draft : Draft) (s : List Char) : Option (Draft × List Char) := do
  let several := s.head? = some '['
  let (path, name, s) ← key? limit (if several then s.drop 1 else s)
  let root ← if several then draft.root.openNext? path name else draft.root.open? path name
  let s ← closing? s
  let s ← if several then closing? s else some s
  some (⟨root, path ++ [name]⟩, s)
where
  /-- Takes off a closing bracket. -/
  closing? : List Char → Option (List Char)
    | ']' :: s => some s
    | _ => none

/-- Reads a setting. -/
def setting? (limit : Nat) (draft : Draft) (s : List Char) : Option (Draft × List Char) := do
  let (path, name, s) ← keySign? limit s
  let (value, s) ← value? limit maxDepth s
  let root ← Node.within? false (·.assign? path name value) draft.path draft.root
  some (⟨root, draft.path⟩, s)

/-- Reads headings and settings to the end. `fuel` is more than there are lines, and `limit` more
than there are characters. -/
def lines? (limit : Nat) : (fuel : Nat) → Draft → List Char → Option Node
  | 0, _, _ => none
  | fuel + 1, draft, s => do
    match ← skipIdle? false s with
    | [] => some draft.root
    | c :: s =>
      let (draft, s) ← if c = '[' then heading? limit draft s else setting? limit draft (c :: s)
      lines? limit fuel draft (← skipLine? false s)

/-- Reads a document. A mark of the byte order may stand in front of it. -/
def Node.ofText? (text : String) : Option Node :=
  let s := match text.toList with
    | '\uFEFF' :: s => s
    | s => s
  let limit := s.length + 1
  lines? limit limit ⟨.table .headed [], []⟩ s

end ModBuild.Toml
