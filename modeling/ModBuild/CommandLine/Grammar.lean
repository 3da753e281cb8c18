/-!
# `ModBuild.CommandLine.Grammar`: what a command line may look like

A program takes options, values by position, and perhaps the name of a command, which has options
and values of its own. A grammar says which, and a reading takes the words of a command line apart.

An option that takes a value is settled when the next one starts or the words end, so of two faults
on a line the one found first is the one reported.

* `Grammar.read` reads the words of a command line.
-/

set_option autoImplicit false

namespace ModBuild.CommandLine

/-- Why a command line is not carried out. -/
inductive Usage where
  /-- The help was asked for. -/
  | help
  /-- The version was asked for. -/
  | version
  /-- Nothing was given where a command is needed. -/
  | nothingGiven
  | missingCommand
  | missingValue
  | unknownCommand
  | unknownWord
  | invalidValue
  | tooManyValues
  | conflict
  deriving DecidableEq

/-- What a person is told. -/
def Usage.message : Usage → String
  | help | version => "Resolve build placeholders and cached version metadata for a project"
  | nothingGiven | missingCommand => "error: a command is missing"
  | missingValue => "error: a required value is missing"
  | unknownCommand => "error: unknown command"
  | unknownWord => "error: unexpected argument"
  | invalidValue => "error: an option has no value or an invalid one"
  | tooManyValues => "error: an option that takes no value has one"
  | conflict => "error: options exclude each other or are given twice"

/-- What an option is followed by, or does. -/
inductive Arity where
  | flag
  | text
  /-- A text that is not empty. -/
  | path
  | help
  | version
  deriving DecidableEq

/-- An option. Its long name is its name. -/
structure Switch where
  name : String
  letter : Option Char
  arity : Arity

/-- A value by position. -/
structure Position where
  name : String
  arity : Arity
  /-- More values may follow, and there may be none. -/
  many : Bool

/-- What a program or a command takes. -/
inductive Grammar where
  | mk (name : String) (switches : List Switch) (positions : List Position)
    (commands : List Grammar)

namespace Grammar

/-- The name of the program or the command. -/
def name : Grammar → String
  | mk name _ _ _ => name

/-- The options that it takes. -/
def switches : Grammar → List Switch
  | mk _ switches _ _ => switches

/-- The values that it takes. -/
def positions : Grammar → List Position
  | mk _ _ positions _ => positions

/-- Its commands. -/
def commands : Grammar → List Grammar
  | mk _ _ _ commands => commands

/-- The name of the command that shows the help of others. -/
def helpName : String := "help"

/-- The command with a name. -/
def command? (g : Grammar) (name : String) : Option Grammar :=
  g.commands.find? (·.name = name)

/-- Help is asked for by the names of commands within commands. -/
def helpFor (g : Grammar) : List String → Usage
  | [] => .help
  | name :: rest =>
    match g.command? name with
    | some inner => inner.helpFor rest
    | none =>
      if name = helpName && rest = [] && g.commands.length > 0 then .help else .unknownCommand

end Grammar

/-- An option or a value that was named and may still get values. -/
structure Pending where
  name : String
  arity : Arity
  /-- More than one value may come. -/
  many : Bool
  values : List String

/-- The words of one program or command as far as they are read. -/
structure Reading where
  /-- What was given, by name. A flag is given with an empty text. -/
  given : List (String × String)
  pending : Option Pending
  /-- The pending option still needs its value. -/
  awaiting : Bool
  /-- Behind two hyphens, all words are values. -/
  trailing : Bool
  /-- The values that are still to come. -/
  positions : List Position

namespace Reading

/-- The name was given. -/
def has (r : Reading) (name : String) : Bool :=
  r.given.any (·.1 = name)

/-- Settles the pending option or value. -/
def settle (r : Reading) : Except Usage Reading :=
  match r.pending with
  | none => .ok r
  | some p =>
    if p.values = [] then .error .invalidValue
    else if !p.many && r.has p.name then .error .conflict
    else if p.arity = .path && p.values.contains "" then .error .invalidValue
    else .ok { r with
      given := r.given ++ p.values.map fun v => (p.name, v)
      pending := none
      awaiting := false }

/-- Takes an option, with a value if one is attached to it. -/
def takeSwitch (r : Reading) (switch : Switch) (attached : Option String) :
    Except Usage Reading := do
  match switch.arity, attached with
  | .text, none | .path, none =>
    let r ← r.settle
    return { r with pending := some ⟨switch.name, switch.arity, false, []⟩, awaiting := true }
  | .text, some value | .path, some value =>
    let r ← r.settle
    settle { r with pending := some ⟨switch.name, switch.arity, false, [value]⟩ }
  | _, some _ => throw .tooManyValues
  | .help, none =>
    let _ ← r.settle
    throw .help
  | .version, none =>
    let _ ← r.settle
    throw .version
  | .flag, none =>
    let r ← r.settle
    if r.has switch.name then throw .conflict
    return { r with given := r.given ++ [(switch.name, "")] }

/-- Takes the letters behind one hyphen. Behind an option with a value, the rest is the value. -/
def takeLetters (switches : List Switch) (r : Reading) : List Char → Except Usage Reading
  | [] => .ok r
  | c :: rest => do
    match switches.find? (·.letter = some c) with
    | none => throw .unknownWord
    | some switch =>
      match switch.arity with
      | .text | .path =>
        match rest with
        | [] => r.takeSwitch switch none
        | '=' :: value => r.takeSwitch switch (some (String.ofList value))
        | value => r.takeSwitch switch (some (String.ofList value))
      | _ => takeLetters switches (← r.takeSwitch switch none) rest

/-- Takes the name behind two hyphens, and the value behind `=`. -/
def takeName (switches : List Switch) (r : Reading) (word : List Char) : Except Usage Reading :=
  let name := String.ofList (word.takeWhile (· ≠ '='))
  let attached :=
    match word.dropWhile (· ≠ '=') with
    | _ :: value => some (String.ofList value)
    | [] => none
  match switches.find? (·.name = name) with
  | some switch => r.takeSwitch switch attached
  | none => .error .unknownWord

/-- Takes a value by position. -/
def takeValue (g : Grammar) (r : Reading) (word : String) : Except Usage Reading :=
  match r.positions with
  | [] =>
    if g.commands.isEmpty then .error .unknownWord
    else if r.trailing && (word = Grammar.helpName || (g.command? word).isSome) then
      .error .unknownWord
    else .error .unknownCommand
  | position :: rest => do
    match r.pending with
    | some p =>
      if position.many && p.name = position.name then
        return { r with pending := some { p with values := p.values ++ [word] } }
    | none => pure ()
    let r ← r.settle
    return { r with
      pending := some ⟨position.name, position.arity, position.many, [word]⟩
      positions := if position.many then position :: rest else rest }

/-- Takes a word that is no name of a command. -/
def takeWord (g : Grammar) (r : Reading) (word : String) : Except Usage Reading :=
  if r.trailing then r.takeValue g word
  else
    match word.toList with
    | ['-', '-'] => .ok { r with trailing := true }
    | '-' :: '-' :: name => r.takeName g.switches name
    | '-' :: c :: letters => r.takeLetters g.switches (c :: letters)
    | _ =>
      match r.awaiting, r.pending with
      | true, some p =>
        .ok { r with pending := some { p with values := p.values ++ [word] }, awaiting := false }
      | _, _ => r.takeValue g word

/-- Checks what was given to a program or a command that needs a command behind it. -/
def checkCommand (g : Grammar) (r : Reading) : Except Usage Unit :=
  if g.commands.isEmpty then .ok ()
  else if r.given = [] then .error .nothingGiven
  else .error .missingCommand

/-- Checks what was given: of two options that exclude each other there is one at most, and the
first value by position is there. -/
def check (g : Grammar) (excluding : List (String × String)) (r : Reading) : Except Usage Unit :=
  if excluding.any (fun (a, b) => r.has a && r.has b) then .error .conflict
  else if g.positions.any (fun p => !p.many && !r.has p.name) then .error .missingValue
  else .ok ()

end Reading

/-- What a command line gives: the names of the commands, and values by name, those of the innermost
command first. -/
structure Given where
  commands : List String
  values : List (String × String)

namespace Given

/-- The first value with a name. -/
def first? (given : Given) (name : String) : Option String :=
  given.values.lookup name

/-- All the values with a name. -/
def all (given : Given) (name : String) : List String :=
  (given.values.filter (·.1 = name)).map (·.2)

/-- The flag was given. -/
def has (given : Given) (name : String) : Bool :=
  (given.first? name).isSome

end Given

namespace Grammar

/-- Settles what is read of a program or a command and checks it. -/
def finish (g : Grammar) (excluding : List (String × String)) (r : Reading) (inner : Option Given) :
    Except Usage Given := do
  let r ← r.settle
  if inner.isNone then r.checkCommand g
  r.check g excluding
  match inner with
  | some given => return ⟨g.name :: given.commands, given.values ++ r.given⟩
  | none => return ⟨[g.name], r.given⟩

/-- Reads the words of a program or a command from where a reading stands. -/
def readFrom (excluding : List (String × String)) : Grammar → Reading → List String →
    Except Usage Given
  | g, r, [] => g.finish excluding r none
  | g, r, word :: rest => do
    if !r.trailing && !r.awaiting then
      if word = helpName && !g.commands.isEmpty then throw (g.helpFor rest)
      if let some inner := g.command? word then
        let given ← readFrom excluding inner ⟨[], none, false, false, inner.positions⟩ rest
        return ← g.finish excluding r (some given)
    readFrom excluding g (← r.takeWord g word) rest

/-- Reads the words of a command line. Of each pair of options in `excluding`, a program or a
command takes one at most. -/
def read (g : Grammar) (excluding : List (String × String)) (words : List String) :
    Except Usage Given :=
  readFrom excluding g ⟨[], none, false, false, g.positions⟩ words

end Grammar

end ModBuild.CommandLine
