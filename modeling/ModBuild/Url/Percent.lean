import ModBuild.Text.Ranges

/-!
# `ModBuild.Url.Percent`: bytes written as percent signs and digits

A character that may not stand in a part of an address is written as its UTF-8 bytes, each a percent
sign and two digits. Which characters these are differs from part to part; control characters and
those beyond ASCII are among them everywhere.
-/

set_option autoImplicit false

namespace ModBuild.Url

/-- A byte as a percent sign and two digits. -/
def percentByte (b : UInt8) : List Char :=
  let digit (n : Nat) : Char := (Nat.digitChar n).toUpper
  ['%', digit (b.toNat / 16), digit (b.toNat % 16)]

/-- A character as bytes in percent notation. -/
def percentChar (c : Char) : List Char :=
  (String.ofList [c]).toUTF8.toList.flatMap percentByte

/-- Writes the characters of a set, and all that stand in no part of an address, in percent
notation. -/
def percentEncode (set : List Char) (s : List Char) : List Char :=
  s.flatMap fun c =>
    if c.toNat < 0x20 || 0x7F ≤ c.toNat || set.contains c then percentChar c else [c]

/-- The characters written in percent notation in a fragment. -/
def fragmentSet : List Char :=
  [' ', '"', '<', '>', '`']

/-- The characters written in percent notation in a path. -/
def pathSet : List Char :=
  fragmentSet ++ ['#', '?', '\x7b', '\x7d']

/-- The characters written in percent notation in a user name or a password. -/
def userSet : List Char :=
  pathSet ++ ['/', ':', ';', '=', '@', '[', '\\', ']', '^', '|']

/-- The characters written in percent notation in a query. -/
def querySet : List Char :=
  [' ', '"', '#', '<', '>', '\'']

/-- The bytes of a text in which percent notation stands for bytes. A percent sign without two
digits behind it stands for itself. -/
def percentDecode : List UInt8 → List UInt8
  | [] => []
  | 0x25 :: a :: b :: rest =>
    match Text.hexDigit? (Char.ofNat a.toNat), Text.hexDigit? (Char.ofNat b.toNat) with
    | some high, some low => (high * 16 + low).toUInt8 :: percentDecode rest
    | _, _ => 0x25 :: percentDecode (a :: b :: rest)
  | a :: rest => a :: percentDecode rest

end ModBuild.Url
