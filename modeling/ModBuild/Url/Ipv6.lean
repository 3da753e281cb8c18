import ModBuild.Text.Decimal
import ModBuild.Text.Ranges
import ModBuild.Url.Fault

/-!
# `ModBuild.Url.Ipv6`: hosts in square brackets

An address of eight pieces of 16 bits in hexadecimal, with colons between them. Two colons stand for
a run of zeros, and the last two pieces may be four decimal bytes.
-/

set_option autoImplicit false

namespace ModBuild.Url

/-- A piece of up to four hexadecimal digits. -/
def ipv6Piece? (piece : List Char) : Option Nat :=
  if piece ≠ [] && piece.length ≤ 4 && piece.all (fun c => (Text.hexDigit? c).isSome) then
    some (Text.hexNumber piece)
  else none

/-- A decimal byte without zeros in front. -/
def ipv6Byte? (part : List Char) : Option Nat :=
  if part.length > 1 && part.head? = some '0' then none else Text.naturalBelow? 256 part

/-- Four decimal bytes as two pieces. -/
def ipv6Bytes? (text : List Char) : Option (List Nat) := do
  match ← (Text.cutAt (· = '.') text).mapM ipv6Byte? with
  | [a, b, c, d] => some [a * 256 + b, c * 256 + d]
  | _ => none

/-- The pieces of texts with colons between them. Only the last one of all may be decimal bytes. -/
def ipv6Pieces? : (last : Bool) → List (List Char) → Option (List Nat)
  | _, [] => some []
  | last, [text] =>
    if last && text.contains '.' then ipv6Bytes? text else (ipv6Piece? text).map ([·])
  | last, text :: rest => do
    let piece ← ipv6Piece? text
    let pieces ← ipv6Pieces? last rest
    some (piece :: pieces)

/-- Cuts a text at its first two colons in a row. -/
def splitAtGap : List Char → Option (List Char × List Char)
  | [] => none
  | ':' :: ':' :: rest => some ([], rest)
  | c :: rest => (splitAtGap rest).map fun (before, after) => (c :: before, after)

/-- The texts between colons; none of no text at all. -/
def ipv6Texts (s : List Char) : List (List Char) :=
  if s = [] then [] else Text.cutAt (· = ':') s

/-- The eight pieces of an address. -/
def ipv6Address (s : List Char) : Except Fault (List Nat) :=
  let pieces : Option (List Nat) :=
    match splitAtGap s with
    | none => ipv6Pieces? true (ipv6Texts s)
    | some (before, after) => do
      let front ← ipv6Pieces? false (ipv6Texts before)
      let back ← ipv6Pieces? true (ipv6Texts after)
      if front.length + back.length < 8 then
        some (front ++ List.replicate (8 - front.length - back.length) 0 ++ back)
      else none
  match pieces with
  | some pieces => if pieces.length = 8 then .ok pieces else .error .invalidIpv6
  | none => .error .invalidIpv6

/-- How many zeros pieces start with. -/
def leadingZeros (pieces : List Nat) : Nat :=
  (pieces.takeWhile (· = 0)).length

/-- The first of the longest runs of zeros that are two or longer: where it starts, and its length.
-/
def longestGap (pieces : List Nat) : Option (Nat × Nat) :=
  (List.range pieces.length).foldl (fun best i =>
    let run := leadingZeros (pieces.drop i)
    if run ≥ 2 && run > (best.elim 0 (·.2)) then some (i, run) else best) none

/-- The pieces of an address with colons between them. -/
def ipv6Text (pieces : List Nat) : String :=
  let texts (l : List Nat) : String :=
    String.intercalate ":" (l.map fun n => String.ofList (Nat.toDigits 16 n))
  match longestGap pieces with
  | some (start, run) => texts (pieces.take start) ++ "::" ++ texts (pieces.drop (start + run))
  | none => texts pieces

end ModBuild.Url
