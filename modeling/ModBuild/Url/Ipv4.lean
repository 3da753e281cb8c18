import ModBuild.Text.Decimal
import ModBuild.Text.Ranges
import ModBuild.Url.Fault

/-!
# `ModBuild.Url.Ipv4`: hosts that are numbers of 32 bits

A host whose last part is a number is an address of four bytes. It has up to four parts, of which
the last stands for all bytes that are left. Parts are decimal, octal behind `0` or hexadecimal
behind `0x`.
-/

set_option autoImplicit false

namespace ModBuild.Url

/-- The digits of a part without the mark of its base, and the base. -/
def ipv4Digits : List Char → List Char × Nat
  | '0' :: 'x' :: rest | '0' :: 'X' :: rest => (rest, 16)
  | '0' :: c :: rest => (c :: rest, 8)
  | digits => (digits, 10)

/-- The number that a part stands for. -/
def ipv4Number? (part : List Char) : Option Nat :=
  if part = [] then none
  else
    let (digits, base) := ipv4Digits part
    digits.foldl (fun n c => do
      let n ← n
      let d ← Text.hexDigit? c
      if d < base then some (n * base + d) else none) (some 0)

/-- The parts of a host, without an empty one at the end. -/
def ipv4Parts (host : List Char) : List (List Char) :=
  let parts := Text.cutAt (· = '.') host
  if parts.length > 1 && parts.getLast? = some [] then parts.dropLast else parts

/-- The last part of a host is a number. -/
def endsInNumber (host : List Char) : Bool :=
  match (ipv4Parts host).getLast? with
  | none | some [] => false
  | some part => part.all Text.isDigit || (ipv4Number? part).isSome

/-- The number that a host stands for. -/
def ipv4Address (host : List Char) : Except Fault Nat :=
  match (ipv4Parts host).mapM ipv4Number? with
  | none => .error .invalidIpv4
  | some numbers =>
    let front := numbers.dropLast
    let last := numbers.getLast?.getD 0
    if numbers.length > 4 || front.any (· > 255) || last ≥ Nat.pow 256 (4 - front.length) then
      .error .invalidIpv4
    else .ok (front.foldl (fun n b => n * 256 + b) 0 * Nat.pow 256 (4 - front.length) + last)

/-- The four bytes of an address with dots between them. -/
def ipv4Text (address : Nat) : String :=
  String.intercalate "." ([3, 2, 1, 0].map fun i => toString (address / Nat.pow 256 i % 256))

end ModBuild.Url
