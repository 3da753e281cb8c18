import ModBuild.Url.Idna
import ModBuild.Url.Ipv4
import ModBuild.Url.Ipv6
import ModBuild.Url.Percent

/-!
# `ModBuild.Url.Host`: where an address leads

A host is a name, an address of four bytes, or an address of eight pieces in square brackets. A name
may be written in percent notation and with characters beyond ASCII, and is kept in ASCII.

* `Host.ofText` reads a host and `Host.text` writes one.
* `opaqueFault?` tells what is wrong with a host that is not looked into.
-/

set_option autoImplicit false

namespace ModBuild.Url

/-- Where an address leads. -/
inductive Host where
  | name (text : String)
  | ipv4 (address : Nat)
  | ipv6 (pieces : List Nat)
  deriving DecidableEq

/-- The text of a host. -/
def Host.text : Host → String
  | name text => text
  | ipv4 address => ipv4Text address
  | ipv6 pieces => "[" ++ ipv6Text pieces ++ "]"

/-- The pieces of an address that stands behind a square bracket. -/
def bracketed (s : List Char) : Except Fault (List Nat) :=
  if s.getLast? = some ']' then ipv6Address s.dropLast else .error .invalidIpv6

/-- The characters that percent notation stands for. `none` if they are no UTF-8. -/
def unescaped? (s : List Char) : Option (List Char) :=
  let bytes := percentDecode (String.ofList s).toUTF8.toList
  (String.fromUTF8? ⟨bytes.toArray⟩).map String.toList

/-- The host of a text. -/
def Host.ofText (s : List Char) : Except Fault Host :=
  match s with
  | '[' :: rest => (bracketed rest).map .ipv6
  | _ =>
    match (unescaped? s).bind Idna.hostAscii? with
    | none => .error .idna
    | some host =>
      if host = [] then .error .emptyHost
      else if endsInNumber host then (ipv4Address host).map .ipv4
      else .ok (.name (String.ofList host))

/-- The characters that no host holds, not even one that is not looked into. -/
def isForbidden (c : Char) : Bool :=
  "\x00\t\n\r #/:<>?@[\\]^|".toList.contains c

/-- What is wrong with a host that is not looked into. -/
def opaqueFault? (s : List Char) : Option Fault :=
  match s with
  | '[' :: rest =>
    match bracketed rest with
    | .ok _ => none
    | .error fault => some fault
  | _ => if s.any isForbidden then some .invalidDomainCharacter else none

end ModBuild.Url
