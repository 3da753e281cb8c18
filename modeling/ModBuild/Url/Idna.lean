import ModBuild.Text.Composed
import ModBuild.Url.Idna.Direction
import ModBuild.Url.Idna.Joining
import ModBuild.Url.Idna.Mapping
import ModBuild.Url.Idna.Punycode

/-!
# `ModBuild.Url.Idna`: host names in ASCII

A host name with characters beyond ASCII is mapped to the form in which all its spellings agree.
Then each label with such characters is written in ASCII behind the mark `xn--`. A label that has
the mark already has to be one that would have been written so.

* `hostAscii?` gives the ASCII form of a host name.
-/

set_option autoImplicit false

namespace ModBuild.Url.Idna

/-- The mark of a label that is written in ASCII. -/
def mark : List Char := ['x', 'n', '-', '-']

/-- The most characters a label beyond ASCII has. -/
def longestLabel : Nat := 1000

/-- The most characters behind the mark. -/
def longestWritten : Nat := 2000

/-- All characters are ASCII. -/
def isAscii (s : List Char) : Bool :=
  s.all (·.toNat < 128)

/-- ASCII characters that no host name holds. -/
def isDenied (c : Char) : Bool :=
  c.toNat ≤ 0x20 || c.toNat = 0x7F || "%#/:<>?@[\\]^|".toList.contains c

/-- A label beyond ASCII is well-formed: it does not start with a character that combines with the
one before, and its joiners can be seen. -/
def isWellFormed (label : List Char) : Bool :=
  !(label.head?.any Text.isMark) && joinersVisible [] label && label.length ≤ longestLabel

/-- The label that one behind the mark is the written form of. -/
def unwritten? (written : List Char) : Option (List Char) := do
  if written.getLast?.all (· = '-') || longestWritten < written.length || !isAscii written then none
  else
    let label ← Punycode.decode? written
    if label.all isKept && Text.composed label = label && isWellFormed label then some label
    else none

/-- A mapped label as it is meant, and in ASCII. -/
def label? (label : List Char) : Option (List Char × List Char) :=
  if mark.isPrefixOf label then
    (unwritten? (label.drop mark.length)).map fun meant => (meant, label)
  else if isAscii label then some (label, label)
  else if isWellFormed label then some (label, mark ++ Punycode.encode label)
  else none

/-- The ASCII form of a host name. `none` for a text that is no host name. -/
def hostAscii? (host : List Char) : Option (List Char) := do
  let mapped ← host.mapM mapHostChar
  let name := Text.composed mapped.flatten
  if name.any isDenied then none
  else
    let labels ← (Text.cutAt (· = '.') name).mapM label?
    let meant := labels.map (·.1)
    if runsRight meant.flatten && !meant.all keepsDirection then none
    else some (['.'].intercalate (labels.map (·.2)))

end ModBuild.Url.Idna
