import ModBuild.Error
import ModBuild.Text.Decimal
import ModBuild.Text.Ranges

/-!
# `ModBuild.Version.Features`: what a game version brings

The second number of a version decides which tools a build of it uses.
-/

set_option autoImplicit false

namespace ModBuild

/-- The tools that a version uses. -/
structure VersionFeatures where
  newDecompiler : Bool
  newConfig : Bool
  deriving DecidableEq

namespace VersionFeatures

/-- The text between the first dot of a version and the next, if it has a dot. -/
def minorPart? (version : List Char) : Option (List Char) :=
  (Text.cutAt (· = '.') version)[1]?

/-- The tools of a version with a minor number. -/
def ofMinor (minor : Nat) : VersionFeatures :=
  ⟨minor > 11, minor > 12⟩

/-- The tools of a version. One without a dot uses none of the new ones; a minor part must be a
number of 32 bits. -/
def ofVersion (version : String) : Except BuildError VersionFeatures :=
  match minorPart? version.toList with
  | none => .ok ⟨false, false⟩
  | some part =>
    match Text.signedNatural? (Nat.pow 2 32) part with
    | some minor => .ok (ofMinor minor)
    | none => .error (.invalidVersion version)

end VersionFeatures

end ModBuild
