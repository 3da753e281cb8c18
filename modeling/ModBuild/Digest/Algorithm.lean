import ModBuild.Digest.Sha1
import ModBuild.Digest.Sha2
import ModBuild.Error

/-!
# `ModBuild.Digest.Algorithm`: digests by name

The five algorithms, their names, and the spellings that are read as one of them: letters count in
either case, dashes do not count, and `SHA` alone is SHA-1.
-/

set_option autoImplicit false

namespace ModBuild.Digest

/-- The algorithms that files are digested with. -/
inductive Algorithm where
  | sha1
  | sha224
  | sha256
  | sha384
  | sha512
  deriving DecidableEq

namespace Algorithm

/-- The name of an algorithm. -/
def name : Algorithm → String
  | sha1 => "SHA-1"
  | sha224 => "SHA-224"
  | sha256 => "SHA-256"
  | sha384 => "SHA-384"
  | sha512 => "SHA-512"

/-- A spelling without its dashes, in upper case. Only ASCII letters have a case here. -/
def plainSpelling (spelling : List Char) : List Char :=
  (spelling.map Char.toUpper).filter (· ≠ '-')

/-- The algorithm that a spelling stands for. -/
def ofSpelling (spelling : String) : Except BuildError Algorithm :=
  match String.ofList (plainSpelling spelling.toList) with
  | "SHA" | "SHA1" => .ok sha1
  | "SHA224" => .ok sha224
  | "SHA256" => .ok sha256
  | "SHA384" => .ok sha384
  | "SHA512" => .ok sha512
  | _ => .error (.unsupportedAlgorithm spelling)

/-- The digest of a message. -/
def digest : Algorithm → ByteArray → List UInt8
  | sha1 => Sha1.digest
  | sha224 => Sha2.digest224
  | sha256 => Sha2.digest256
  | sha384 => Sha2.digest384
  | sha512 => Sha2.digest512

/-- The digest of a message as hexadecimal text. -/
def hexDigest (algorithm : Algorithm) (message : ByteArray) : String :=
  hexText (algorithm.digest message)

end Algorithm

end ModBuild.Digest
