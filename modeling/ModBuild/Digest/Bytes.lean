/-!
# `ModBuild.Digest.Bytes`: bytes and words

What the digest functions share: big-endian words, padding, hexadecimal text.
-/

set_option autoImplicit false

namespace ModBuild.Digest

/-- The last `count` bytes of a number, highest first. -/
def bigEndian (count n : Nat) : List UInt8 :=
  (List.range count).reverse.map fun i => (n >>> (8 * i)).toUInt8

/-- A message with what fills it up to whole blocks: a byte with the highest bit set, zeros, and
the length of the message in bits. The length takes an eighth of a block. -/
def pad (block : Nat) (message : ByteArray) : ByteArray :=
  let lengthSize := block / 8
  let zeros := (block - (message.size + 1 + lengthSize) % block) % block
  let tail := 0x80 :: List.replicate zeros 0 ++ bigEndian lengthSize (message.size * 8)
  tail.foldl ByteArray.push message

/-- The byte at an offset, or 0 behind the last one. -/
def byteAt (bytes : ByteArray) (offset : Nat) : UInt8 :=
  if h : offset < bytes.size then bytes[offset] else 0

/-- The number in the `count` bytes from an offset on, highest first. -/
def numberAt (bytes : ByteArray) (offset count : Nat) : Nat :=
  (List.range count).foldl (fun n i => n * 256 + (byteAt bytes (offset + i)).toNat) 0

/-- The hexadecimal text of bytes, two digits each. -/
def hexText (bytes : List UInt8) : String :=
  let digit (n : Nat) : Char := Nat.digitChar n
  String.ofList (bytes.flatMap fun b => [digit (b.toNat / 16), digit (b.toNat % 16)])

end ModBuild.Digest
