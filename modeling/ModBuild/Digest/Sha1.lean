import ModBuild.Digest.Bytes

/-!
# `ModBuild.Digest.Sha1`: the digest SHA-1

Blocks of 64 bytes are worked into five words of 32 bits, in 80 rounds each.
-/

set_option autoImplicit false

namespace ModBuild.Digest.Sha1

/-- The five words that blocks are worked into. -/
structure State where
  a : UInt32
  b : UInt32
  c : UInt32
  d : UInt32
  e : UInt32

/-- The words before the first block. -/
def start : State :=
  ⟨0x67452301, 0xefcdab89, 0x98badcfe, 0x10325476, 0xc3d2e1f0⟩

/-- Moves the bits of a word up by `n` places, those at the top to the bottom. -/
def rotate (x n : UInt32) : UInt32 :=
  (x <<< n) ||| (x >>> (32 - n))

/-- The 80 words of the block at an offset. -/
def schedule (bytes : ByteArray) (offset : Nat) : Array UInt32 :=
  let first := ((List.range 16).map fun i => (numberAt bytes (offset + 4 * i) 4).toUInt32).toArray
  (List.range 64).foldl (fun w i =>
    let back (k : Nat) := w.getD (i + 16 - k) 0
    w.push (rotate (back 3 ^^^ back 8 ^^^ back 14 ^^^ back 16) 1)) first

/-- The function and the constant of a round. -/
def roundPart (i : Nat) (b c d : UInt32) : UInt32 :=
  if i < 20 then ((b &&& c) ||| (~~~b &&& d)) + 0x5a827999
  else if i < 40 then (b ^^^ c ^^^ d) + 0x6ed9eba1
  else if i < 60 then ((b &&& c) ||| (b &&& d) ||| (c &&& d)) + 0x8f1bbcdc
  else (b ^^^ c ^^^ d) + 0xca62c1d6

/-- Works the block at an offset into the words. -/
def step (bytes : ByteArray) (s : State) (offset : Nat) : State :=
  let w := schedule bytes offset
  let t := (List.range 80).foldl (fun (t : State) i =>
    ⟨rotate t.a 5 + roundPart i t.b t.c t.d + t.e + w.getD i 0, t.a, rotate t.b 30, t.c, t.d⟩) s
  ⟨s.a + t.a, s.b + t.b, s.c + t.c, s.d + t.d, s.e + t.e⟩

/-- The digest of a message, 20 bytes. -/
def digest (message : ByteArray) : List UInt8 :=
  let bytes := pad 64 message
  let s := (List.range (bytes.size / 64)).foldl (fun s i => step bytes s (64 * i)) start
  [s.a, s.b, s.c, s.d, s.e].flatMap fun w => bigEndian 4 w.toNat

end ModBuild.Digest.Sha1
