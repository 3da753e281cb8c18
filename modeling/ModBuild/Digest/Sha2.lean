import ModBuild.Digest.Bytes

/-!
# `ModBuild.Digest.Sha2`: the digests SHA-224 to SHA-512

Two functions on words, one of 32 bits and one of 64, give four digests: they differ in the words
they start with and in how much of the last words is kept.
-/

set_option autoImplicit false

namespace ModBuild.Digest.Sha2

/-- The eight words that blocks are worked into. -/
structure State (α : Type) where
  a : α
  b : α
  c : α
  d : α
  e : α
  f : α
  g : α
  h : α

namespace State

/-- Combines two states word by word. -/
def zipWith {α : Type} (op : α → α → α) (s t : State α) : State α :=
  ⟨op s.a t.a, op s.b t.b, op s.c t.c, op s.d t.d, op s.e t.e, op s.f t.f, op s.g t.g, op s.h t.h⟩

/-- The words in order. -/
def words {α : Type} (s : State α) : List α :=
  [s.a, s.b, s.c, s.d, s.e, s.f, s.g, s.h]

end State

/-! ### Words of 32 bits -/

namespace Small

/-- The constants of the rounds. -/
def constants : Array UInt32 := #[
  0x428a2f98, 0x71374491, 0xb5c0fbcf, 0xe9b5dba5, 0x3956c25b, 0x59f111f1,
  0x923f82a4, 0xab1c5ed5, 0xd807aa98, 0x12835b01, 0x243185be, 0x550c7dc3,
  0x72be5d74, 0x80deb1fe, 0x9bdc06a7, 0xc19bf174, 0xe49b69c1, 0xefbe4786,
  0x0fc19dc6, 0x240ca1cc, 0x2de92c6f, 0x4a7484aa, 0x5cb0a9dc, 0x76f988da,
  0x983e5152, 0xa831c66d, 0xb00327c8, 0xbf597fc7, 0xc6e00bf3, 0xd5a79147,
  0x06ca6351, 0x14292967, 0x27b70a85, 0x2e1b2138, 0x4d2c6dfc, 0x53380d13,
  0x650a7354, 0x766a0abb, 0x81c2c92e, 0x92722c85, 0xa2bfe8a1, 0xa81a664b,
  0xc24b8b70, 0xc76c51a3, 0xd192e819, 0xd6990624, 0xf40e3585, 0x106aa070,
  0x19a4c116, 0x1e376c08, 0x2748774c, 0x34b0bcb5, 0x391c0cb3, 0x4ed8aa4a,
  0x5b9cca4f, 0x682e6ff3, 0x748f82ee, 0x78a5636f, 0x84c87814, 0x8cc70208,
  0x90befffa, 0xa4506ceb, 0xbef9a3f7, 0xc67178f2]

/-- Moves the bits of a word down by `n` places, those at the bottom to the top. -/
def rotate (x n : UInt32) : UInt32 :=
  (x >>> n) ||| (x <<< (32 - n))

/-- The 64 words of the block at an offset. -/
def schedule (bytes : ByteArray) (offset : Nat) : Array UInt32 :=
  let first := ((List.range 16).map fun i => (numberAt bytes (offset + 4 * i) 4).toUInt32).toArray
  (List.range 48).foldl (fun w i =>
    let back (k : Nat) := w.getD (i + 16 - k) 0
    let x := back 15
    let y := back 2
    w.push (back 16 + (rotate x 7 ^^^ rotate x 18 ^^^ (x >>> 3)) + back 7 +
      (rotate y 17 ^^^ rotate y 19 ^^^ (y >>> 10)))) first

/-- One round with the word that it takes in. -/
def round (t : State UInt32) (w : UInt32) : State UInt32 :=
  let up := t.h + (rotate t.e 6 ^^^ rotate t.e 11 ^^^ rotate t.e 25) +
    ((t.e &&& t.f) ^^^ (~~~t.e &&& t.g)) + w
  let down := (rotate t.a 2 ^^^ rotate t.a 13 ^^^ rotate t.a 22) +
    ((t.a &&& t.b) ^^^ (t.a &&& t.c) ^^^ (t.b &&& t.c))
  ⟨up + down, t.a, t.b, t.c, t.d + up, t.e, t.f, t.g⟩

/-- Works the block at an offset into the words. -/
def step (bytes : ByteArray) (s : State UInt32) (offset : Nat) : State UInt32 :=
  let w := schedule bytes offset
  let t := (List.range 64).foldl (fun t i => round t (constants.getD i 0 + w.getD i 0)) s
  s.zipWith (· + ·) t

/-- The words of a message, 32 bytes in all. -/
def digest (start : State UInt32) (message : ByteArray) : List UInt8 :=
  let bytes := pad 64 message
  let s := (List.range (bytes.size / 64)).foldl (fun s i => step bytes s (64 * i)) start
  s.words.flatMap fun w => bigEndian 4 w.toNat

end Small

/-! ### Words of 64 bits -/

namespace Large

/-- The constants of the rounds. -/
def constants : Array UInt64 := #[
  0x428a2f98d728ae22, 0x7137449123ef65cd, 0xb5c0fbcfec4d3b2f, 0xe9b5dba58189dbbc,
  0x3956c25bf348b538, 0x59f111f1b605d019, 0x923f82a4af194f9b, 0xab1c5ed5da6d8118,
  0xd807aa98a3030242, 0x12835b0145706fbe, 0x243185be4ee4b28c, 0x550c7dc3d5ffb4e2,
  0x72be5d74f27b896f, 0x80deb1fe3b1696b1, 0x9bdc06a725c71235, 0xc19bf174cf692694,
  0xe49b69c19ef14ad2, 0xefbe4786384f25e3, 0x0fc19dc68b8cd5b5, 0x240ca1cc77ac9c65,
  0x2de92c6f592b0275, 0x4a7484aa6ea6e483, 0x5cb0a9dcbd41fbd4, 0x76f988da831153b5,
  0x983e5152ee66dfab, 0xa831c66d2db43210, 0xb00327c898fb213f, 0xbf597fc7beef0ee4,
  0xc6e00bf33da88fc2, 0xd5a79147930aa725, 0x06ca6351e003826f, 0x142929670a0e6e70,
  0x27b70a8546d22ffc, 0x2e1b21385c26c926, 0x4d2c6dfc5ac42aed, 0x53380d139d95b3df,
  0x650a73548baf63de, 0x766a0abb3c77b2a8, 0x81c2c92e47edaee6, 0x92722c851482353b,
  0xa2bfe8a14cf10364, 0xa81a664bbc423001, 0xc24b8b70d0f89791, 0xc76c51a30654be30,
  0xd192e819d6ef5218, 0xd69906245565a910, 0xf40e35855771202a, 0x106aa07032bbd1b8,
  0x19a4c116b8d2d0c8, 0x1e376c085141ab53, 0x2748774cdf8eeb99, 0x34b0bcb5e19b48a8,
  0x391c0cb3c5c95a63, 0x4ed8aa4ae3418acb, 0x5b9cca4f7763e373, 0x682e6ff3d6b2b8a3,
  0x748f82ee5defb2fc, 0x78a5636f43172f60, 0x84c87814a1f0ab72, 0x8cc702081a6439ec,
  0x90befffa23631e28, 0xa4506cebde82bde9, 0xbef9a3f7b2c67915, 0xc67178f2e372532b,
  0xca273eceea26619c, 0xd186b8c721c0c207, 0xeada7dd6cde0eb1e, 0xf57d4f7fee6ed178,
  0x06f067aa72176fba, 0x0a637dc5a2c898a6, 0x113f9804bef90dae, 0x1b710b35131c471b,
  0x28db77f523047d84, 0x32caab7b40c72493, 0x3c9ebe0a15c9bebc, 0x431d67c49c100d4c,
  0x4cc5d4becb3e42b6, 0x597f299cfc657e2a, 0x5fcb6fab3ad6faec, 0x6c44198c4a475817]

/-- Moves the bits of a word down by `n` places, those at the bottom to the top. -/
def rotate (x n : UInt64) : UInt64 :=
  (x >>> n) ||| (x <<< (64 - n))

/-- The 80 words of the block at an offset. -/
def schedule (bytes : ByteArray) (offset : Nat) : Array UInt64 :=
  let first := ((List.range 16).map fun i => (numberAt bytes (offset + 8 * i) 8).toUInt64).toArray
  (List.range 64).foldl (fun w i =>
    let back (k : Nat) := w.getD (i + 16 - k) 0
    let x := back 15
    let y := back 2
    w.push (back 16 + (rotate x 1 ^^^ rotate x 8 ^^^ (x >>> 7)) + back 7 +
      (rotate y 19 ^^^ rotate y 61 ^^^ (y >>> 6)))) first

/-- One round with the word that it takes in. -/
def round (t : State UInt64) (w : UInt64) : State UInt64 :=
  let up := t.h + (rotate t.e 14 ^^^ rotate t.e 18 ^^^ rotate t.e 41) +
    ((t.e &&& t.f) ^^^ (~~~t.e &&& t.g)) + w
  let down := (rotate t.a 28 ^^^ rotate t.a 34 ^^^ rotate t.a 39) +
    ((t.a &&& t.b) ^^^ (t.a &&& t.c) ^^^ (t.b &&& t.c))
  ⟨up + down, t.a, t.b, t.c, t.d + up, t.e, t.f, t.g⟩

/-- Works the block at an offset into the words. -/
def step (bytes : ByteArray) (s : State UInt64) (offset : Nat) : State UInt64 :=
  let w := schedule bytes offset
  let t := (List.range 80).foldl (fun t i => round t (constants.getD i 0 + w.getD i 0)) s
  s.zipWith (· + ·) t

/-- The words of a message, 64 bytes in all. -/
def digest (start : State UInt64) (message : ByteArray) : List UInt8 :=
  let bytes := pad 128 message
  let s := (List.range (bytes.size / 128)).foldl (fun s i => step bytes s (128 * i)) start
  s.words.flatMap fun w => bigEndian 8 w.toNat

end Large

/-! ### The four digests -/

/-- The digest SHA-224, 28 bytes. -/
def digest224 (message : ByteArray) : List UInt8 :=
  (Small.digest ⟨
  0xc1059ed8, 0x367cd507, 0x3070dd17, 0xf70e5939, 0xffc00b31, 0x68581511,
  0x64f98fa7, 0xbefa4fa4⟩ message).take 28

/-- The digest SHA-256, 32 bytes. -/
def digest256 (message : ByteArray) : List UInt8 :=
  Small.digest ⟨
  0x6a09e667, 0xbb67ae85, 0x3c6ef372, 0xa54ff53a, 0x510e527f, 0x9b05688c,
  0x1f83d9ab, 0x5be0cd19⟩ message

/-- The digest SHA-384, 48 bytes. -/
def digest384 (message : ByteArray) : List UInt8 :=
  (Large.digest ⟨
  0xcbbb9d5dc1059ed8, 0x629a292a367cd507, 0x9159015a3070dd17, 0x152fecd8f70e5939,
  0x67332667ffc00b31, 0x8eb44a8768581511, 0xdb0c2e0d64f98fa7, 0x47b5481dbefa4fa4⟩ message).take 48

/-- The digest SHA-512, 64 bytes. -/
def digest512 (message : ByteArray) : List UInt8 :=
  Large.digest ⟨
  0x6a09e667f3bcc908, 0xbb67ae8584caa73b, 0x3c6ef372fe94f82b, 0xa54ff53a5f1d36f1,
  0x510e527fade682d1, 0x9b05688c2b3e6c1f, 0x1f83d9abfb41bd6b, 0x5be0cd19137e2179⟩ message

end ModBuild.Digest.Sha2
