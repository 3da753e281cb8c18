import ModBuild.Text.Ranges

/-!
# `ModBuild.Url.Idna.Punycode`: any text in letters, digits and hyphens

A label with characters beyond ASCII is written as its ASCII characters, a hyphen, and one number
for each of the others. The others are put in by ascending code point. The number counts how many
positions of the text, and of the texts for the code points in between, are passed over.

* `encode` writes a label and `decode?` reads one.
-/

set_option autoImplicit false

namespace ModBuild.Url.Idna.Punycode

/-- The digit of a value below 36. -/
def digitChar (d : Nat) : Char :=
  if d < 26 then Char.ofNat (d + 'a'.toNat) else Char.ofNat (d - 26 + '0'.toNat)

/-- The value of a digit. -/
def digitValue? (c : Char) : Option Nat :=
  if 'a' ≤ c && c ≤ 'z' then some (c.toNat - 'a'.toNat)
  else if 'A' ≤ c && c ≤ 'Z' then some (c.toNat - 'A'.toNat)
  else if '0' ≤ c && c ≤ '9' then some (c.toNat - '0'.toNat + 26)
  else none

/-- The digit value at which a number ends, by the bias and 36 times the digit's place. -/
def threshold (bias k : Nat) : Nat :=
  if k ≤ bias then 1 else if bias + 26 ≤ k then 26 else k - bias

/-- A threshold is not zero, so every digit that is not the last one takes something off. -/
theorem threshold_pos (bias k : Nat) : 1 ≤ threshold bias k := by
  unfold threshold
  split
  · omega
  · split <;> omega

/-- The bias for the number behind one, from how large it was and how long the text has become. -/
def adapted (delta length : Nat) (first : Bool) : Nat :=
  let start := if first then delta / 700 else delta / 2
  settle (start + start / length) 0
where
  /-- Scales a number down and counts the places it takes. -/
  settle (delta k : Nat) : Nat :=
    if 455 < delta then settle (delta / 35) (k + 36) else k + 36 * delta / (delta + 38)
  termination_by delta
  decreasing_by exact Nat.div_lt_self (by omega) (by omega)

/-- The digits of a number, the lowest first. -/
def digits (bias k n : Nat) : List Char :=
  let t := threshold bias k
  if n < t then [digitChar n]
  else digitChar (t + (n - t) % (36 - t)) :: digits bias (k + 36) ((n - t) / (36 - t))
termination_by n
decreasing_by
  have pos := threshold_pos bias k
  calc (n - threshold bias k) / (36 - threshold bias k)
      ≤ n - threshold bias k := Nat.div_le_self _ _
    _ < n := by omega

/-- The state between two numbers of a text: how many characters are written, the bias, and the
positions passed over since the last one. -/
structure Progress where
  /-- The characters written. -/
  written : Nat
  /-- The bias. -/
  bias : Nat
  /-- The positions passed over. -/
  delta : Nat

/-- Writes the numbers of all places of one code point in a label. -/
def encodeCode (first : Bool) (code : Nat) : Progress → List Char → List Char × Progress
  | p, [] => ([], p)
  | p, c :: rest =>
    if c.toNat < code then encodeCode first code { p with delta := p.delta + 1 } rest
    else if c.toNat = code then
      let next : Progress := ⟨p.written + 1, adapted p.delta (p.written + 1) first, 0⟩
      let (more, last) := encodeCode false code next rest
      (digits p.bias 36 p.delta ++ more, last)
    else encodeCode first code p rest

/-- Writes the numbers of the code points of a list, which ascends, where all below `low` are
written. -/
def encodeCodes (label : List Char) (first : Bool) (low : Nat) : Progress → List Nat → List Char
  | _, [] => []
  | p, code :: rest =>
    let start := { p with delta := p.delta + (code - low) * (p.written + 1) }
    let (here, last) := encodeCode first code start label
    here ++ encodeCodes label false (code + 1) { last with delta := last.delta + 1 } rest

/-- The code points of a label from 128 on, ascending and each once. -/
def highCodes (label : List Char) : List Nat :=
  ((label.map (·.toNat)).filter (128 ≤ ·)).mergeSort.eraseDups

/-- Writes a label. -/
def encode (label : List Char) : List Char :=
  let basic := label.filter (·.toNat < 128)
  let numbers := encodeCodes label true 128 ⟨basic.length, 72, 0⟩ (highCodes label)
  if basic = [] then numbers else basic ++ '-' :: numbers

/-- Reads a number that starts at weight `weight`. -/
def readNumber? (bias k weight : Nat) : List Char → Option (Nat × List Char)
  | [] => none
  | c :: rest => do
    let d ← digitValue? c
    let t := threshold bias k
    if d < t then some (d * weight, rest)
    else
      let (n, after) ← readNumber? bias (k + 36) (weight * (36 - t)) rest
      some (d * weight + n, after)

/-- A number takes at least one digit off the text. -/
theorem length_of_readNumber? {bias k weight : Nat} {s : List Char} {n : Nat} {rest : List Char}
    (h : readNumber? bias k weight s = some (n, rest)) : rest.length < s.length := by
  induction s generalizing k weight n with
  | nil => simp [readNumber?] at h
  | cons c s ih =>
    simp only [readNumber?, Option.bind_eq_bind, Option.bind_eq_some_iff] at h
    obtain ⟨d, _, h⟩ := h
    split at h
    · obtain ⟨rfl, rfl⟩ := Prod.mk.inj (Option.some.inj h)
      exact Nat.lt_succ_self _
    · simp only [Option.bind_eq_some_iff] at h
      obtain ⟨⟨m, after⟩, hm, h⟩ := h
      obtain ⟨rfl, rfl⟩ := Prod.mk.inj (Option.some.inj h)
      exact Nat.lt_succ_of_lt (ih hm)

/-- Reads numbers, and puts in a character for each. `position` counts the places up to the last
one, those of the texts for lower code points included. -/
def decodeNumbers? (first : Bool) (bias code position : Nat) (text : List Char) (s : List Char) :
    Option (List Char) :=
  if s = [] then some text
  else
    match _read : readNumber? bias 36 1 s with
    | none => none
    | some (delta, rest) =>
      let length := text.length + 1
      let total := position + delta
      let code := code + total / length
      let place := total % length
      if code.isValidChar then
        decodeNumbers? false (adapted delta length first) code (place + 1)
          (text.take place ++ Char.ofNat code :: text.drop place) rest
      else none
termination_by s.length
decreasing_by exact length_of_readNumber? _read

/-- Reads a label. The ASCII characters stand before the last hyphen, which is there only with them.
`none` for a text that is no written label. -/
def decode? (s : List Char) : Option (List Char) :=
  let numbers := (s.reverse.takeWhile (· ≠ '-')).reverse
  let basic := s.take (s.length - numbers.length - 1)
  if basic = [] && numbers.length < s.length then none
  else decodeNumbers? true 72 128 0 basic numbers

end ModBuild.Url.Idna.Punycode
