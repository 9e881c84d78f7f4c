/-!
# Punycode

A label with characters outside ASCII is written as its ASCII characters,
a hyphen, and the positions and codes of the others as one run of variable
length numbers to the base 36.
-/

namespace Artboard
namespace Url
namespace Punycode

/-- A digit: the letters count from 0 to 25, the figures from 26 to 35. -/
def digit (n : Nat) : Char :=
  if n < 26 then Char.ofNat ('a'.toNat + n) else Char.ofNat ('0'.toNat + (n - 26))

def digitValue? (c : Char) : Option Nat :=
  if 'a' ≤ c ∧ c ≤ 'z' then some (c.toNat - 'a'.toNat)
  else if 'A' ≤ c ∧ c ≤ 'Z' then some (c.toNat - 'A'.toNat)
  else if c.isDigit then some (c.toNat - '0'.toNat + 26)
  else none

/-- Below this a digit at the given place ends its number. -/
def threshold (place bias : Nat) : Nat :=
  max 1 (min 26 (36 * place - bias))

theorem threshold_pos (place bias : Nat) : 1 ≤ threshold place bias := by
  unfold threshold; omega

theorem threshold_le (place bias : Nat) : threshold place bias ≤ 26 := by
  unfold threshold; omega

/-- Scale a delta down until its number is short. -/
def settle (delta scaled : Nat) : Nat :=
  if 455 < delta then settle (delta / 35) (scaled + 36)
  else scaled + 36 * delta / (delta + 38)
termination_by delta
decreasing_by omega

/-- The bias after a delta, which makes thresholds follow the size of deltas. -/
def adapt (delta count : Nat) (isFirst : Bool) : Nat :=
  let delta := if isFirst then delta / 700 else delta / 2
  settle (delta + delta / count) 0

/-- A number as digits, the first of which has the given place. -/
def encodeNumber (bias place n : Nat) : List Char :=
  let t := threshold place bias
  if n < t then [digit n]
  else digit (t + (n - t) % (36 - t)) :: encodeNumber bias (place + 1) ((n - t) / (36 - t))
termination_by n
decreasing_by
  have low := threshold_pos place bias
  have high := threshold_le place bias
  calc (n - threshold place bias) / (36 - threshold place bias)
      ≤ n - threshold place bias := Nat.div_le_self _ _
    _ < n := by omega

/-- What is known while a label is encoded. -/
structure Progress where
  output : List Char
  delta : Nat
  bias : Nat
  /-- Characters written so far. -/
  handled : Nat

/-- Pass over one character of the label while the given code is written. -/
def encodeChar (basic code : Nat) (progress : Progress) (c : Char) : Progress :=
  if c.toNat < code then { progress with delta := progress.delta + 1 }
  else if c.toNat = code then
    { output := progress.output ++ encodeNumber progress.bias 1 progress.delta
      delta := 0
      bias := adapt progress.delta (progress.handled + 1) (progress.handled == basic)
      handled := progress.handled + 1 }
  else progress

/-- Write the given codes, which are in ascending order, from a code on. -/
def encodeCodes (label : List Char) (basic : Nat) : List Nat → Nat → Progress → Progress
  | [], _, progress => progress
  | code :: codes, start, progress =>
    let progress :=
      { progress with delta := progress.delta + (code - start) * (progress.handled + 1) }
    let progress := label.foldl (encodeChar basic code) progress
    encodeCodes label basic codes (code + 1) { progress with delta := progress.delta + 1 }

/-- A label in ASCII characters, without the mark that says so. -/
def encode (label : List Char) : List Char :=
  let basic := label.filter fun c => c.toNat < 0x80
  let codes := ((label.filter fun c => 0x80 ≤ c.toNat).map Char.toNat).eraseDups.mergeSort
  let start := if basic.isEmpty then [] else basic ++ ['-']
  (encodeCodes label basic.length codes 0x80 ⟨start, 0, 72, basic.length⟩).output

/-- Read a number, the next digit of which has the given place and weight. -/
def decodeNumber (bias : Nat) : List Char → Nat → Nat → Nat → Option (Nat × List Char)
  | [], _, _, _ => none
  | c :: rest, place, weight, value =>
    match digitValue? c with
    | none => none
    | some d =>
      let t := threshold place bias
      if d < t then some (value + d * weight, rest)
      else decodeNumber bias rest (place + 1) (weight * (36 - t)) (value + d * weight)

/-- Insert characters read from digits until there are no more. -/
def decodeChars : Nat → Nat → Nat → Nat → List Char → List Char → Option (List Char)
  | _, _, _, _, label, [] => some label
  | 0, _, _, _, _, _ :: _ => none
  | fuel + 1, bias, code, position, label, digits => do
    let (reached, rest) ← decodeNumber bias digits 1 1 position
    let count := label.length + 1
    let code := code + reached / count
    let place := reached % count
    if code.isValidChar then
      decodeChars fuel (adapt (reached - position) count (position == 0)) code (place + 1)
        (label.insertIdx place (Char.ofNat code)) rest
    else none

/-- The label that a text encodes. -/
def decode (text : List Char) : Option (List Char) :=
  let digits := (text.reverse.takeWhile (· != '-')).reverse
  let basic := (text.take (text.length - digits.length)).dropLast
  decodeChars digits.length 72 0x80 0 basic digits

end Punycode
end Url
end Artboard
