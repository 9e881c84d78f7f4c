import Artboard.Text.Search
import Artboard.Url.Domain

/-!
# Hosts

The host of an address is a name, or a number written in one of the two address
formats of the network.
-/

namespace Artboard
namespace Url

/-- Why a text is not an address of the kind needed. -/
inductive Refusal where
  | noScheme
  | emptyHost
  | invalidPort
  | invalidDomain
  | invalidIpv4
  | invalidIpv6
  | invalidHostChar
  /-- Behind the scheme stands a text that is not a path. -/
  | opaquePath
  deriving DecidableEq, Repr

/-- The wording of a refusal of the given text. -/
def Refusal.message (text : String) : Refusal → String
  | .noScheme => "relative URL without a base"
  | .emptyHost => "empty host"
  | .invalidPort => "invalid port number"
  | .invalidDomain => "invalid international domain name"
  | .invalidIpv4 => "invalid IPv4 address"
  | .invalidIpv6 => "invalid IPv6 address"
  | .invalidHostChar => "invalid domain character"
  | .opaquePath => text

inductive Host where
  | domain (name : String)
  | ipv4 (address : Nat)
  | ipv6 (pieces : List Nat)
  deriving DecidableEq, Repr

/-- The digits of a number to a base, if all characters are digits and there is
at least one. -/
def numberToBase (base : Nat) (text : List Char) : Option Nat := do
  if text.isEmpty then none
  else text.foldlM (fun value c => do
    let d ← Text.hexValue? c
    if d < base then some (value * base + d) else none) 0

/-- One number of an address of four: decimal, octal behind a zero, or
hexadecimal behind `0x`. A mark alone counts as zero. -/
def ipv4Number? (text : List Char) : Option Nat :=
  match text with
  | '0' :: 'x' :: digits | '0' :: 'X' :: digits =>
    if digits.isEmpty then some 0 else numberToBase 16 digits
  | '0' :: c :: digits => numberToBase 8 (c :: digits)
  | _ => numberToBase 10 text

/-- The parts of a name, without the empty one behind a final full stop. -/
def nameParts (name : List Char) : List (List Char) :=
  let parts := Text.splitAt '.' name
  if parts.length > 1 && parts.getLast? == some [] then parts.dropLast else parts

/-- Whether a name must be a number: its last part looks like one. -/
def endsInNumber (name : List Char) : Bool :=
  match (nameParts name).getLast? with
  | some part => !part.isEmpty && (part.all Char.isDigit || (ipv4Number? part).isSome)
  | none => false

/-- An address of up to four numbers. The last one fills the bytes that are
left. -/
def ipv4? (name : List Char) : Option Nat := do
  let numbers ← (nameParts name).mapM ipv4Number?
  let lead := numbers.dropLast
  let last ← numbers.getLast?
  if numbers.length > 4 || lead.any (255 < ·) || 1 <<< (8 * (4 - lead.length)) ≤ last then none
  else
    let high := lead.foldl (fun value n => value * 256 + n) 0
    some (high <<< (8 * (4 - lead.length)) + last)

/-- An address of four numbers as it is written. -/
def renderIpv4 (address : Nat) : String :=
  ".".intercalate ([3, 2, 1, 0].map fun place => toString ((address >>> (8 * place)) % 256))

/-- A group of one to four hexadecimal digits. -/
def ipv6Piece? (text : List Char) : Option Nat :=
  if text.length ≤ 4 then numberToBase 16 text else none

/-- Four numbers from 0 to 255 without leading zeros, as two groups. -/
def ipv4Tail? (text : List Char) : Option (List Nat) := do
  let numbers ← (Text.splitAt '.' text).mapM fun part => do
    if part.length > 3 || (part.length > 1 && part.head? == some '0') then none
    else
      let n ← if part.all Char.isDigit then numberToBase 10 part else none
      if n ≤ 255 then some n else none
  match numbers with
  | [a, b, c, d] => some [a * 256 + b, c * 256 + d]
  | _ => none

/-- Groups separated by colons; the last one may be four numbers. -/
def ipv6Groups? (allowTail : Bool) (text : List Char) : Option (List Nat) :=
  if text.isEmpty then some []
  else
    let parts := Text.splitAt ':' text
    match parts.getLast? with
    | some last =>
      if allowTail && last.contains '.' then do
        return (← parts.dropLast.mapM ipv6Piece?) ++ (← ipv4Tail? last)
      else parts.mapM ipv6Piece?
    | none => none

/-- An address of eight groups, in which one pair of colons may stand for a run
of zeros. -/
def ipv6? (text : List Char) : Option (List Nat) :=
  match Text.after? "::".toList text with
  | none => do
    let groups ← ipv6Groups? true text
    if groups.length = 8 then some groups else none
  | some (before, rest) => do
    let left ← ipv6Groups? false (text.take before)
    let right ← ipv6Groups? true rest
    if left.length + right.length ≤ 7 then
      some (left ++ List.replicate (8 - left.length - right.length) 0 ++ right)
    else none

/-- Length of the run of zeros at the start. -/
def zeroRun (pieces : List Nat) : Nat :=
  (pieces.takeWhile (· == 0)).length

/-- The longest run of at least two zeros, the first of several, as its start
and length. -/
def longestZeroRun (pieces : List Nat) : Option (Nat × Nat) :=
  (List.range pieces.length).foldl
    (fun best start =>
      let run := zeroRun (pieces.drop start)
      if 2 ≤ run && (best.all fun b => b.2 < run) then some (start, run) else best)
    none

/-- Groups in small digits with colons between them. -/
def renderGroups (pieces : List Nat) : String :=
  ":".intercalate (pieces.map fun piece => String.ofList (Nat.toDigits 16 piece))

/-- An address of eight groups as it is written. -/
def renderIpv6 (pieces : List Nat) : String :=
  match longestZeroRun pieces with
  | none => renderGroups pieces
  | some (start, run) =>
    renderGroups (pieces.take start) ++ "::" ++ renderGroups (pieces.drop (start + run))

namespace Host

def render : Host → String
  | domain name => name
  | ipv4 address => renderIpv4 address
  | ipv6 pieces => "[" ++ renderIpv6 pieces ++ "]"

/-- Read an address between brackets. -/
def ofBracketed (text : List Char) : Except Refusal Host :=
  if text.getLast? = some ']' then
    match ipv6? (text.drop 1).dropLast with
    | some pieces => .ok (.ipv6 pieces)
    | none => .error .invalidIpv6
  else .error .invalidIpv6

/-- Read the host of an address with a special scheme. -/
def ofSpecial (text : List Char) : Except Refusal Host :=
  if text.head? = some '[' then ofBracketed text
  else match domainToAscii text with
    | none => .error .invalidDomain
    | some [] => .error .emptyHost
    | some name =>
      if endsInNumber name then
        match ipv4? name with
        | some address => .ok (.ipv4 address)
        | none => .error .invalidIpv4
      else .ok (.domain (String.ofList name))

/-- Characters that no host may hold. -/
def isForbidden (c : Char) : Bool :=
  "\x00\t\n\r #/:<>?@[\\]^|".toList.contains c

/-- Read the host of an address with any other scheme; only control characters
and characters outside ASCII are encoded. -/
def ofOther (text : List Char) : Except Refusal Host :=
  if text.head? = some '[' then ofBracketed text
  else if text.any isForbidden then .error .invalidHostChar
  else .ok (.domain (String.ofList (percentEncode isAlwaysEncoded text)))

end Host

end Url
end Artboard
