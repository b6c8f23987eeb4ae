import MqttFailure.Json.Reader
set_option autoImplicit false

namespace MqttFailure.Json

open Decimal (Binary64)

structure Numeral where
  negative : Bool
  whole : List Char
  fraction : List Char
  exponent : Option (Bool × List Char)
  deriving DecidableEq, Repr

namespace Numeral

def wordMax : Nat := 0xffffffffffffffff

-- Takes digits into a word while they fit, and gives the digits that are left.
def absorb (word : Nat) : List Char → Nat × List Char
  | [] => (word, [])
  | c :: rest =>
    let extended := 10 * word + (c.toNat - '0'.toNat)
    if extended ≤ wordMax then absorb extended rest else (word, c :: rest)

def power : Option (Bool × List Char) → Int
  | none => 0
  | some (negative, digits) =>
    let size : Int := Nat.ofDigitChars 10 digits 0
    if negative then -size else size

def isWhole (n : Numeral) : Bool := n.fraction.isEmpty && n.exponent.isNone

def real? (negative : Bool) (word : Nat) (exponent : Int) : Option Number := do
  let size ← Binary64.ofNat word
  return .real negative (← size.scale exponent)

-- The number that a numeral stands for; none beyond the finite numbers. Minus
-- zero and whole numbers that do not fit 64 bits are real.
def number? (n : Numeral) : Option Number :=
  let (word, dropped) := absorb 0 n.whole
  let (word', ignored) := absorb word n.fraction
  if n.isWhole && dropped.isEmpty && !n.negative then some (.integer word)
  else if n.isWhole && dropped.isEmpty && 0 < word && word ≤ 0x8000000000000000 then
    some (.integer (-word))
  else
    let taken : Int := n.fraction.length - ignored.length
    real? n.negative word' (dropped.length - taken + power n.exponent)

end Numeral

namespace Reader

def digits (atEnd : ReadError) : Reader (List Char) := fun cs =>
  match cs with
  | [] => .error atEnd
  | c :: rest =>
    if c.isDigit then .ok (c :: rest.takeWhile Char.isDigit, rest.dropWhile Char.isDigit)
    else .error (.malformed .invalidNumber)

def oneOf (chars : List Char) : Reader (Option Char) := fun cs =>
  match cs with
  | [] => .ok (none, [])
  | c :: rest => if c ∈ chars then .ok (some c, rest) else .ok (none, c :: rest)

def numeral (atEnd : ReadError) : Reader Numeral := do
  let minus ← oneOf ['-']
  let whole ← digits atEnd
  if whole.head? = some '0' ∧ 1 < whole.length then fail (.malformed .invalidNumber)
  let point ← oneOf ['.']
  let fraction ← if point.isSome then digits atEnd else pure []
  let mark ← oneOf ['e', 'E']
  if mark.isSome then
    let sign ← oneOf ['+', '-']
    let exponent ← digits atEnd
    return ⟨minus.isSome, whole, fraction, some (sign = some '-', exponent)⟩
  else return ⟨minus.isSome, whole, fraction, none⟩

def exactNumber : Reader Number := do
  let parts ← numeral (.truncated .value)
  match parts.number? with
  | some value => return value
  | none => fail (.malformed .numberOutOfRange)

def looseNumber : Reader Number := do
  let _ ← numeral (.malformed .invalidNumber)
  return .integer 0

end Reader

end MqttFailure.Json
