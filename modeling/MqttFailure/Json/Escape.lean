import MqttFailure.Json.Reader
import MqttFailure.Text.Cut
import MqttFailure.Text.Hexadecimal
set_option autoImplicit false

namespace MqttFailure.Json

open Text (hexValue? utf8Length)

def hexQuad? (a b c d : Char) : Option Nat := do
  return (((← hexValue? a) * 16 + (← hexValue? b)) * 16 + (← hexValue? c)) * 16 + (← hexValue? d)

def shortEscape? : Char → Option Char
  | '"' => some '"'
  | '\\' => some '\\'
  | '/' => some '/'
  | 'b' => some '\x08'
  | 'f' => some '\x0c'
  | 'n' => some '\n'
  | 'r' => some '\r'
  | 't' => some '\t'
  | _ => none

def isLeading (unit : Nat) : Bool := 0xd800 ≤ unit && unit ≤ 0xdbff

def isTrailing (unit : Nat) : Bool := 0xdc00 ≤ unit && unit ≤ 0xdfff

def pairedChar (leading trailing : Nat) : Char :=
  Char.ofNat (0x10000 + (leading - 0xd800) * 0x400 + (trailing - 0xdc00))

namespace Reader

-- Reads four hexadecimal digits. The text ends too early when fewer than four
-- bytes are left.
def codeUnit : Reader Nat := fun cs =>
  if utf8Length (cs.take 4) < 4 then .error (.truncated .string)
  else
    match cs with
    | a :: b :: c :: d :: rest =>
      match hexQuad? a b c d with
      | some unit => .ok (unit, rest)
      | none => .error (.malformed .invalidEscape)
    | _ => .error (.malformed .invalidEscape)

def exactEscape : Reader Char := do
  let c ← next .string
  if c = 'u' then
    let unit ← codeUnit
    if isTrailing unit then fail (.malformed .loneSurrogate)
    else if isLeading unit then
      literal .string .missingSurrogate ['\\', 'u']
      let second ← codeUnit
      if isTrailing second then return pairedChar unit second
      else fail (.malformed .loneSurrogate)
    else return Char.ofNat unit
  else
    match shortEscape? c with
    | some meant => return meant
    | none => fail (.malformed .invalidEscape)

def looseEscape : Reader Char := do
  let c ← next .string
  if c = 'u' then
    let unit ← codeUnit
    return Char.ofNat unit
  else
    match shortEscape? c with
    | some meant => return meant
    | none => fail (.malformed .invalidEscape)

def stringChar (escape : Reader Char) : Reader (Option Char) := do
  let c ← next .string
  if c = '"' then return none
  else if c = '\\' then
    let meant ← escape
    return some meant
  else if c.toNat < 0x20 then fail (.malformed .controlCharacter)
  else return some c

def stringBody (escape : Reader Char) : Reader String :=
  iterate (fun read => do
    match ← stringChar escape with
    | some c => return .more (c :: read)
    | none => return .done (String.ofList read.reverse)) []

end Reader

end MqttFailure.Json
