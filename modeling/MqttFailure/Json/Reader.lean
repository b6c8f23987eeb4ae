import MqttFailure.Json.Mismatch
set_option autoImplicit false

namespace MqttFailure.Json

inductive Unfinished where
  | value
  | string
  | list
  | object
  deriving DecidableEq, Repr

def Unfinished.message : Unfinished → String
  | .value => "EOF while parsing a value"
  | .string => "EOF while parsing a string"
  | .list => "EOF while parsing a list"
  | .object => "EOF while parsing an object"

def Unfinished.within (close : Char) : Unfinished := if close = ']' then .list else .object

inductive SyntaxFault where
  | expectedValue
  | expectedIdent
  | expectedColon
  | expectedEnd (close : Char)
  | trailingComma
  | trailingCharacters
  | keyNotString
  | controlCharacter
  | invalidEscape
  | loneSurrogate
  | missingSurrogate
  | invalidNumber
  | numberOutOfRange
  | recursionLimit
  deriving DecidableEq, Repr

def SyntaxFault.message : SyntaxFault → String
  | .expectedValue => "expected value"
  | .expectedIdent => "expected ident"
  | .expectedColon => "expected " ++ Mismatch.ticked ":"
  | .expectedEnd close =>
    "expected " ++ Mismatch.ticked "," ++ " or " ++ Mismatch.ticked (String.singleton close)
  | .trailingComma => "trailing comma"
  | .trailingCharacters => "trailing characters"
  | .keyNotString => "key must be a string"
  | .controlCharacter => "control character (\\u0000-\\u001F) found while parsing a string"
  | .invalidEscape => "invalid escape"
  | .loneSurrogate => "lone leading surrogate in hex escape"
  | .missingSurrogate => "unexpected end of hex escape"
  | .invalidNumber => "invalid number"
  | .numberOutOfRange => "number out of range"
  | .recursionLimit => "recursion limit exceeded"

inductive ReadError where
  | truncated (place : Unfinished)
  | malformed (fault : SyntaxFault)
  | mismatch (reason : Mismatch)
  deriving DecidableEq, Repr

def ReadError.message : ReadError → String
  | .truncated place => place.message
  | .malformed fault => fault.message
  | .mismatch reason => reason.message

abbrev Reader : Type → Type := StateT (List Char) (Except ReadError)

def isBlank (c : Char) : Bool := c = ' ' || c = '\t' || c = '\n' || c = '\r'

namespace Reader

variable {α β σ : Type}

def fail (e : ReadError) : Reader α := fun _ => .error e

def refuse (reason : Mismatch) : Reader α := fail (.mismatch reason)

def judge : Except Mismatch α → Reader α
  | .ok a => pure a
  | .error reason => refuse reason

def next (place : Unfinished) : Reader Char := fun cs =>
  match cs with
  | [] => .error (.truncated place)
  | c :: rest => .ok (c, rest)

def skipBlanks : Reader Unit := fun cs => .ok ((), cs.dropWhile isBlank)

def literal (place : Unfinished) (fault : SyntaxFault) : List Char → Reader Unit
  | [] => pure ()
  | expected :: rest => do
    if (← next place) = expected then literal place fault rest else fail (.malformed fault)

inductive Step (σ β : Type) where
  | more (state : σ)
  | done (result : β)

-- A round that goes on without having taken a character stops the loop.
def loop (round : σ → Reader (Step σ β)) (state : σ) (cs : List Char) :
    Except ReadError (β × List Char) :=
  match round state cs with
  | .error e => .error e
  | .ok (.done result, rest) => .ok (result, rest)
  | .ok (.more state', rest) =>
    if rest.length < cs.length then loop round state' rest
    else .error (.malformed .expectedValue)
termination_by cs.length

def iterate (round : σ → Reader (Step σ β)) (state : σ) : Reader β := fun cs => loop round state cs

def closes (close : Char) : Reader Bool := do
  skipBlanks
  fun cs =>
    match cs with
    | [] => .error (.truncated (.within close))
    | c :: rest => if c = close then .ok (true, rest) else .ok (false, c :: rest)

-- Looks behind a comma, where the next item must stand, and takes nothing.
def foresee (close : Char) : Reader Unit := fun cs =>
  match cs.dropWhile isBlank with
  | [] => .error (.truncated .value)
  | c :: _ => if c = close then .error (.malformed .trailingComma) else .ok ((), cs)

def more (careful : Bool) (close : Char) : Reader Bool := do
  skipBlanks
  let c ← next (.within close)
  if c = ',' then
    if careful then foresee close
    return true
  else if c = close then return false
  else fail (.malformed (.expectedEnd close))

def run (careful : Bool) (close : Char) (item : σ → Reader σ) (state : σ) : Reader σ :=
  iterate (fun state => do
    let state' ← item state
    if ← more careful close then return .more state' else return .done state') state

def items (careful : Bool) (close : Char) (item : σ → Reader σ) (state : σ) : Reader σ := do
  if ← closes close then return state else run careful close item state

def endOfList : Reader Unit := do
  skipBlanks
  let c ← next .list
  if c = ']' then return ()
  else if c = ',' then
    fun cs =>
      if (cs.dropWhile isBlank).head? = some ']' then .error (.malformed .trailingComma)
      else .error (.malformed .trailingCharacters)
  else fail (.malformed .trailingCharacters)

def readAll (value : Reader α) (text : String) : Except ReadError α :=
  match value text.toList with
  | .error e => .error e
  | .ok (a, rest) => if rest.all isBlank then .ok a else .error (.malformed .trailingCharacters)

end Reader

end MqttFailure.Json
