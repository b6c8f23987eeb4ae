import MqttFailure.Json.Escape
import MqttFailure.Json.Numeral
set_option autoImplicit false

namespace MqttFailure.Json

structure Scanner where
  escape : Reader Char
  number : Reader Number
  careful : Bool

def Scanner.exact : Scanner := ⟨Reader.exactEscape, Reader.exactNumber, true⟩

def Scanner.loose : Scanner := ⟨Reader.looseEscape, Reader.looseNumber, false⟩

namespace Reader

def startsNumeral (c : Char) : Bool := c = '-' || c.isDigit

def word (w : List Char) (shape : Shape) : Reader Shape := do
  literal .value .expectedIdent w
  return shape

def head (s : Scanner) : Reader Shape := do
  skipBlanks
  match ← get with
  | [] => fail (.truncated .value)
  | c :: rest =>
    if startsNumeral c then
      let value ← s.number
      return .number value
    else
      set rest
      match c with
      | 'n' => word ['u', 'l', 'l'] .null
      | 't' => word ['r', 'u', 'e'] (.bool true)
      | 'f' => word ['a', 'l', 's', 'e'] (.bool false)
      | '"' =>
        let value ← stringBody s.escape
        return .text value
      | '[' => return .array
      | '{' => return .object
      | _ => fail (.malformed .expectedValue)

def key (s : Scanner) : Reader String := do
  skipBlanks
  literal .object .keyNotString ['"']
  stringBody s.escape

def colon : Reader Unit := do
  skipBlanks
  literal .object .expectedColon [':']

-- Reads a value. What stands between brackets is left to `inner`; without it
-- there may be no brackets.
def valueOver (s : Scanner) (inner : Option (Reader Json)) : Reader Json := do
  match ← head s, inner with
  | .null, _ => return .null
  | .bool b, _ => return .bool b
  | .number n, _ => return .number n
  | .text t, _ => return .text t
  | .array, none => fail (.malformed .recursionLimit)
  | .object, none => fail (.malformed .recursionLimit)
  | .array, some inner =>
    let elements ← items s.careful ']' (fun read => do
      let element ← inner
      return element :: read) []
    return .array elements.reverse
  | .object, some inner =>
    let members ← items s.careful '}' (fun read => do
      let name ← key s
      colon
      let member ← inner
      return (name, member) :: read) []
    return .object members.reverse

def value (s : Scanner) : Nat → Reader Json
  | 0 => valueOver s none
  | depth + 1 => valueOver s (some (value s depth))

def skip : Reader Unit := fun cs =>
  match value .loose cs.length cs with
  | .error e => .error e
  | .ok (_, rest) => .ok ((), rest)

end Reader

end MqttFailure.Json
