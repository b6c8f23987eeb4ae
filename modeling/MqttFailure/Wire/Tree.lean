import MqttFailure.Wire.Tagged
import MqttFailure.Wire.Written
set_option autoImplicit false

namespace MqttFailure

open Json (Mismatch)

def Kind.ofJson : Json → Except Mismatch Kind
  | .text name => named name
  | .object [(name, value)] => do
    let kind ← named name
    match value.shape with
    | .null => return kind
    | found => .error (.wrongType found "unit")
  | .object _ => .error (.wrongValue .object "map with a single key")
  | found => .error (.wrongType found.shape "string or map")

def Status.ofJson (record : String) : Json → Except Mismatch Status
  | .array elements => ofElements record elements
  | .object members => ofMembers members
  | found => .error (.wrongType found.shape record)

def ProtocolFailure.ofJson (value : Json) : Except Mismatch ProtocolFailure := do
  return ⟨← Status.ofJson Kind.protocol.record value⟩

def ControlFailure.ofJson (value : Json) : Except Mismatch ControlFailure := do
  return ⟨← Status.ofJson Kind.control.record value⟩

namespace ClientFailure

def Draft.take (d : Draft) (member : String × Json) : Except Mismatch Draft := do
  if member.1 = "kind" then
    d.claimKind
    return { d with kind := some (← tagOfShape member.2.shape) }
  else return { d with members := member :: d.members }

def ofJson : Json → Except Mismatch ClientFailure
  | .array [] => .error (.missingField "kind")
  | .array (first :: rest) => do ofElements (← tagOfShape first.shape) rest
  | .object members => do (← members.foldlM Draft.take Draft.empty).finish
  | found => .error (.wrongType found.shape form)

def listOfJson : Json → Except Mismatch (List ClientFailure)
  | .array elements => elements.mapM ofJson
  | found => .error (.wrongType found.shape "a sequence")

end ClientFailure

def AnyFailure.survivesTree : AnyFailure → Bool
  | .protocol e => (ProtocolFailure.ofJson e.toJson).toOption = some e
  | .control e => (ControlFailure.ofJson e.toJson).toOption = some e
  | .client e => (ClientFailure.ofJson e.toJson).toOption = some e

end MqttFailure
