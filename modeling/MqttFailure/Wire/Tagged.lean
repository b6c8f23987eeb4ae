import MqttFailure.Wire.Name
import MqttFailure.Wire.Record
set_option autoImplicit false

namespace MqttFailure

open Json (Reader ReadError Mismatch)
open Json.Reader

namespace ClientFailure

def nesting : Nat := 127

def form : String := "internally tagged enum ClientError"

def tagOfShape : Json.Shape → Except Mismatch Kind := Kind.ofShapeBy tag

def readTag : Reader Kind := Kind.readNameBy tag

structure Draft where
  kind : Option Kind
  members : List (String × Json)

def Draft.empty : Draft := ⟨none, []⟩

def Draft.claimKind (d : Draft) : Except Mismatch Unit :=
  if d.kind.isSome then .error (.duplicateField "kind") else .ok ()

def Draft.finish (d : Draft) : Except Mismatch ClientFailure :=
  match d.kind with
  | none => .error (.missingField "kind")
  | some kind => do return ofKind kind (← Status.ofMembers d.members.reverse)

def ofElements (kind : Kind) (elements : List Json) : Except Mismatch ClientFailure := do
  return ofKind kind (← Status.ofElements kind.record elements)

def readMember (depth : Nat) (d : Draft) : Reader Draft := do
  let name ← key .exact
  if name = "kind" then
    judge d.claimKind
    colon
    let kind ← readTag
    return { d with kind := some kind }
  else
    colon
    let value ← value .exact depth
    return { d with members := (name, value) :: d.members }

def readElements (depth : Nat) : Reader ClientFailure := do
  if ← closes ']' then refuse (.missingField "kind")
  let kind ← readTag
  let elements ←
    if ← more true ']' then
      run true ']' (fun read => do
        let element ← value .exact depth
        return element :: read) []
    else pure []
  judge (ofElements kind elements.reverse)

def readAt (depth : Nat) : Reader ClientFailure := do
  match ← head .exact, depth with
  | .array, 0 => fail (.malformed .recursionLimit)
  | .object, 0 => fail (.malformed .recursionLimit)
  | .array, depth + 1 => readElements depth
  | .object, depth + 1 =>
    let draft ← items true '}' (readMember depth) Draft.empty
    judge draft.finish
  | found, _ => refuse (.wrongType found form)

def read : Reader ClientFailure := readAt nesting

def readList : Reader (List ClientFailure) := do
  match ← head .exact with
  | .array =>
    let failures ← items true ']' (fun read => do
      let failure ← readAt (nesting - 1)
      return failure :: read) []
    return failures.reverse
  | found => refuse (.wrongType found "a sequence")

def decode (text : String) : Except ReadError ClientFailure := readAll read text

def decodeList (text : String) : Except ReadError (List ClientFailure) := readAll readList text

end ClientFailure

end MqttFailure
