import MqttFailure.AnyFailure
import MqttFailure.Json.Mismatch
set_option autoImplicit false

namespace MqttFailure

open Json (Shape Mismatch)

def Json.Shape.asText : Shape → Except Mismatch String
  | .text s => .ok s
  | found => .error (.wrongType found "a string")

def Json.Shape.asCode : Shape → Except Mismatch Int32
  | .number (.integer n) =>
    if -0x80000000 ≤ n ∧ n < 0x80000000 then .ok (Int32.ofInt n) else .error (.outOfRange n "i32")
  | found => .error (.wrongType found "i32")

inductive Field where
  | message
  | code
  deriving DecidableEq, Repr

def Field.name : Field → String
  | .message => "message"
  | .code => "code"

def Field.ofKey? (key : String) : Option Field :=
  if key = "message" then some .message
  else if key = "code" then some .code
  else none

structure Fields where
  message : Option String
  code : Option Int32
  deriving DecidableEq

namespace Fields

def none : Fields := ⟨.none, .none⟩

def has (f : Fields) : Field → Bool
  | .message => f.message.isSome
  | .code => f.code.isSome

-- The field that the value of a member is for, if any; a field that has been
-- read is refused before its value is looked at.
def slot (f : Fields) (key : String) : Except Mismatch (Option Field) :=
  match Field.ofKey? key with
  | some field => if f.has field then .error (.duplicateField field.name) else .ok (some field)
  | .none => .ok .none

def fill (f : Fields) (field : Field) (value : Shape) : Except Mismatch Fields :=
  match field with
  | .message => do return { f with message := some (← value.asText) }
  | .code => do return { f with code := some (← value.asCode) }

def finish (f : Fields) : Except Mismatch Status :=
  match f.message, f.code with
  | some message, some code => .ok ⟨message, code⟩
  | .none, _ => .error (.missingField Field.message.name)
  | some _, .none => .error (.missingField Field.code.name)

end Fields

namespace Status

def size : Nat := 2

def wanted (record : String) : String := record ++ " with 2 elements"

def ofMembers (members : List (String × Json)) : Except Mismatch Status := do
  let fields ← members.foldlM (fun (f : Fields) (key, value) => do
    match ← f.slot key with
    | some field => f.fill field value.shape
    | none => return f) Fields.none
  fields.finish

def ofElements (record : String) : List Json → Except Mismatch Status
  | [] => .error (.wrongLength 0 (wanted record))
  | [first] => do
    let _ ← first.shape.asText
    .error (.wrongLength 1 (wanted record))
  | first :: second :: rest => do
    let message ← first.shape.asText
    let code ← second.shape.asCode
    if rest.isEmpty then return ⟨message, code⟩
    else .error (.wrongLength (size + rest.length) "2 elements in sequence")

end Status

end MqttFailure
