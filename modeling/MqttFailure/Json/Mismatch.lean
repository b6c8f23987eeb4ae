import MqttFailure.Json.Value
set_option autoImplicit false

namespace MqttFailure.Json

inductive Mismatch where
  | wrongType (found : Shape) (expected : String)
  | wrongValue (found : Shape) (expected : String)
  | outOfRange (found : Int) (expected : String)
  | wrongLength (found : Nat) (expected : String)
  | duplicateField (name : String)
  | missingField (name : String)
  | unknownName (found : String) (known : List String)
  deriving DecidableEq, Repr

def Mismatch.ticked (name : String) : String := "`" ++ name ++ "`"

def Mismatch.message : Mismatch → String
  | .wrongType found expected => "invalid type: " ++ found.described ++ ", expected " ++ expected
  | .wrongValue found expected => "invalid value: " ++ found.described ++ ", expected " ++ expected
  | .outOfRange found expected =>
    "invalid value: integer " ++ ticked (toString found) ++ ", expected " ++ expected
  | .wrongLength found expected =>
    "invalid length " ++ toString found ++ ", expected " ++ expected
  | .duplicateField name => "duplicate field " ++ ticked name
  | .missingField name => "missing field " ++ ticked name
  | .unknownName found known =>
    "unknown variant " ++ ticked found ++ ", expected one of " ++
      ", ".intercalate (known.map ticked)

end MqttFailure.Json
