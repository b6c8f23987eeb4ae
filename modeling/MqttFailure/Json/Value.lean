import MqttFailure.Decimal.Shortest
import MqttFailure.Text.Quoted
set_option autoImplicit false

namespace MqttFailure

inductive Number where
  | integer (value : Int)
  | real (negative : Bool) (size : Decimal.Binary64)
  deriving DecidableEq, Repr

def Number.text : Number → String
  | .integer value => toString value
  | .real negative size => size.text negative

inductive Json where
  | null
  | bool (value : Bool)
  | number (value : Number)
  | text (value : String)
  | array (elements : List Json)
  | object (members : List (String × Json))

namespace Json

inductive Shape where
  | null
  | bool (value : Bool)
  | number (value : Number)
  | text (value : String)
  | array
  | object
  deriving DecidableEq, Repr

def shape : Json → Shape
  | .null => .null
  | .bool value => .bool value
  | .number value => .number value
  | .text value => .text value
  | .array _ => .array
  | .object _ => .object

def Shape.described : Shape → String
  | .null => "null"
  | .bool true => "boolean `true`"
  | .bool false => "boolean `false`"
  | .number (.integer value) => "integer `" ++ toString value ++ "`"
  | .number (.real negative size) => "floating point `" ++ size.text negative ++ "`"
  | .text value => "string " ++ Text.quoted value
  | .array => "sequence"
  | .object => "map"

end Json

end MqttFailure
