set_option autoImplicit false

namespace MqttFailure.Decimal

def dropSign : List Char → List Char
  | '+' :: rest => rest
  | '-' :: rest => rest
  | cs => cs

def isExponent : List Char → Bool
  | [] => true
  | mark :: rest =>
    let digits := dropSign rest
    (mark = 'e' || mark = 'E') && !digits.isEmpty && digits.all Char.isDigit

def isNumber (cs : List Char) : Bool :=
  let unsigned := dropSign cs
  let whole := unsigned.takeWhile Char.isDigit
  let rest := unsigned.drop whole.length
  let fraction := if rest.head? = some '.' then rest.tail.takeWhile Char.isDigit else []
  let rest := if rest.head? = some '.' then rest.tail.drop fraction.length else rest
  ["inf", "infinity", "nan"].contains (String.ofList unsigned).toLower ||
    !(whole.isEmpty && fraction.isEmpty) && isExponent rest

end MqttFailure.Decimal
