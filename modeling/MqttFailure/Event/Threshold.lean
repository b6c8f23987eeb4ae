import MqttFailure.Event
set_option autoImplicit false

namespace MqttFailure

-- The least grave level that is let through; none lets nothing through.
abbrev Threshold : Type := Option Level

namespace Threshold

def admits (threshold : Threshold) (level : Level) : Bool :=
  match threshold with
  | none => false
  | some least => level.rank ≤ least.rank

def ofNumber? : Nat → Option Threshold
  | 0 => some none
  | 1 => some (some .error)
  | 2 => some (some .warn)
  | 3 => some (some .info)
  | 4 => some (some .debug)
  | 5 => some (some .trace)
  | _ => none

def ofName? (name : String) : Option Threshold :=
  match name.toLower with
  | "off" => some none
  | "error" => some (some .error)
  | "warn" => some (some .warn)
  | "info" => some (some .info)
  | "debug" => some (some .debug)
  | "trace" => some (some .trace)
  | _ => none

def number? (text : List Char) : Option Nat :=
  let digits := if text.head? = some '+' then text.tail else text
  if digits.isEmpty || !digits.all Char.isDigit then none
  else some (Nat.ofDigitChars 10 digits 0)

def ofText? (text : List Char) : Option Threshold :=
  match number? text with
  | some n => ofNumber? n
  | none => ofName? (String.ofList text)

end Threshold

end MqttFailure
