set_option autoImplicit false

namespace MqttFailure.Pattern

structure Options where
  ignoreCase : Bool
  unicode : Bool
  spaced : Bool
  deriving DecidableEq, Repr

namespace Options

def initial : Options := ⟨false, true, false⟩

def letters : List Char := ['i', 'm', 's', 'U', 'u', 'R', 'x', '-']

def switch (value : Bool) (o : Options) : Char → Options
  | 'i' => { o with ignoreCase := value }
  | 'u' => { o with unicode := value }
  | 'x' => { o with spaced := value }
  | _ => o

def switchAll? (o : Options) (written : List Char) : Option Options :=
  if written.all letters.contains ∧ written.Nodup ∧ written.getLast? ≠ some '-' then
    let on := (written.takeWhile (· ≠ '-')).foldl (switch true) o
    some ((written.dropWhile (· ≠ '-')).foldl (switch false) on)
  else none

end Options

end MqttFailure.Pattern
