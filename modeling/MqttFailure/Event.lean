import MqttFailure.AnyFailure
set_option autoImplicit false

namespace MqttFailure

inductive Level where
  | error
  | warn
  | info
  | debug
  | trace
  deriving DecidableEq, Repr

namespace Level

def name : Level → String
  | .error => "ERROR"
  | .warn => "WARN"
  | .info => "INFO"
  | .debug => "DEBUG"
  | .trace => "TRACE"

def rank : Level → Nat
  | .error => 1
  | .warn => 2
  | .info => 3
  | .debug => 4
  | .trace => 5

def ofKind : Kind → Level
  | .protocol | .control => .warn
  | .transport | .configuration | .other => .error

end Level

structure Event where
  level : Level
  context : String
  kind : Kind
  code : Int32
  reason : String
  deriving DecidableEq

namespace Event

def target : String := "mtc_errors::report"

def message : String := "client operation failed"

def fieldNames : List String := ["message", "context", "kind", "code", "reason"]

def ofFailure (context : String) (f : AnyFailure) : Event :=
  ⟨Level.ofKind f.kind, context, f.kind, f.code, f.message⟩

def padded (width : Nat) (text : String) : String :=
  String.ofList (List.replicate (width - text.length) ' ') ++ text

def line (e : Event) : String :=
  padded 5 e.level.name ++ " " ++ target ++ ": " ++ message ++
    " context=" ++ Text.quoted e.context ++ " kind=" ++ e.kind.name ++
    " code=" ++ toString e.code ++ " reason=" ++ Text.quoted e.reason

end Event

end MqttFailure
