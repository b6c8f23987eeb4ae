import MqttFailure.Chain.Link
import MqttFailure.Connection.Errno
set_option autoImplicit false

namespace MqttFailure.Connection

-- A category of the system library, which may add others.
structure IoCategory where
  name : String
  text : String
  deriving DecidableEq, Repr

def IoCategory.other : IoCategory := ⟨"Other", "other error"⟩

inductive IoFault where
  | os (number : Int32)
  | bare (category : IoCategory)
  | custom (category : IoCategory) (inner : Payload)
  deriving DecidableEq

namespace IoFault

def ofMessage (message : String) : IoFault := .custom .other (Payload.ofMessage message)

def text : IoFault → String
  | .os number => Errno.text number ++ " (os error " ++ toString number ++ ")"
  | .bare category => category.text
  | .custom _ inner => inner.text

def debug : IoFault → String
  | .os number =>
    Text.record "Os" [("code", toString number), ("kind", Errno.category number),
      ("message", Text.quoted (Errno.text number))]
  | .bare category => Text.wrapped "Kind" category.name
  | .custom category inner =>
    Text.record "Custom" [("kind", category.name), ("error", inner.debug)]

def osNumber? : IoFault → Option Int32
  | .os number => some number
  | _ => none

-- The error inside a custom fault stands for the fault itself, so only its causes follow.
def causes : IoFault → Chain
  | .custom _ inner => inner.causes
  | _ => []

def chain (e : IoFault) : Chain := Link.plain e.text :: e.causes

end IoFault

end MqttFailure.Connection
