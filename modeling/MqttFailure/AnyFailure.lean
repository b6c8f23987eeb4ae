import MqttFailure.ClientFailure
set_option autoImplicit false

namespace MqttFailure

inductive AnyFailure where
  | protocol (inner : ProtocolFailure)
  | control (inner : ControlFailure)
  | client (inner : ClientFailure)
  deriving DecidableEq

namespace AnyFailure

def status : AnyFailure → Status
  | .protocol inner => inner.toStatus
  | .control inner => inner.toStatus
  | .client inner => inner.status

def message (f : AnyFailure) : String := f.status.message

def code (f : AnyFailure) : Int32 := f.status.code

def kind : AnyFailure → Kind
  | .protocol _ => .protocol
  | .control _ => .control
  | .client inner => inner.kind

def text : AnyFailure → String
  | .protocol inner => inner.text
  | .control inner => inner.text
  | .client inner => inner.text

def debug : AnyFailure → String
  | .protocol inner => inner.debug
  | .control inner => inner.debug
  | .client inner => inner.debug

def toClient : AnyFailure → ClientFailure
  | .protocol inner => .protocol inner
  | .control inner => .control inner
  | .client inner => inner

def lift (f : AnyFailure) : AnyFailure := .client f.toClient

def unlift? : AnyFailure → Option AnyFailure
  | .client inner => inner.protocol?.map .protocol
  | bare => some bare

def protocol? : AnyFailure → Option ProtocolFailure
  | .protocol inner => some inner
  | _ => none

def control? : AnyFailure → Option ControlFailure
  | .control inner => some inner
  | _ => none

def client? : AnyFailure → Option ClientFailure
  | .client inner => some inner
  | _ => none

def sameAs? : AnyFailure → AnyFailure → Option Bool
  | .protocol a, .protocol b => some (a = b)
  | .control a, .control b => some (a = b)
  | .client a, .client b => some (a = b)
  | _, _ => none

end AnyFailure

end MqttFailure
