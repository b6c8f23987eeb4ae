import MqttFailure.Kind
import MqttFailure.Status
set_option autoImplicit false

namespace MqttFailure

structure ProtocolFailure extends Status
  deriving DecidableEq

structure ControlFailure extends Status
  deriving DecidableEq

namespace ProtocolFailure

def text (e : ProtocolFailure) : String := e.toStatus.text

def debugBy (hidden : Char → Bool) (e : ProtocolFailure) : String :=
  e.toStatus.debugBy hidden "ProtocolError"

def debug (e : ProtocolFailure) : String := e.debugBy Text.isUnprintable

end ProtocolFailure

namespace ControlFailure

def ofMessage (message : String) : ControlFailure := ⟨⟨message, 0⟩⟩

def text (e : ControlFailure) : String := e.toStatus.text

def debugBy (hidden : Char → Bool) (e : ControlFailure) : String :=
  e.toStatus.debugBy hidden "ControlError"

def debug (e : ControlFailure) : String := e.debugBy Text.isUnprintable

end ControlFailure

inductive ClientFailure where
  | protocol (inner : ProtocolFailure)
  | control (inner : ControlFailure)
  | transport (status : Status)
  | configuration (status : Status)
  | other (status : Status)
  deriving DecidableEq

namespace ClientFailure

def ofMessage (message : String) : ClientFailure := .other ⟨message, 0⟩

def ofKind : Kind → Status → ClientFailure
  | .protocol, s => .protocol ⟨s⟩
  | .control, s => .control ⟨s⟩
  | .transport, s => .transport s
  | .configuration, s => .configuration s
  | .other, s => .other s

def kind : ClientFailure → Kind
  | .protocol _ => .protocol
  | .control _ => .control
  | .transport _ => .transport
  | .configuration _ => .configuration
  | .other _ => .other

def status : ClientFailure → Status
  | .protocol inner => inner.toStatus
  | .control inner => inner.toStatus
  | .transport s | .configuration s | .other s => s

def variant : Kind → String
  | .protocol => "Protocol"
  | .control => "Control"
  | .transport => "Transport"
  | .configuration => "Configuration"
  | .other => "Other"

def tag (k : Kind) : String := snakeCase (variant k)

def message (e : ClientFailure) : String := e.status.message

def code (e : ClientFailure) : Int32 := e.status.code

def protocol? : ClientFailure → Option ProtocolFailure
  | .protocol inner => some inner
  | _ => none

def isProtocol : ClientFailure → Bool
  | .protocol _ => true
  | _ => false

def lead : Kind → String
  | .protocol => "MQTT protocol error: "
  | .control => "control channel error: "
  | .transport => "transport error: "
  | .configuration => "configuration error: "
  | .other => ""

def text (e : ClientFailure) : String := lead e.kind ++ e.status.text

def debugBy (hidden : Char → Bool) : ClientFailure → String
  | .protocol inner => Text.wrapped (variant .protocol) (inner.debugBy hidden)
  | .control inner => Text.wrapped (variant .control) (inner.debugBy hidden)
  | .transport s => s.debugBy hidden (variant .transport)
  | .configuration s => s.debugBy hidden (variant .configuration)
  | .other s => s.debugBy hidden (variant .other)

def debug (e : ClientFailure) : String := e.debugBy Text.isUnprintable

theorem variant_title : variant = Kind.title := by
  funext k
  cases k <;> rfl

theorem tag_wire_name : tag = Kind.wireName := by
  funext k
  rw [tag, variant_title, Kind.wireName]

theorem tag_eq : tag = Kind.name := tag_wire_name.trans Kind.wire_name

@[simp] theorem kind_of_kind (k : Kind) (s : Status) : (ofKind k s).kind = k := by
  cases k <;> rfl

@[simp] theorem status_of_kind (k : Kind) (s : Status) : (ofKind k s).status = s := by
  cases k <;> rfl

@[simp] theorem of_kind_kind_status (e : ClientFailure) : ofKind e.kind e.status = e := by
  cases e <;> rfl

end ClientFailure

end MqttFailure
