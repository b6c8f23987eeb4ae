import MqttFailure.Connection.Packet
import MqttFailure.Connection.StateFault
set_option autoImplicit false

namespace MqttFailure.Connection

inductive TlsFault where
  | io (inner : IoFault)
  | other (inner : Outside)
  deriving DecidableEq

namespace TlsFault

def text : TlsFault → String
  | .io inner => "I/O: " ++ inner.text
  | .other inner => inner.text

def debug : TlsFault → String
  | .io inner => Text.wrapped "Io" inner.debug
  | .other inner => inner.debug

def causes : TlsFault → Chain
  | .io inner => inner.chain
  | .other inner => inner.behind

def chain (e : TlsFault) : Chain := Link.plain e.text :: e.causes

end TlsFault

inductive Fault where
  | refused (code : ReturnCode)
  | networkTimeout
  | flushTimeout
  | requestsDone
  | io (inner : IoFault)
  | state (inner : StateFault)
  | tls (inner : TlsFault)
  | notConnAck (packet : Packet)
  deriving DecidableEq

namespace Fault

def text : Fault → String
  | .refused code => "Connection refused, return code: `" ++ code.name ++ "`"
  | .networkTimeout => "Network timeout"
  | .flushTimeout => "Flush timeout"
  | .requestsDone => "Requests done"
  | .io inner => "I/O: " ++ inner.text
  | .state inner => "Mqtt state: " ++ inner.text
  | .tls inner => "TLS: " ++ inner.text
  | .notConnAck packet => "Expected ConnAck packet, received: " ++ packet.debug

def debug : Fault → String
  | .refused code => Text.wrapped "ConnectionRefused" code.name
  | .networkTimeout => "NetworkTimeout"
  | .flushTimeout => "FlushTimeout"
  | .requestsDone => "RequestsDone"
  | .io inner => Text.wrapped "Io" inner.debug
  | .state inner => Text.wrapped "MqttState" inner.debug
  | .tls inner => Text.wrapped "Tls" inner.debug
  | .notConnAck packet => Text.wrapped "NotConnAck" packet.debug

def causes : Fault → Chain
  | .io inner => inner.chain
  | .state inner => inner.chain
  | .tls inner => inner.chain
  | _ => []

/-- What the broker or the session reports becomes a protocol failure, what the network reports a
transport failure. -/
def toFailure : Fault → ClientFailure
  | .refused code =>
    .protocol (code.failure?.getD ⟨⟨"connection refused with success return code", 0⟩⟩)
  | .state inner => .protocol ⟨⟨"MQTT state error: " ++ inner.text, 0⟩⟩
  | .notConnAck packet => .protocol ⟨⟨"expected CONNACK, received " ++ packet.debug, 0⟩⟩
  | .io inner => .transport ⟨inner.text, inner.osNumber?.getD 0⟩
  | .networkTimeout => .transport ⟨text .networkTimeout, 0⟩
  | .flushTimeout => .transport ⟨text .flushTimeout, 0⟩
  | .tls inner => .transport ⟨text (.tls inner), 0⟩
  | .requestsDone => .other ⟨text .requestsDone, 0⟩

end Fault

end MqttFailure.Connection
