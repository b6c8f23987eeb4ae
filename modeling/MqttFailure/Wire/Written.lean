import MqttFailure.AnyFailure
import MqttFailure.Json.Compact
set_option autoImplicit false

namespace MqttFailure

def Kind.toJson (k : Kind) : Json := .text k.wireName

def Status.members (s : Status) : List (String × Json) :=
  [("message", .text s.message), ("code", .number (.integer s.code.toInt))]

def Status.toJson (s : Status) : Json := .object s.members

def ProtocolFailure.toJson (e : ProtocolFailure) : Json := e.toStatus.toJson

def ControlFailure.toJson (e : ControlFailure) : Json := e.toStatus.toJson

def ClientFailure.toJson (e : ClientFailure) : Json :=
  .object (("kind", .text (tag e.kind)) :: e.status.members)

theorem Kind.to_json_eq (k : Kind) : k.toJson = .text k.name := by rw [toJson, wire_name]

theorem ClientFailure.to_json_eq (e : ClientFailure) :
    e.toJson = .object (("kind", .text e.kind.name) :: e.status.members) := by rw [toJson, tag_eq]

def AnyFailure.toJson : AnyFailure → Json
  | .protocol e => e.toJson
  | .control e => e.toJson
  | .client e => e.toJson

def Kind.encode (k : Kind) : String := k.toJson.compact

def ProtocolFailure.encode (e : ProtocolFailure) : String := e.toJson.compact

def ControlFailure.encode (e : ControlFailure) : String := e.toJson.compact

def ClientFailure.encode (e : ClientFailure) : String := e.toJson.compact

def ClientFailure.encodeList (es : List ClientFailure) : String :=
  (Json.array (es.map toJson)).compact

def AnyFailure.encode (f : AnyFailure) : String := f.toJson.compact

def Kind.encodeList (kinds : List Kind) : String := (Json.array (kinds.map toJson)).compact

end MqttFailure
