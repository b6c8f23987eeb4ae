import MqttFailure.Json.Document
import MqttFailure.Wire.Fields
set_option autoImplicit false

namespace MqttFailure

open Json (Reader ReadError Scanner)
open Json.Reader

def Kind.record : Kind → String
  | .protocol => "struct ProtocolError"
  | .control => "struct ControlError"
  | k => "struct variant ClientError::" ++ ClientFailure.variant k

namespace Status

def readMember (f : Fields) : Reader Fields := do
  let name ← key .exact
  let slot ← judge (f.slot name)
  colon
  match slot with
  | some field =>
    let shape ← head .exact
    judge (f.fill field shape)
  | none =>
    skip
    return f

def readElements (record : String) : Reader Status := do
  if ← closes ']' then refuse (.wrongLength 0 (wanted record))
  let first ← head .exact
  let message ← judge first.asText
  if ← more true ']' then
    let second ← head .exact
    let code ← judge second.asCode
    endOfList
    return ⟨message, code⟩
  else refuse (.wrongLength 1 (wanted record))

def read (record : String) : Reader Status := do
  match ← head .exact with
  | .array => readElements record
  | .object =>
    let fields ← items true '}' readMember Fields.none
    judge fields.finish
  | found => refuse (.wrongType found record)

end Status

def ProtocolFailure.read : Reader ProtocolFailure := do
  return ⟨← Status.read Kind.protocol.record⟩

def ControlFailure.read : Reader ControlFailure := do
  return ⟨← Status.read Kind.control.record⟩

def ProtocolFailure.decode (text : String) : Except ReadError ProtocolFailure :=
  readAll ProtocolFailure.read text

def ControlFailure.decode (text : String) : Except ReadError ControlFailure :=
  readAll ControlFailure.read text

end MqttFailure
