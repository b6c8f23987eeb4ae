import MqttFailure.Connection.Fault
set_option autoImplicit false

namespace MqttFailure

open Connection (ReturnCode SubscribeReply)

structure Broker where
  refusal : Option ProtocolFailure
  connack : ReturnCode
  suback : List SubscribeReply
  socketError : Option Int32
  deriving DecidableEq

namespace Broker

def willing : Broker := ⟨none, .success, [], none⟩

def unwilling (status : Status) : Broker := { willing with refusal := some ⟨status⟩ }

inductive Setting where
  | connack (code : ReturnCode)
  | suback (replies : List SubscribeReply)
  | socketError (number : Int32)
  deriving DecidableEq

def set (b : Broker) : Setting → Broker
  | .connack code => { b with connack := code }
  | .suback replies => { b with suback := replies }
  | .socketError number => { b with socketError := some number }

def setAll (b : Broker) (settings : List Setting) : Broker := settings.foldl set b

-- A simulated CONNECT. The socket fails before the broker is heard, and a
-- scripted failure comes before the CONNACK.
def connect (b : Broker) : Except ClientFailure Unit :=
  match b.socketError with
  | some number => .error (Connection.Fault.io (.os number)).toFailure
  | none =>
    match b.refusal with
    | some failure => .error (.protocol failure)
    | none =>
      if b.connack = .success then .ok ()
      else .error (Connection.Fault.refused b.connack).toFailure

def subscribe (b : Broker) (filters : List String) : Except ProtocolFailure Unit :=
  match (filters.zip b.suback).findSome? fun (filter, reply) => reply.failure? filter with
  | some failure => .error failure
  | none => .ok ()

end Broker

end MqttFailure
