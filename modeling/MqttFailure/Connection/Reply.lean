import MqttFailure.AnyFailure
set_option autoImplicit false

namespace MqttFailure.Connection

inductive ReturnCode where
  | success
  | refusedProtocolVersion
  | badClientId
  | serviceUnavailable
  | badUserNamePassword
  | notAuthorized
  deriving DecidableEq, Repr

namespace ReturnCode

def name : ReturnCode → String
  | .success => "Success"
  | .refusedProtocolVersion => "RefusedProtocolVersion"
  | .badClientId => "BadClientId"
  | .serviceUnavailable => "ServiceUnavailable"
  | .badUserNamePassword => "BadUserNamePassword"
  | .notAuthorized => "NotAuthorized"

def byte : ReturnCode → Int32
  | .success => 0
  | .refusedProtocolVersion => 1
  | .badClientId => 2
  | .serviceUnavailable => 3
  | .badUserNamePassword => 4
  | .notAuthorized => 5

def reason? : ReturnCode → Option String
  | .success => none
  | .refusedProtocolVersion => some "unacceptable protocol version"
  | .badClientId => some "identifier rejected"
  | .serviceUnavailable => some "server unavailable"
  | .badUserNamePassword => some "bad user name or password"
  | .notAuthorized => some "not authorized"

def ofByte? : Nat → Option ReturnCode
  | 0 => some .success
  | 1 => some .refusedProtocolVersion
  | 2 => some .badClientId
  | 3 => some .serviceUnavailable
  | 4 => some .badUserNamePassword
  | 5 => some .notAuthorized
  | _ => none

def failure? (code : ReturnCode) : Option ProtocolFailure :=
  code.reason?.map fun reason => ⟨⟨"connection refused: " ++ reason, code.byte⟩⟩

end ReturnCode

inductive QoS where
  | atMostOnce
  | atLeastOnce
  | exactlyOnce
  deriving DecidableEq, Repr

namespace QoS

def name : QoS → String
  | .atMostOnce => "AtMostOnce"
  | .atLeastOnce => "AtLeastOnce"
  | .exactlyOnce => "ExactlyOnce"

def ofLevel? : Nat → Option QoS
  | 0 => some .atMostOnce
  | 1 => some .atLeastOnce
  | 2 => some .exactlyOnce
  | _ => none

end QoS

inductive SubscribeReply where
  | granted (qos : QoS)
  | refused
  deriving DecidableEq, Repr

namespace SubscribeReply

def name : SubscribeReply → String
  | .granted qos => "Success(" ++ qos.name ++ ")"
  | .refused => "Failure"

def refusedCode : Int32 := 0x80

def failure? (filter : String) : SubscribeReply → Option ProtocolFailure
  | .granted _ => none
  | .refused => some ⟨⟨"couldn't subscribe to '" ++ filter ++ "'", refusedCode⟩⟩

end SubscribeReply

-- The failure of a request that the event loop did not take. The cause carries
-- no more than the fact itself, whichever request it was.
def requestFailure : ProtocolFailure :=
  ⟨⟨"request not accepted by event loop: Failed to send mqtt requests to eventloop", 0⟩⟩

end MqttFailure.Connection
