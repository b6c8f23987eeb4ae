import MqttFailure.Connection.IoFault
set_option autoImplicit false

namespace MqttFailure.Connection

inductive StateFault where
  | io (inner : IoFault)
  | invalidState
  | unsolicited (pkid : Nat)
  | pingUnanswered
  | wrongPacket
  | collisionTimeout
  | emptySubscription
  | packetTooLarge (size : Nat) (limit : Nat)
  | undecodable (inner : Outside)
  deriving DecidableEq

namespace StateFault

-- An input or output fault shows in its diagnostic form here.
def text : StateFault → String
  | .io inner => "Io error: " ++ inner.debug
  | .invalidState => "Invalid state for a given operation"
  | .unsolicited pkid => "Received unsolicited ack pkid: " ++ toString pkid
  | .pingUnanswered => "Last pingreq isn't acked"
  | .wrongPacket => "Received a wrong packet while waiting for another packet"
  | .collisionTimeout => "Timeout while waiting to resolve collision"
  | .emptySubscription => "A Subscribe packet must contain atleast one filter"
  | .packetTooLarge size limit =>
    "Cannot send packet of size '" ++ toString size ++
      "'. It's greater than the broker's maximum packet size of: '" ++ toString limit ++ "'"
  | .undecodable inner => "Mqtt serialization/deserialization error: " ++ inner.text

def debug : StateFault → String
  | .io inner => Text.wrapped "Io" inner.debug
  | .invalidState => "InvalidState"
  | .unsolicited pkid => Text.wrapped "Unsolicited" (toString pkid)
  | .pingUnanswered => "AwaitPingResp"
  | .wrongPacket => "WrongPacket"
  | .collisionTimeout => "CollisionTimeout"
  | .emptySubscription => "EmptySubscription"
  | .packetTooLarge size limit =>
    Text.record "OutgoingPacketTooLarge" [("pkt_size", toString size), ("max", toString limit)]
  | .undecodable inner => Text.wrapped "Deserialization" inner.debug

def causes : StateFault → Chain
  | .io inner => inner.chain
  | .undecodable inner => inner.chain
  | _ => []

def chain (e : StateFault) : Chain := Link.plain e.text :: e.causes

end StateFault

end MqttFailure.Connection
