import MqttFailure.Connection.Reply
set_option autoImplicit false

namespace MqttFailure.Connection

inductive Protocol where
  | v4
  | v5
  deriving DecidableEq, Repr

def Protocol.name : Protocol → String
  | .v4 => "V4"
  | .v5 => "V5"

structure LastWill where
  topic : String
  message : List UInt8
  qos : QoS
  retain : Bool
  deriving DecidableEq, Repr

structure Login where
  username : String
  password : String
  deriving DecidableEq, Repr

structure SubscribeFilter where
  path : String
  qos : QoS
  deriving DecidableEq, Repr

inductive Acknowledgement where
  | pubAck
  | pubRec
  | pubRel
  | pubComp
  | unsubAck
  deriving DecidableEq, Repr

def Acknowledgement.name : Acknowledgement → String
  | .pubAck => "PubAck"
  | .pubRec => "PubRec"
  | .pubRel => "PubRel"
  | .pubComp => "PubComp"
  | .unsubAck => "UnsubAck"

inductive Packet where
  | pingReq
  | pingResp
  | disconnect
  | connAck (sessionPresent : Bool) (code : ReturnCode)
  | acknowledge (of : Acknowledgement) (pkid : Nat)
  | subAck (pkid : Nat) (replies : List SubscribeReply)
  | unsubscribe (pkid : Nat) (topics : List String)
  | subscribe (pkid : Nat) (filters : List SubscribeFilter)
  | publish (topic : String) (qos : QoS) (retain : Bool) (pkid : Nat)
      (payload : List UInt8)
  | connect (protocol : Protocol) (keepAlive : Nat) (clientId : String) (cleanSession : Bool)
      (lastWill : Option LastWill) (login : Option Login)
  deriving DecidableEq

namespace Packet

def lastWillText (w : LastWill) : String :=
  Text.record "LastWill" [("topic", Text.quoted w.topic), ("message", Text.quotedBytes w.message),
    ("qos", w.qos.name), ("retain", toString w.retain)]

def loginText (l : Login) : String :=
  Text.record "Login" [("username", Text.quoted l.username), ("password", Text.quoted l.password)]

def titled (title : String) (fields : List (String × String)) : String :=
  Text.wrapped title (Text.record title fields)

def filterText (f : SubscribeFilter) : String :=
  "Filter = " ++ f.path ++ ", Qos = " ++ f.qos.name

def debug : Packet → String
  | .pingReq => "PingReq"
  | .pingResp => "PingResp"
  | .disconnect => "Disconnect"
  | .connAck sessionPresent code =>
    titled "ConnAck" [("session_present", toString sessionPresent), ("code", code.name)]
  | .acknowledge of pkid => titled of.name [("pkid", toString pkid)]
  | .subAck pkid replies =>
    titled "SubAck" [("pkid", toString pkid),
      ("return_codes", Text.bracketed (replies.map SubscribeReply.name))]
  | .unsubscribe pkid topics =>
    titled "Unsubscribe" [("pkid", toString pkid),
      ("topics", Text.bracketed (topics.map Text.quoted))]
  | .subscribe pkid filters =>
    "Subscribe(Filters = " ++ Text.bracketed (filters.map filterText) ++ ", Packet id = " ++
      toString pkid ++ ")"
  | .publish topic qos retain pkid payload =>
    "Publish(Topic = " ++ topic ++ ", Qos = " ++ qos.name ++ ", Retain = " ++ toString retain ++
      ", Pkid = " ++ toString pkid ++ ", Payload Size = " ++ toString payload.length ++ ")"
  | .connect protocol keepAlive clientId cleanSession lastWill login =>
    titled "Connect" [("protocol", protocol.name), ("keep_alive", toString keepAlive),
      ("client_id", Text.quoted clientId), ("clean_session", toString cleanSession),
      ("last_will", Text.optional (lastWill.map lastWillText)),
      ("login", Text.optional (login.map loginText))]

end Packet

end MqttFailure.Connection
