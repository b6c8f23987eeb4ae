import MqttFailure.Connection.Fault
set_option autoImplicit false

namespace MqttFailure

open Connection (IoFault)

inductive Raised where
  | failure (inner : AnyFailure)
  | connection (inner : Connection.Fault)
  | io (inner : IoFault)
  | foreign (inner : Payload)
  deriving DecidableEq

namespace Raised

def ofMessage (message : String) : Raised := .foreign (Payload.foreign message [])

def text : Raised → String
  | .failure inner => inner.text
  | .connection inner => inner.text
  | .io inner => inner.text
  | .foreign inner => inner.text

def debug : Raised → String
  | .failure inner => inner.debug
  | .connection inner => inner.debug
  | .io inner => inner.debug
  | .foreign inner => inner.debug

def causes : Raised → Chain
  | .failure _ => []
  | .connection inner => inner.causes
  | .io inner => inner.causes
  | .foreign inner => inner.causes

def failure? : Raised → Option AnyFailure
  | .failure inner => some inner
  | _ => none

def link (e : Raised) : Link := ⟨e.text, e.failure?⟩

def chain (e : Raised) : Chain := e.link :: e.causes

def erased (e : Raised) : Payload := ⟨e.text, e.debug, e.causes⟩

inductive Carrier where
  | foreign (message : String)
  | io
  | connectionIo
  | tlsIo
  | stateIo
  | shared
  | lift
  deriving DecidableEq, Repr

def asIo (e : Raised) : IoFault := .custom .other e.erased

def carry (e : Raised) : Carrier → Raised
  | .foreign message => .foreign (Payload.foreign message e.chain)
  | .io => .io e.asIo
  | .connectionIo => .connection (.io e.asIo)
  | .tlsIo => .connection (.tls (.io e.asIo))
  | .stateIo => .connection (.state (.io e.asIo))
  | .shared => .foreign e.erased
  | .lift =>
    match e with
    | .failure inner => .failure inner.lift
    | .connection inner => .failure (.client inner.toFailure)
    | e => e

end Raised

end MqttFailure
