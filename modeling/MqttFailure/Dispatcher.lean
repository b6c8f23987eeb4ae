import MqttFailure.Chain.Caught
import MqttFailure.Event
set_option autoImplicit false

namespace MqttFailure

inductive Destination where
  | mqtt
  | generic
  | foreign
  deriving DecidableEq, Repr

namespace Destination

def name : Destination → String
  | .mqtt => "Mqtt"
  | .generic => "Generic"
  | .foreign => "Foreign"

def ofKind? : Option Kind → Destination
  | some .protocol => .mqtt
  | some _ => .generic
  | none => .foreign

end Destination

inductive Delivery where
  | caught (error : Caught)
  | direct (failure : AnyFailure)
  deriving DecidableEq

namespace Delivery

def kind? : Delivery → Option Kind
  | .caught error => error.kind?
  | .direct failure => some failure.kind

def reported? : Delivery → Option AnyFailure
  | .caught error => error.reported?
  | .direct failure => some failure

def text : Delivery → String
  | .caught error => error.text
  | .direct failure => failure.text

def destination : Delivery → Destination
  | .caught error => Destination.ofKind? error.kind?
  | .direct failure => if failure.kind = .protocol then .mqtt else .generic

theorem destination_eq (d : Delivery) : d.destination = Destination.ofKind? d.kind? := by
  cases d with
  | caught error => rfl
  | direct failure =>
      rw [destination, kind?]
      cases failure.kind <;> rfl

-- The message and code that are logged: those of the failure that is reported,
-- or else the text of the outermost layer and zero.
def status (d : Delivery) : Status := (d.reported?.map AnyFailure.status).getD ⟨d.text, 0⟩

def event? (d : Delivery) (context : String) : Option Event :=
  d.reported?.map (Event.ofFailure context)

end Delivery

structure Entry where
  destination : Destination
  kind : Option Kind
  message : String
  code : Int32
  deriving DecidableEq

def Delivery.entry (d : Delivery) : Entry :=
  ⟨d.destination, d.kind?, d.status.message, d.status.code⟩

structure Dispatcher where
  log : List Entry
  deriving DecidableEq

namespace Dispatcher

def idle : Dispatcher := ⟨[]⟩

def latest? (d : Dispatcher) : Option Entry := d.log.getLast?

def dispatch (d : Dispatcher) (delivery : Delivery) : Dispatcher := ⟨d.log ++ [delivery.entry]⟩

end Dispatcher

end MqttFailure
