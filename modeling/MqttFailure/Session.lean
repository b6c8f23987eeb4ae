import MqttFailure.Broker
import MqttFailure.Dispatcher
import MqttFailure.Json.Reader
import MqttFailure.Shelf
set_option autoImplicit false

namespace MqttFailure

structure Catching where
  context : String
  texts : List String
  deriving DecidableEq

-- One step of a session. A step that needs a failure does nothing where there is none.
inductive Step where
  | script (broker : Broker)
  | connect (catching : Option Catching) (slot : Option String)
  | subscribe (filters : List String) (catching : Option Catching) (slot : Option String)
  | deliver (context : String) (delivery : Option Delivery)
  | deliverKept (context : String) (slot : String)
  | latest
  | log
  | restart
  | keep (slot : String) (failure : Option AnyFailure)
  | copy (slot : String) (target : String)
  | read (slot : String)
  | drop (slot : String)
  | lift (slot : String)
  | unread (problem : Json.ReadError)
  deriving DecidableEq

inductive Result where
  | nothing
  | success
  | failure (f : AnyFailure)
  | caught (f : AnyFailure) (line : String) (destination : Destination)
  | delivered (destination : Destination)
  | entry (e : Entry)
  | entries (es : List Entry)
  | noEntry
  | dropped (found : Bool)
  | text (shown : String)
  | unread (problem : Json.ReadError)
  deriving DecidableEq

def Result.noEntryMessage : String := "no failure handled yet"

structure Session where
  broker : Broker
  dispatcher : Dispatcher
  shelf : Shelf
  deriving DecidableEq

namespace Session

def start : Session := ⟨.willing, .idle, .empty⟩

structure Outcome where
  session : Session
  result : Result
  event : Option Event
  deriving DecidableEq

def silent (session : Session) (result : Result) : Outcome := ⟨session, result, none⟩

def delivered (s : Session) (context : String) (d : Delivery) (result : Result) : Outcome :=
  ⟨{ s with dispatcher := s.dispatcher.dispatch d }, result, d.event? context⟩

def keptIn (s : Session) (slot : Option String) (f : AnyFailure) : Session :=
  match slot with
  | some name => { s with shelf := s.shelf.insert name f }
  | none => s

def raised (s : Session) (f : AnyFailure) (catching : Option Catching) (slot : Option String) :
    Outcome :=
  let s := s.keptIn slot f
  match catching with
  | none => silent s (.failure f)
  | some c =>
    let error := (Caught.ofFailure f).underTexts c.texts
    let d := Delivery.caught error
    s.delivered c.context d (.caught f error.line d.destination)

def deliver (s : Session) (context : String) (delivery : Option Delivery) : Outcome :=
  match delivery with
  | none => silent s .nothing
  | some d => s.delivered context d (.delivered d.destination)

def keep (s : Session) (slot : String) (failure : Option AnyFailure) : Outcome :=
  match failure with
  | none => silent s .nothing
  | some f => silent (s.keptIn (some slot) f) (.failure f)

def step (s : Session) : Step → Outcome
  | .script broker => silent { s with broker } .nothing
  | .connect catching slot =>
    match s.broker.connect with
    | .ok () => silent s .success
    | .error e => s.raised (.client e) catching slot
  | .subscribe filters catching slot =>
    match s.broker.subscribe filters with
    | .ok () => silent s .success
    | .error e => s.raised (.protocol e) catching slot
  | .deliver context delivery => s.deliver context delivery
  | .deliverKept context slot => s.deliver context ((s.shelf.get? slot).map .direct)
  | .latest => silent s ((s.dispatcher.latest?.map Result.entry).getD .noEntry)
  | .log => silent s (.entries s.dispatcher.log)
  | .restart => silent { s with dispatcher := .idle } .nothing
  | .keep slot failure => s.keep slot failure
  | .copy slot target => s.keep target (s.shelf.get? slot)
  | .read slot => silent s (((s.shelf.get? slot).map Result.failure).getD .nothing)
  | .drop slot =>
    silent { s with shelf := s.shelf.erase slot } (.dropped (s.shelf.get? slot).isSome)
  | .lift slot =>
    match s.shelf.get? slot with
    | none => silent s .nothing
    | some f => silent (s.keptIn (some slot) f.lift) (.text f.lift.text)
  | .unread problem => silent s (.unread problem)

def run (s : Session) : List Step → List Outcome
  | [] => []
  | first :: rest =>
    let outcome := s.step first
    outcome :: run outcome.session rest

end Session

end MqttFailure
