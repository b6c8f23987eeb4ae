import MqttFailure.Chain.Raised
set_option autoImplicit false

/-!
Two questions are asked of a caught error and see different parts of it. The chain shows contexts as
plain texts and goes on through all causes; a search by type looks at the context values and at the
raised error itself, and never at causes.
-/

namespace MqttFailure

inductive Context where
  | text (message : String)
  | failure (inner : AnyFailure)
  deriving DecidableEq

namespace Context

def shown : Context → String
  | .text message => message
  | .failure inner => inner.text

def failure? : Context → Option AnyFailure
  | .text _ => none
  | .failure inner => some inner

def link (c : Context) : Link := Link.plain c.shown

end Context

structure Caught where
  contexts : List Context
  root : Raised
  deriving DecidableEq

namespace Caught

def bare (root : Raised) : Caught := ⟨[], root⟩

def ofFailure (f : AnyFailure) : Caught := bare (.failure f)

def under (e : Caught) (c : Context) : Caught := { e with contexts := c :: e.contexts }

def underTexts (e : Caught) (texts : List String) : Caught :=
  texts.foldl (fun e message => e.under (.text message)) e

def build (root : Raised) (carriers : List Raised.Carrier) (contexts : List Context) : Caught :=
  contexts.foldl under (bare (carriers.foldl Raised.carry root))

def chain (e : Caught) : Chain := e.contexts.map Context.link ++ e.root.chain

def text (e : Caught) : String :=
  match e.contexts with
  | [] => e.root.text
  | c :: _ => c.shown

def line (e : Caught) : String := ": ".intercalate (e.chain.map Link.text)

def visible (e : Caught) : List AnyFailure :=
  e.contexts.filterMap Context.failure? ++ e.root.failure?.toList

def find? {α : Type} (e : Caught) (select : AnyFailure → Option α) : Option α :=
  e.visible.findSome? select

-- The failure to report: a client failure before a bare protocol failure, and
-- that before a bare control failure.
def reported? (e : Caught) : Option AnyFailure :=
  (e.find? AnyFailure.client?).map AnyFailure.client <|>
    (e.find? AnyFailure.protocol?).map AnyFailure.protocol <|>
    (e.find? AnyFailure.control?).map AnyFailure.control

def kind? (e : Caught) : Option Kind := e.chain.kind?

end Caught

end MqttFailure
