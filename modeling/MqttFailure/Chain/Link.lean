import MqttFailure.AnyFailure
set_option autoImplicit false

namespace MqttFailure

structure Link where
  text : String
  failure : Option AnyFailure
  deriving DecidableEq

def Link.plain (text : String) : Link := ⟨text, none⟩

abbrev Chain : Type := List Link

namespace Chain

def failure? (chain : Chain) : Option AnyFailure := chain.findSome? Link.failure

def kind? (chain : Chain) : Option Kind := chain.failure?.map AnyFailure.kind

def kinds : Chain → List (Option Kind)
  | [] => []
  | link :: rest => kind? (link :: rest) :: kinds rest

end Chain

structure Payload where
  text : String
  debug : String
  causes : Chain
  deriving DecidableEq

def Payload.ofMessage (message : String) : Payload := ⟨message, Text.quoted message, []⟩

def Payload.foreign (message : String) (causes : Chain) : Payload :=
  ⟨message, "Foreign(" ++ Text.quoted message ++ ")", causes⟩

/-- An error of another library, as that library shows it. None of its causes is a failure of the
client. -/
structure Outside where
  text : String
  debug : String
  causes : List String
  deriving DecidableEq, Repr

namespace Outside

def behind (e : Outside) : Chain := e.causes.map Link.plain

def chain (e : Outside) : Chain := Link.plain e.text :: e.behind

theorem failure_behind (e : Outside) : Chain.failure? e.behind = none := by
  simp [behind, Chain.failure?, Link.plain]

end Outside

end MqttFailure
