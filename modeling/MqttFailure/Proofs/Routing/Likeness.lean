import Mathlib.Data.List.Forall2
import MqttFailure.Proofs.Routing.EitherWay
set_option autoImplicit false

namespace MqttFailure

open Connection (IoFault)

inductive Connection.Fault.SameVariant : Fault → Fault → Prop
  | refused (a b : ReturnCode) : SameVariant (.refused a) (.refused b)
  | networkTimeout : SameVariant .networkTimeout .networkTimeout
  | flushTimeout : SameVariant .flushTimeout .flushTimeout
  | requestsDone : SameVariant .requestsDone .requestsDone
  | io (a b : IoFault) : SameVariant (.io a) (.io b)
  | state (a b : StateFault) : SameVariant (.state a) (.state b)
  | tls (a b : TlsFault) : SameVariant (.tls a) (.tls b)
  | notConnAck (a b : Packet) : SameVariant (.notConnAck a) (.notConnAck b)

theorem Connection.Fault.SameVariant.kind {a b : Fault} (same : a.SameVariant b) :
    a.toFailure.kind = b.toFailure.kind := by
  cases same <;> rfl

/-- Failures of one type and variant, or client failures that connection faults of one variant
have become. -/
inductive AnyFailure.Alike : AnyFailure → AnyFailure → Prop
  | protocol (a b : ProtocolFailure) : Alike (.protocol a) (.protocol b)
  | control (a b : ControlFailure) : Alike (.control a) (.control b)
  | client (k : Kind) (a b : Status) : Alike (.client (.ofKind k a)) (.client (.ofKind k b))
  | converted {a b : Connection.Fault} (same : a.SameVariant b) :
      Alike (.client a.toFailure) (.client b.toFailure)

def Link.Alike (a b : Link) : Prop := Option.Rel AnyFailure.Alike a.failure b.failure

def Chain.Alike (a b : Chain) : Prop := List.Forall₂ Link.Alike a b

inductive Raised.Alike : Raised → Raised → Prop
  | failure {f g : AnyFailure} (alike : f.Alike g) : Alike (.failure f) (.failure g)
  | connection {a b : Connection.Fault} (same : a.SameVariant b)
      (causes : Chain.Alike a.causes b.causes) : Alike (.connection a) (.connection b)
  | io {a b : IoFault} (causes : Chain.Alike a.causes b.causes) : Alike (.io a) (.io b)
  | foreign {a b : Payload} (causes : Chain.Alike a.causes b.causes) :
      Alike (.foreign a) (.foreign b)

inductive Raised.Carrier.Alike : Carrier → Carrier → Prop
  | foreign (a b : String) : Alike (.foreign a) (.foreign b)
  | same (c : Carrier) : Alike c c

inductive Context.Alike : Context → Context → Prop
  | text (a b : String) : Alike (.text a) (.text b)
  | failure {f g : AnyFailure} (alike : f.Alike g) : Alike (.failure f) (.failure g)

structure Caught.Alike (a b : Caught) : Prop where
  contexts : List.Forall₂ Context.Alike a.contexts b.contexts
  root : a.root.Alike b.root

inductive Delivery.Alike : Delivery → Delivery → Prop
  | caught {a b : Caught} (alike : a.Alike b) : Alike (.caught a) (.caught b)
  | direct {f g : AnyFailure} (alike : f.Alike g) : Alike (.direct f) (.direct g)

section Related

variable {α β γ δ : Type} {R : α → β → Prop} {S : γ → δ → Prop}

theorem map_related {f : α → γ} {g : β → δ} (each : ∀ a b, R a b → S (f a) (g b)) {x : Option α}
    {y : Option β} (related : Option.Rel R x y) : Option.Rel S (x.map f) (y.map g) := by
  cases related with
  | none => exact .none
  | some here => exact .some (each _ _ here)

theorem is_some_related {x : Option α} {y : Option β} (related : Option.Rel R x y) :
    x.isSome = y.isSome := by
  cases related <;> rfl

theorem map_eq_of_related {f : α → γ} {g : β → γ} (each : ∀ a b, R a b → f a = g b) {x : Option α}
    {y : Option β} (related : Option.Rel R x y) : x.map f = y.map g := by
  cases related with
  | none => rfl
  | some here => exact congrArg some (each _ _ here)

theorem or_else_related {x x' : Option α} {y y' : Option β} (first : Option.Rel R x y)
    (second : Option.Rel R x' y') : Option.Rel R (x <|> x') (y <|> y') := by
  cases first with
  | none => exact second
  | some here => exact .some here

theorem find_related {f : α → Option γ} {g : β → Option δ}
    (each : ∀ a b, R a b → Option.Rel S (f a) (g b)) {l : List α} {m : List β}
    (related : List.Forall₂ R l m) : Option.Rel S (l.findSome? f) (m.findSome? g) := by
  induction related with
  | nil => exact .none
  | @cons a b l m here rest ih =>
      rw [List.findSome?_cons, List.findSome?_cons]
      have first := each a b here
      revert first
      rcases f a with _ | x <;> rcases g b with _ | y <;> intro first <;> cases first
      · exact ih
      · exact .some ‹S x y›

theorem list_related {x : Option α} {y : Option β} (related : Option.Rel R x y) :
    List.Forall₂ R x.toList y.toList := by
  cases related with
  | none => exact .nil
  | some here => exact .cons here .nil

end Related

namespace AnyFailure

def blank : Status := ⟨"", 0⟩

def blanked : AnyFailure → AnyFailure
  | .protocol _ => .protocol ⟨blank⟩
  | .control _ => .control ⟨blank⟩
  | .client inner => .client (.ofKind inner.kind blank)

namespace Alike

variable {f g : AnyFailure}

theorem kind (alike : f.Alike g) : f.kind = g.kind := by
  cases alike with
  | protocol a b => rfl
  | control a b => rfl
  | client k a b => simp [AnyFailure.kind]
  | converted same => exact same.kind

theorem blanked (alike : f.Alike g) : f.blanked = g.blanked := by
  cases alike with
  | protocol a b => rfl
  | control a b => rfl
  | client k a b => simp [AnyFailure.blanked]
  | converted same => rw [AnyFailure.blanked, AnyFailure.blanked, same.kind]

theorem lift (alike : f.Alike g) : f.lift.Alike g.lift := by
  cases alike with
  | protocol a b => exact .client .protocol a.toStatus b.toStatus
  | control a b => exact .client .control a.toStatus b.toStatus
  | client k a b => exact .client k a b
  | converted same => exact .converted same

theorem own_client (alike : f.Alike g) :
    Option.Rel (fun a b => Alike (.client a) (.client b)) f.client? g.client? := by
  cases alike with
  | protocol a b => exact .none
  | control a b => exact .none
  | client k a b => exact .some (.client k a b)
  | converted same => exact .some (.converted same)

theorem own_protocol (alike : f.Alike g) :
    Option.Rel (fun a b => Alike (.protocol a) (.protocol b)) f.protocol? g.protocol? := by
  cases alike with
  | protocol a b => exact .some (.protocol a b)
  | control a b => exact .none
  | client k a b => exact .none
  | converted same => exact .none

theorem own_control (alike : f.Alike g) :
    Option.Rel (fun a b => Alike (.control a) (.control b)) f.control? g.control? := by
  cases alike with
  | protocol a b => exact .none
  | control a b => exact .some (.control a b)
  | client k a b => exact .none
  | converted same => exact .none

end Alike

end AnyFailure

theorem Chain.Alike.kind {a b : Chain} (alike : a.Alike b) : a.kind? = b.kind? := by
  have first : Option.Rel AnyFailure.Alike a.failure? b.failure? :=
    find_related (fun _ _ here => here) alike
  exact map_eq_of_related (fun _ _ here => here.kind) first

namespace Raised

variable {a b : Raised}

theorem Alike.own_failure (alike : a.Alike b) :
    Option.Rel AnyFailure.Alike a.failure? b.failure? := by
  cases alike with
  | failure same => exact .some same
  | connection same causes => exact .none
  | io causes => exact .none
  | foreign causes => exact .none

theorem Alike.causes (alike : a.Alike b) : Chain.Alike a.causes b.causes := by
  cases alike with
  | failure same => exact .nil
  | connection same causes => exact causes
  | io causes => exact causes
  | foreign causes => exact causes

theorem Alike.chain (alike : a.Alike b) : Chain.Alike a.chain b.chain :=
  .cons alike.own_failure alike.causes

theorem Alike.as_io (alike : a.Alike b) : Chain.Alike a.asIo.chain b.asIo.chain :=
  .cons .none alike.causes

theorem Alike.carry (alike : a.Alike b) {c d : Carrier} (same : c.Alike d) :
    (a.carry c).Alike (b.carry d) := by
  cases same with
  | foreign message other => exact .foreign alike.chain
  | same =>
      cases c with
      | foreign message => exact .foreign alike.chain
      | io => exact .io alike.causes
      | connectionIo => exact .connection (.io _ _) alike.as_io
      | tlsIo => exact .connection (.tls _ _) (.cons .none alike.as_io)
      | stateIo => exact .connection (.state _ _) (.cons .none alike.as_io)
      | shared => exact .foreign alike.causes
      | lift =>
          cases alike with
          | failure inner => exact .failure inner.lift
          | connection variant causes => exact .failure (.converted variant)
          | io causes => exact .io causes
          | foreign causes => exact .foreign causes

end Raised

namespace Caught

variable {a b : Caught}

theorem Alike.kind (alike : a.Alike b) : a.kind? = b.kind? := by
  have plain (c d : Context) (same : c.Alike d) : c.link.Alike d.link := .none
  have contexts := List.rel_map plain alike.contexts
  exact Chain.Alike.kind (List.rel_append contexts alike.root.chain)

theorem Alike.visible (alike : a.Alike b) :
    List.Forall₂ AnyFailure.Alike a.visible b.visible := by
  have here (c d : Context) (same : c.Alike d) :
      Option.Rel AnyFailure.Alike c.failure? d.failure? := by
    cases same with
    | text message other => exact .none
    | failure inner => exact .some inner
  exact List.rel_append (List.rel_filterMap here alike.contexts)
    (list_related alike.root.own_failure)

theorem Alike.found {α : Type} {select : AnyFailure → Option α} {asFailure : α → AnyFailure}
    (selected : ∀ f g, f.Alike g →
      Option.Rel (fun x y => (asFailure x).Alike (asFailure y)) (select f) (select g))
    (alike : a.Alike b) :
    Option.Rel AnyFailure.Alike ((a.find? select).map asFailure)
      ((b.find? select).map asFailure) := by
  have first := find_related selected alike.visible
  refine map_related ?_ first
  intro x y here
  exact here

theorem Alike.reported (alike : a.Alike b) :
    Option.Rel AnyFailure.Alike a.reported? b.reported? := by
  have client := Alike.found (fun _ _ here => here.own_client) alike
  have protocol := Alike.found (fun _ _ here => here.own_protocol) alike
  have control := Alike.found (fun _ _ here => here.own_control) alike
  exact or_else_related client (or_else_related protocol control)

theorem build_alike {a b : Raised} (alike : a.Alike b) {cs ds : List Raised.Carrier}
    (carriers : List.Forall₂ Raised.Carrier.Alike cs ds) {us vs : List Context}
    (contexts : List.Forall₂ Context.Alike us vs) : (build a cs us).Alike (build b ds vs) := by
  have root : (cs.foldl Raised.carry a).Alike (ds.foldl Raised.carry b) :=
    List.rel_foldl (fun _ _ here _ _ same => here.carry same) alike carriers
  refine List.rel_foldl ?_ ⟨.nil, root⟩ contexts
  intro e f here c d same
  exact ⟨.cons same here.contexts, here.root⟩

theorem under_texts_alike {f g : AnyFailure} (alike : f.Alike g) {texts others : List String}
    (as_many : texts.length = others.length) :
    ((ofFailure f).underTexts texts).Alike ((ofFailure g).underTexts others) := by
  rw [ofFailure, ofFailure, Raised.bare_under_texts, Raised.bare_under_texts]
  refine ⟨?_, .failure alike⟩
  refine List.forall₂_map_left_iff.mpr (List.forall₂_map_right_iff.mpr ?_)
  exact List.forall₂_of_length_eq_of_get (by simpa using as_many) fun _ _ _ => .text _ _

end Caught

def Entry.blanked (e : Entry) : Entry := { e with message := "", code := 0 }

namespace Delivery

variable {a b : Delivery}

theorem Alike.kind (alike : a.Alike b) : a.kind? = b.kind? := by
  cases alike with
  | caught errors => exact errors.kind
  | direct failures => exact congrArg some failures.kind

theorem Alike.reported (alike : a.Alike b) :
    Option.Rel AnyFailure.Alike a.reported? b.reported? := by
  cases alike with
  | caught errors => exact errors.reported
  | direct failures => exact .some failures

theorem Alike.destination (alike : a.Alike b) : a.destination = b.destination := by
  rw [destination_eq, destination_eq, alike.kind]

theorem Alike.entry (alike : a.Alike b) : a.entry.blanked = b.entry.blanked := by
  rw [Entry.blanked, Entry.blanked, Delivery.entry, Delivery.entry, alike.kind, alike.destination]

theorem Alike.level (alike : a.Alike b) (context other : String) :
    (a.event? context).map Event.level = (b.event? other).map Event.level := by
  rw [event?, event?, Option.map_map, Option.map_map]
  refine map_eq_of_related ?_ alike.reported
  intro f g here
  exact congrArg Level.ofKind here.kind

end Delivery

end MqttFailure
