import MqttFailure.Decimal.Notation
import MqttFailure.Event.Threshold
import MqttFailure.Pattern.Group
import MqttFailure.Text.Alphanumeric
import MqttFailure.Text.Cut
import MqttFailure.Text.Whitespace
set_option autoImplicit false

namespace MqttFailure

structure FieldPattern where
  name : List Char
  value : Option (List Char)
  deriving DecidableEq, Repr

namespace FieldPattern

def isValue (text : List Char) : Bool := Decimal.isNumber text || Pattern.isPattern text

def parse? (text : List Char) : Option FieldPattern :=
  let name := text.takeWhile (· ≠ '=')
  match text.drop name.length with
  | [] => some ⟨name, none⟩
  | _ :: rest =>
    let value := rest.takeWhile (· ≠ '=')
    if isValue value then some ⟨name, some value⟩ else none

end FieldPattern

structure Directive where
  target : Option (List Char)
  span : Option (List Char)
  field : Option FieldPattern
  threshold : Threshold
  deriving DecidableEq

namespace Directive

def global (threshold : Threshold) : Directive := ⟨none, none, none, threshold⟩

def startsName (c : Char) : Bool := c = '-' || c = ':' || c = '_' || Text.isAlphanumeric c

inductive Problem where
  | unreadable
  | misplaced (fault : Text.CutFault)
  deriving DecidableEq, Repr

def readable {α : Type} : Option α → Except Problem α
  | some a => .ok a
  | none => .error .unreadable

def part (whole : List Char) (start stop : Nat) : Except Problem (List Char) :=
  (Text.slice whole start stop).mapError .misplaced

def level (whole : List Char) (start : Nat) : Except Problem Threshold := do
  let text ← (Text.sliceFrom whole start).mapError .misplaced
  if text.isEmpty then return some .trace else readable (Threshold.ofText? text)

def afterBracket (whole : List Char) (position : Nat) : List Char → Except Problem Threshold
  | [] => .ok (some .trace)
  | c :: _ => if c = '=' then level whole (position + 1) else .error .unreadable

def fieldFrom (whole : List Char) (target span : Option (List Char)) (start : Nat)
    (rest : List Char) : Except Problem Directive := do
  let seen := rest.takeWhile (· ≠ '\x7d')
  let stop := start + Text.utf8Length seen
  match rest.drop seen.length with
  | [] => throw .unreadable
  | _ :: rest =>
    let pattern ← part whole start stop
    if pattern = [] then throw .unreadable
    let field ← readable (FieldPattern.parse? pattern)
    match rest with
    | [] => throw .unreadable
    | c :: rest =>
      if c ≠ ']' then throw .unreadable
      return ⟨target, span, some field, ← afterBracket whole (stop + 2) rest⟩

def spanFrom (whole : List Char) (target : Option (List Char)) (start : Nat)
    (rest : List Char) : Except Problem Directive := do
  let seen := rest.takeWhile fun c => c ≠ ']' && c ≠ '\x7b'
  let stop := start + Text.utf8Length seen
  match rest.drop seen.length with
  | [] => throw .unreadable
  | c :: rest =>
    let name ← part whole start stop
    if c = ']' then return ⟨target, some name, none, ← afterBracket whole (stop + 1) rest⟩
    else fieldFrom whole target (if name.isEmpty then none else some name) (stop + 1) rest

def ofWord (word : List Char) : Directive :=
  match Threshold.ofText? word with
  | some threshold => global threshold
  | none => ⟨some word, none, none, some .trace⟩

def parse (whole : List Char) : Except Problem Directive := do
  let shown := Text.trim whole
  match shown with
  | [] => throw .unreadable
  | first :: rest =>
    if first = '[' then spanFrom whole none 1 rest
    else if startsName first then
      let seen := shown.takeWhile fun c => c ≠ '=' && c ≠ '['
      let stop := Text.utf8Length seen
      match shown.drop seen.length with
      | [] => return ofWord whole
      | c :: rest =>
        let target ← part whole 0 stop
        if c = '=' then return ⟨some target, none, none, ← level whole (stop + 1)⟩
        else spanFrom whole (some target) (stop + 1) rest
    else throw .unreadable

def awaitsSpan (d : Directive) : Bool :=
  d.span.isSome || d.field.any fun field => field.value.isSome

def covers (d : Directive) (target : List Char) (fields : List (List Char)) : Bool :=
  !d.awaitsSpan && d.target.all (·.isPrefixOf target) &&
    d.field.all fun field => fields.contains field.name

def rank (d : Directive) : Nat × Option (List Char) :=
  ((d.target.map fun target => target.length + 1).getD 0, d.field.map FieldPattern.name)

def yields (first second : Directive) : Bool :=
  let (a, b) := first.rank
  let (c, d) := second.rank
  a < c || (a = c && match b, d with
    | none, _ => true
    | some _, none => false
    | some x, some y => !y.lex x fun c d => c < d)

end Directive

end MqttFailure
