import MqttFailure.Event.Directive
set_option autoImplicit false

namespace MqttFailure

structure Filter where
  directives : List Directive
  deriving DecidableEq

namespace Filter

def directive? (piece : List Char) : Except Text.CutFault (Option Directive) :=
  match Directive.parse piece with
  | .ok d => .ok (some d)
  | .error .unreadable => .ok none
  | .error (.misplaced fault) => .error fault

def ofDirectives : List Directive → Filter
  | [] => ⟨[Directive.global (some .error)]⟩
  | directives => ⟨directives⟩

-- Reads a filter: directives with commas between them, of which unreadable ones
-- are left out. The first one with a part that ends inside a character makes
-- the filter unreadable as a whole.
def parse (text : String) : Except Text.CutFault Filter := do
  let found ← (text.splitOn ",").mapM fun piece => directive? piece.toList
  return ofDirectives (found.filterMap id)

def deciding? (f : Filter) (target : String) (fields : List String) : Option Directive :=
  match f.directives.filter (·.covers target.toList (fields.map String.toList)) with
  | [] => none
  | first :: rest =>
    some (rest.foldl (fun best d => if best.yields d then d else best) first)

def admits (f : Filter) (e : Event) : Bool :=
  match f.deciding? Event.target Event.fieldNames with
  | none => false
  | some d => d.threshold.admits e.level

def output (f : Filter) (e : Event) : String :=
  if f.admits e then e.line ++ "\n" else ""

end Filter

end MqttFailure
