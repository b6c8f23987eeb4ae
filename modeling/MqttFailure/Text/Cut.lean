import MqttFailure.Text.Quoted
set_option autoImplicit false

namespace MqttFailure.Text

def utf8Length (cs : List Char) : Nat := cs.foldr (fun c length => c.utf8Size + length) 0

def splitBytes : List Char → Nat → List Char × List Char
  | [], _ => ([], [])
  | c :: cs, n =>
    if c.utf8Size ≤ n then
      let (before, rest) := splitBytes cs (n - c.utf8Size)
      (c :: before, rest)
    else ([], c :: cs)

inductive Edge where
  | start
  | stop
  deriving DecidableEq, Repr

def Edge.name : Edge → String
  | .start => "start"
  | .stop => "end"

structure CutFault where
  edge : Edge
  position : Nat
  char : Char
  first : Nat
  deriving DecidableEq, Repr

namespace CutFault

def last (f : CutFault) : Nat := f.first + f.char.utf8Size

def message (f : CutFault) : String :=
  f.edge.name ++ " byte index " ++ toString f.position
    ++ " is not a char boundary; it is inside '" ++ String.ofList (quotedChar f.char)
    ++ "' (bytes " ++ toString f.first ++ ".." ++ toString f.last ++ " of string)"

end CutFault

def splitAt (edge : Edge) (cs : List Char) (position : Nat) :
    Except CutFault (List Char × List Char) :=
  let (before, rest) := splitBytes cs position
  match rest with
  | [] => .ok (before, [])
  | c :: _ =>
    if utf8Length before < position then .error ⟨edge, position, c, utf8Length before⟩
    else .ok (before, rest)

-- The part from one position up to another; of two faults, the one at its start counts.
def slice (cs : List Char) (start stop : Nat) : Except CutFault (List Char) := do
  let (skipped, _) ← splitAt .start cs start
  let (kept, _) ← splitAt .stop cs stop
  return kept.drop skipped.length

def sliceFrom (cs : List Char) (start : Nat) : Except CutFault (List Char) := do
  let (_, rest) ← splitAt .start cs start
  return rest

end MqttFailure.Text
