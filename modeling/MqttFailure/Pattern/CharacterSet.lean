import MqttFailure.Pattern.Atom
import MqttFailure.Pattern.Nesting
set_option autoImplicit false

namespace MqttFailure.Pattern

structure OpenSet where
  -- Nothing but dashes has been read yet. A dash there, or a closing bracket in
  -- the first place, is a member.
  fresh : Bool
  left : Option Nat
  members : Row
  deriving DecidableEq, Repr

namespace OpenSet

def empty : OpenSet := ⟨true, none, Row.empty⟩

def add (s : OpenSet) (depth : Nat) : OpenSet :=
  { s with fresh := false, members := s.members.add depth }

def operate (s : OpenSet) : OpenSet := ⟨false, some (joined s.left s.members.depth), Row.empty⟩

def depth (s : OpenSet) : Nat := 1 + joined s.left s.members.depth

end OpenSet

def classNames : List String :=
  ["alnum", "alpha", "ascii", "blank", "cntrl", "digit", "graph", "lower", "print", "punct",
    "space", "upper", "word", "xdigit"]

def namedClass? : List Char → Option (Bool × List Char)
  | ':' :: cs =>
    let negated := cs.head? = some '^'
    let written := if negated then cs.tail else cs
    let name := written.takeWhile (· ≠ ':')
    match written.drop name.length with
    | ':' :: ']' :: rest =>
      if classNames.contains (String.ofList name) then some (negated, rest) else none
    | _ => none
  | _ => none

def allowsClass (o : Options) (negated : Bool) : Bool :=
  if o.unicode then !o.ignoreCase else !negated

def openSet? (o : Options) (cs : List Char) : Option (List Char) :=
  match skipBlanks o.spaced cs with
  | '^' :: rest => if o.unicode then some rest else none
  | rest => some rest

def range? (o : Options) (cs : List Char) : Option (List Char) := do
  let (first, rest) ← member? o.spaced cs
  let rest := skipBlanks o.spaced rest
  let next := peek o.spaced rest.tail
  if rest.head? ≠ some '-' ∨ next = some ']' ∨ next = some '-' then
    if first.isMember o then some rest else none
  else
    let (last, rest) ← member? o.spaced (skipBlanks o.spaced rest.tail)
    if first.isMember o ∧ last.isMember o ∧ first.isRange last then some rest else none

-- Reads one member, bracket or operator. The state is the innermost open set
-- and the sets around it; the result is the depth of the outermost.
def setRound (o : Options) (state : OpenSet × List OpenSet) (cs : List Char) :
    Option (((OpenSet × List OpenSet) ⊕ Nat) × List Char) :=
  let (s, outer) := state
  match skipBlanks o.spaced cs with
  | [] => none
  | c :: rest =>
    if s.fresh ∧ (c = '-' ∨ c = ']' ∧ s.members.count = 0) then
      if (Atom.char c false).isMember o then
        some (.inl ({ s.add 0 with fresh := c = '-' }, outer), rest)
      else none
    else if c = '[' then
      match namedClass? rest with
      | some (negated, rest) =>
        if allowsClass o negated then some (.inl (s.add 0, outer), rest) else none
      | none => (openSet? o rest).map fun rest => (.inl (OpenSet.empty, s :: outer), rest)
    else if c = ']' then
      match outer with
      | [] => some (.inr s.depth, rest)
      | parent :: outer => some (.inl (parent.add s.depth, outer), rest)
    else if (c = '&' ∨ c = '-' ∨ c = '~') ∧ rest.head? = some c then
      some (.inl (s.operate, outer), rest.tail)
    else (range? o (c :: rest)).map fun rest => (.inl (s.add 0, outer), rest)

def set? (o : Options) (cs : List Char) : Option (Nat × List Char) := do
  rounds (setRound o) (OpenSet.empty, []) (← openSet? o cs)

end MqttFailure.Pattern
