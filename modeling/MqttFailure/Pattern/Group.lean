import MqttFailure.Pattern.CharacterSet
import MqttFailure.Text.Alphanumeric
set_option autoImplicit false

namespace MqttFailure.Pattern

structure Body where
  complete : Option Nat
  items : Row
  last : Option Nat
  deriving DecidableEq, Repr

namespace Body

def empty : Body := ⟨none, Row.empty, none⟩

def add (b : Body) (depth : Nat) : Body :=
  { b with items := b.items.add depth, last := some depth }

-- The body with options switched, which counts as an item but cannot be repeated.
def addSwitch (b : Body) : Body := { b with items := b.items.add 0, last := none }

def repeat? (b : Body) : Option Body :=
  b.last.map fun depth =>
    { b with items := b.items.deepen (depth + 1), last := some (depth + 1) }

def split (b : Body) : Body :=
  ⟨some (max (b.complete.getD 0) b.items.depth), Row.empty, none⟩

def depth (b : Body) : Nat := joined b.complete b.items.depth

end Body

structure Progress where
  options : Options
  names : List (List Char)
  body : Body
  outer : List (Options × Body)
  deriving DecidableEq, Repr

namespace Progress

def initial : Progress := ⟨Options.initial, [], Body.empty, []⟩

def enter (p : Progress) (options : Options) : Progress :=
  { p with options, body := Body.empty, outer := (p.options, p.body) :: p.outer }

def leave? (p : Progress) : Option Progress :=
  match p.outer with
  | [] => none
  | (options, body) :: outer =>
    some { p with options, body := body.add (1 + p.body.depth), outer }

def isName (name : List Char) : Bool :=
  match name with
  | [] => false
  | first :: rest =>
    (first = '_' || Text.isAlphabetic first) &&
      rest.all fun c => c = '_' || c = '.' || c = '[' || c = ']' || Text.isAlphanumeric c

def enterNamed? (p : Progress) (cs : List Char) : Option (Progress × List Char) :=
  let name := cs.takeWhile (· ≠ '>')
  match cs.drop name.length with
  | [] => none
  | _ :: rest =>
    if isName name ∧ name ∉ p.names then
      some ({ p with names := name :: p.names }.enter p.options, rest)
    else none

def enterSwitched? (p : Progress) (cs : List Char) : Option (Progress × List Char) := do
  let letters := cs.takeWhile fun c => c ≠ ':' && c ≠ ')'
  let options ← p.options.switchAll? letters
  match cs.drop letters.length with
  | [] => none
  | c :: rest =>
    if c = ':' then some (p.enter options, rest)
    else if letters = [] then none
    else some ({ p with options, body := p.body.addSwitch }, rest)

def enter? (p : Progress) (cs : List Char) : Option (Progress × List Char) :=
  match skipBlanks p.options.spaced cs with
  | '?' :: 'P' :: '<' :: rest => p.enterNamed? rest
  | '?' :: '<' :: rest => p.enterNamed? rest
  | '?' :: rest => p.enterSwitched? rest
  | rest => some (p.enter p.options, rest)

def readAtom? (p : Progress) (cs : List Char) : Option (Progress × List Char) := do
  let (atom, rest) ← atom? p.options.spaced cs
  if atom.isAllowed p.options then some ({ p with body := p.body.add 0 }, rest) else none

-- Reads one item, bracket or operator. An opening brace would begin a counted
-- repetition; there are none, as the text of a field has no closing brace to
-- end them.
def advance? (p : Progress) (c : Char) (rest : List Char) : Option (Progress × List Char) :=
  match c with
  | '(' => p.enter? rest
  | ')' => p.leave?.map fun p => (p, rest)
  | '|' => some ({ p with body := p.body.split }, rest)
  | '[' => (set? p.options rest).map fun (depth, rest) =>
      ({ p with body := p.body.add depth }, rest)
  | '?' | '*' | '+' => p.body.repeat?.map fun body =>
      ({ p with body }, if rest.head? = some '?' then rest.tail else rest)
  | '\x7b' => none
  | c => p.readAtom? (c :: rest)

def round (p : Progress) (cs : List Char) : Option ((Progress ⊕ Nat) × List Char) :=
  match skipBlanks p.options.spaced cs with
  | [] => if p.outer.isEmpty then some (.inr p.body.depth, []) else none
  | c :: rest => (p.advance? c rest).map fun (p, rest) => (.inl p, rest)

end Progress

def maxDepth : Nat := 250

def isPattern (cs : List Char) : Bool :=
  (rounds Progress.round Progress.initial cs).any fun (depth, _) => depth ≤ maxDepth

end MqttFailure.Pattern
