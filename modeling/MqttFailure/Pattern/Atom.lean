import MqttFailure.Pattern.Blank
import MqttFailure.Pattern.Options
import MqttFailure.Text.Hexadecimal
set_option autoImplicit false

/-!
Atoms of a pattern, and the escapes that stand for some of them. No tables of scripts are at hand.
So where characters of all scripts are matched, an atom that would need one is refused: digits,
blanks, word characters and the edges of words, and every character whose case is to be ignored.
Where bytes are matched, only the bytes of ASCII can stand on their own.
-/

namespace MqttFailure.Pattern

open Text (hexValue?)

inductive Atom where
  -- A character; `short` if it is written by two hexadecimal digits, like a byte.
  | char (c : Char) (short : Bool)
  | any
  | edge
  | wordEdge
  | kind (negated : Bool)
  deriving DecidableEq, Repr

namespace Atom

def isAllowed (o : Options) : Atom → Bool
  | .char c short => if o.unicode then !o.ignoreCase else !short || c.toNat < 0x80
  | .any => o.unicode
  | .edge => true
  | .wordEdge => !o.unicode
  | .kind negated => !o.unicode && !negated

def isMember (o : Options) : Atom → Bool
  | .char c _ => if o.unicode then !o.ignoreCase else c.toNat < 0x80
  | .kind negated => !o.unicode && !negated
  | _ => false

def isRange : Atom → Atom → Bool
  | .char first _, .char last _ => first ≤ last
  | _, _ => false

end Atom

def hexDigits? (spaced : Bool) : Nat → Nat → List Char → Option (Nat × List Char)
  | 0, value, cs => some (value, cs)
  | count + 1, value, cs =>
    match skipBlanks spaced cs with
    | [] => none
    | c :: rest => do hexDigits? spaced count (16 * value + (← hexValue? c)) rest

def codePoint? (spaced : Bool) (digits : Nat) (cs : List Char) : Option (Atom × List Char) := do
  let (value, rest) ← hexDigits? spaced digits 0 cs
  if value.isValidChar then some (.char (Char.ofNat value) (digits = 2), rest) else none

def escaped? : Char → Option Atom
  | 'a' => some (.char '\x07' false)
  | 'f' => some (.char '\x0c' false)
  | 't' => some (.char '\t' false)
  | 'n' => some (.char '\n' false)
  | 'r' => some (.char '\r' false)
  | 'v' => some (.char '\x0b' false)
  | 'A' | 'z' => some .edge
  | 'b' | 'B' | '<' | '>' => some .wordEdge
  | 'd' | 's' | 'w' => some (.kind false)
  | 'D' | 'S' | 'W' => some (.kind true)
  | c => if c.toNat < 0x80 ∧ ¬c.isAlphanum then some (.char c false) else none

def escape? (spaced : Bool) : List Char → Option (Atom × List Char)
  | [] => none
  | 'x' :: rest => codePoint? spaced 2 rest
  | 'u' :: rest => codePoint? spaced 4 rest
  | 'U' :: rest => codePoint? spaced 8 rest
  | c :: rest => (escaped? c).map fun atom => (atom, rest)

def atom? (spaced : Bool) : List Char → Option (Atom × List Char)
  | [] => none
  | '\\' :: rest => escape? spaced rest
  | '.' :: rest => some (.any, rest)
  | '^' :: rest => some (.edge, rest)
  | '$' :: rest => some (.edge, rest)
  | c :: rest => some (.char c false, rest)

def member? (spaced : Bool) : List Char → Option (Atom × List Char)
  | [] => none
  | '\\' :: rest => escape? spaced rest
  | c :: rest => some (.char c false, rest)

end MqttFailure.Pattern
