set_option autoImplicit false

namespace MqttFailure.Pattern

structure Row where
  count : Nat
  deepest : Nat
  deriving DecidableEq, Repr

namespace Row

def empty : Row := ⟨0, 0⟩

def add (row : Row) (depth : Nat) : Row := ⟨row.count + 1, max row.deepest depth⟩

def deepen (row : Row) (depth : Nat) : Row := { row with deepest := max row.deepest depth }

def depth (row : Row) : Nat := if row.count ≤ 1 then row.deepest else row.deepest + 1

end Row

def joined (first : Option Nat) (second : Nat) : Nat :=
  match first with
  | none => second
  | some depth => 1 + max depth second

variable {σ α : Type}

def rounds (round : σ → List Char → Option ((σ ⊕ α) × List Char)) (state : σ) (cs : List Char) :
    Option (α × List Char) :=
  match round state cs with
  | none => none
  | some (.inr result, rest) => some (result, rest)
  | some (.inl state', rest) => if rest.length < cs.length then rounds round state' rest else none
termination_by cs.length

end MqttFailure.Pattern
