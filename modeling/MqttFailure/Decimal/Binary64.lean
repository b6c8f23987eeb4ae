set_option autoImplicit false

namespace MqttFailure.Decimal

-- The size of a finite binary64 number, in units of 2^-1074, so that rounding works on whole
-- numbers.
structure Binary64 where
  units : Nat
  deriving DecidableEq, Repr

namespace Binary64

def zero : Binary64 := ⟨0⟩

def roundDiv (num den : Nat) : Nat :=
  let floor := num / den
  let twice := 2 * (num % den)
  if twice < den then floor
  else if den < twice then floor + 1
  else floor + floor % 2

def lowBits (units : Nat) : Nat := units.log2 - 52

def round (num den : Nat) : Option Binary64 :=
  let scaled := num * Nat.pow 2 1074
  let unit := Nat.pow 2 (lowBits (scaled / den))
  let units := roundDiv scaled (den * unit) * unit
  if units < Nat.pow 2 2098 then some ⟨units⟩ else none

def ofNat (n : Nat) : Option Binary64 := round n 1

def mul (a b : Binary64) : Option Binary64 := round (a.units * b.units) (Nat.pow 2 2148)

def div (a b : Binary64) : Option Binary64 := round a.units b.units

def largestPower : Nat := 308

-- The size `size · 10^exponent`, in steps that are rounded one by one: a factor
-- or a divisor of at most `10^308` at a time. None when the result is too
-- large; a result too small to hold is zero.
def scale (size : Binary64) (exponent : Int) : Option Binary64 :=
  let shift := exponent.natAbs
  if 0 ≤ exponent then
    if shift ≤ largestPower then do size.mul (← ofNat (Nat.pow 10 shift))
    else if size = zero then some zero
    else none
  else if shift ≤ largestPower then do size.div (← ofNat (Nat.pow 10 shift))
  else if shift ≤ 2 * largestPower then do
    let small ← size.div (← ofNat (Nat.pow 10 largestPower))
    small.div (← ofNat (Nat.pow 10 (shift - largestPower)))
  else some zero

end Binary64

end MqttFailure.Decimal
