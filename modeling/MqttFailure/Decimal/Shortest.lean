import MqttFailure.Decimal.Binary64
set_option autoImplicit false

namespace MqttFailure.Decimal

structure Scientific where
  digits : Nat
  exponent : Int
  deriving DecidableEq, Repr

namespace Binary64

-- The numbers that round to a size, as closed or open bounds in quarters of a
-- unit. The lower half gap is halved where the sizes below stand closer
-- together.
structure Span where
  low : Nat
  high : Nat
  closed : Bool

def span (size : Binary64) : Span :=
  let unit := Nat.pow 2 (lowBits size.units)
  let significand := size.units / unit
  let narrow := significand = Nat.pow 2 52 ∧ 1 < unit
  { low := 4 * size.units - (if narrow then unit else 2 * unit)
    high := 4 * size.units + 2 * unit
    closed := significand % 2 = 0 }

def Span.holds (s : Span) (num den : Nat) : Bool :=
  if s.closed then s.low * den ≤ num && num ≤ s.high * den
  else s.low * den < num && num < s.high * den

def tenth (exponent : Int) : Nat × Nat :=
  if 0 ≤ exponent then (Nat.pow 10 exponent.natAbs, 1) else (1, Nat.pow 10 exponent.natAbs)

def leading (size : Binary64) : Int :=
  let estimate : Int := (((size.units.log2 : Int) - 1074) * 78913).fdiv 262144
  let (num, den) := tenth (estimate + 1)
  if num * Nat.pow 2 1074 ≤ size.units * den then estimate + 1 else estimate

def onGrid (size : Binary64) (exponent : Int) : Option Nat :=
  let (num, den) := tenth exponent
  -- one step of the grid is `step / den` quarters of a unit
  let step := num * Nat.pow 2 1076
  let value := 4 * size.units * den
  let below := value / step
  let span := size.span
  let lowHit := span.holds (below * step) den
  let highHit := span.holds ((below + 1) * step) den
  let remainder := 2 * (value % step)
  let upward := step < remainder || (remainder == step && below % 2 == 1)
  if lowHit && highHit then some (if upward then below + 1 else below)
  else if lowHit then some below
  else if highHit then some (below + 1)
  else none

def finest (size : Binary64) (lead : Int) : Nat → Nat → Scientific
  | 0, _ => ⟨size.units, -1074⟩
  | fuel + 1, more =>
    match size.onGrid (lead - more) with
    | some digits => ⟨digits, lead - more⟩
    | none => finest size lead fuel (more + 1)

def shortest (size : Binary64) : Scientific :=
  if size.units = 0 then ⟨0, 0⟩ else size.finest size.leading 17 0

end Binary64

def stripZeros (n : Nat) : Nat × Nat :=
  if _h : 0 < n ∧ n % 10 = 0 then
    let (m, zeros) := stripZeros (n / 10)
    (m, zeros + 1)
  else (n, 0)
termination_by n
decreasing_by omega

def Scientific.text (s : Scientific) : String :=
  let (digits, zeros) := stripZeros s.digits
  let shown := Nat.toDigits 10 digits
  let exponent := s.exponent + zeros
  let count : Int := shown.length
  let lead := exponent + count - 1
  if -5 ≤ lead ∧ lead < 16 then
    if 0 ≤ exponent then
      String.ofList (shown ++ List.replicate exponent.natAbs '0' ++ ['.', '0'])
    else if 0 ≤ lead then
      let whole := (lead + 1).natAbs
      String.ofList (shown.take whole ++ '.' :: shown.drop whole)
    else
      String.ofList ('0' :: '.' :: (List.replicate (lead + 1).natAbs '0' ++ shown))
  else
    let point := if shown.length = 1 then [] else ['.']
    let sign := if lead < 0 then '-' else '+'
    String.ofList (shown.take 1 ++ point ++ shown.drop 1 ++
      'e' :: sign :: Nat.toDigits 10 lead.natAbs)

def Binary64.text (negative : Bool) (size : Binary64) : String :=
  (if negative then "-" else "") ++ size.shortest.text

end MqttFailure.Decimal
