import Mathlib.Algebra.Group.Nat.Defs
import MqttFailure.Decimal.Binary64
set_option autoImplicit false

namespace MqttFailure.Decimal.Binary64

theorem round_div_bounds (num den : Nat) :
    num / den ≤ roundDiv num den ∧ roundDiv num den ≤ num / den + 1 := by
  unfold roundDiv
  dsimp only
  split
  · omega
  · split <;> omega

theorem round_div_mono {num num' : Nat} (less : num ≤ num') (den : Nat) :
    roundDiv num den ≤ roundDiv num' den := by
  have upper := (round_div_bounds num den).2
  have lower := (round_div_bounds num' den).1
  have floors : num / den ≤ num' / den := Nat.div_le_div_right less
  by_cases same : num / den = num' / den
  · -- With one floor the remainders decide, and they stand in the order of the numbers.
    have whole := Nat.div_add_mod num den
    have whole' := Nat.div_add_mod num' den
    rw [same] at whole
    have rests : num % den ≤ num' % den := by omega
    unfold roundDiv
    dsimp only
    rw [same]
    split <;> split <;> (try split) <;> (try split) <;> omega
  · omega

def grid (num den : Nat) : Nat := Nat.pow 2 (lowBits (num * Nat.pow 2 1074 / den))

def rounded (num den : Nat) : Nat :=
  roundDiv (num * Nat.pow 2 1074) (den * grid num den) * grid num den

theorem grid_pos (num den : Nat) : 0 < grid num den := Nat.two_pow_pos _

theorem round_eq (num den : Nat) :
    round num den =
      if rounded num den < Nat.pow 2 2098 then some ⟨rounded num den⟩ else none := by
  unfold round rounded grid
  rfl

theorem low_bits_lt (n : Nat) : n < 2 ^ 53 * 2 ^ lowBits n := by
  have below : n < 2 ^ (n.log2 + 1) := Nat.lt_log2_self
  have wide : 2 ^ (n.log2 + 1) ≤ 2 ^ (53 + lowBits n) :=
    Nat.pow_le_pow_right (by decide) (by unfold lowBits; omega)
  rw [← Nat.pow_add]
  exact Nat.lt_of_lt_of_le below wide

theorem low_bits_le {n : Nat} (some : 0 < lowBits n) : 2 ^ 52 * 2 ^ lowBits n ≤ n := by
  have nonzero : n ≠ 0 := by
    rintro rfl
    exact absurd some (by decide)
  have exact : 52 + lowBits n = n.log2 := by
    unfold lowBits at some ⊢
    omega
  rw [← Nat.pow_add, exact]
  exact Nat.log2_self_le nonzero

theorem low_bits_mono {n n' : Nat} (less : n ≤ n') : lowBits n ≤ lowBits n' := by
  unfold lowBits
  by_cases zero : n = 0
  · simp [zero]
  · have logs : n.log2 ≤ n'.log2 := by
      rw [Nat.le_log2 (by omega)]
      exact Nat.le_trans (Nat.log2_self_le zero) less
    omega

theorem rounded_le (num den : Nat) : rounded num den ≤ 2 ^ 53 * grid num den := by
  have below := low_bits_lt (num * Nat.pow 2 1074 / den)
  have floor : num * Nat.pow 2 1074 / (den * grid num den) < 2 ^ 53 := by
    rw [← Nat.div_div_eq_div_mul, Nat.div_lt_iff_lt_mul (grid_pos num den)]
    exact below
  have upper := (round_div_bounds (num * Nat.pow 2 1074) (den * grid num den)).2
  exact Nat.mul_le_mul_right _ (by omega)

theorem le_rounded {num den : Nat} (coarse : 0 < lowBits (num * Nat.pow 2 1074 / den)) :
    2 ^ 52 * grid num den ≤ rounded num den := by
  have above := low_bits_le coarse
  have floor : 2 ^ 52 ≤ num * Nat.pow 2 1074 / (den * grid num den) := by
    rw [← Nat.div_div_eq_div_mul, Nat.le_div_iff_mul_le (grid_pos num den)]
    exact above
  have lower := (round_div_bounds (num * Nat.pow 2 1074) (den * grid num den)).1
  exact Nat.mul_le_mul_right _ (by omega)

theorem rounded_mono {num num' : Nat} (less : num ≤ num') (den : Nat) :
    rounded num den ≤ rounded num' den := by
  have scaled : num * Nat.pow 2 1074 ≤ num' * Nat.pow 2 1074 := Nat.mul_le_mul_right _ less
  have bits := low_bits_mono (Nat.div_le_div_right scaled (c := den))
  by_cases same : lowBits (num * Nat.pow 2 1074 / den) = lowBits (num' * Nat.pow 2 1074 / den)
  · have grids : grid num den = grid num' den := congrArg (Nat.pow 2) same
    rw [rounded, rounded, grids]
    exact Nat.mul_le_mul_right _ (round_div_mono scaled _)
  · -- A coarser grid begins where the finer one ends.
    have coarser : 2 ^ 53 * grid num den ≤ 2 ^ 52 * grid num' den := by
      unfold grid
      have exponents : 53 + lowBits (num * Nat.pow 2 1074 / den) ≤
          52 + lowBits (num' * Nat.pow 2 1074 / den) := by omega
      have powers := Nat.pow_le_pow_right (show 0 < 2 by decide) exponents
      rwa [Nat.pow_add, Nat.pow_add] at powers
    calc rounded num den ≤ 2 ^ 53 * grid num den := rounded_le num den
      _ ≤ 2 ^ 52 * grid num' den := coarser
      _ ≤ rounded num' den := le_rounded (by omega)

theorem round_below {num num' den : Nat} (less : num ≤ num') {s' : Binary64}
    (held : round num' den = some s') : ∃ s, round num den = some s ∧ s.units ≤ s'.units := by
  have order := rounded_mono less den
  rw [round_eq] at held ⊢
  split at held
  · rename_i fits
    cases held
    exact ⟨⟨rounded num den⟩, if_pos (Nat.lt_of_le_of_lt order fits), order⟩
  · cases held

def scaled (word shift : Nat) : Option Binary64 := (ofNat word).bind fun size => size.scale shift

theorem scale_near (size : Binary64) {shift : Nat} (near : shift ≤ largestPower) :
    size.scale shift = (ofNat (Nat.pow 10 shift)).bind size.mul := by
  rw [scale, if_pos (Int.natCast_nonneg shift), Int.natAbs_natCast, if_pos near]
  rfl

theorem scale_far {size : Binary64} (some : size ≠ zero) {shift : Nat}
    (far : largestPower < shift) : size.scale shift = none := by
  rw [scale, if_pos (Int.natCast_nonneg shift), Int.natAbs_natCast,
    if_neg (Nat.not_le_of_lt far), if_neg some]

theorem scaled_below {word word' shift shift' : Nat} (less : word ≤ word')
    (less' : shift ≤ shift') (near : shift' ≤ largestPower)
    (held : (scaled word' shift').isSome = true) : (scaled word shift).isSome = true := by
  obtain ⟨size', held⟩ := Option.isSome_iff_exists.mp held
  obtain ⟨factor', first', held⟩ := Option.bind_eq_some_iff.mp held
  rw [scale_near factor' near] at held
  obtain ⟨power', second', product'⟩ := Option.bind_eq_some_iff.mp held
  obtain ⟨factor, first, order⟩ := round_below less first'
  obtain ⟨power, second, order'⟩ :=
    round_below (Nat.pow_le_pow_right (show 0 < 10 by decide) less') second'
  obtain ⟨size, product, _⟩ := round_below (Nat.mul_le_mul order order') product'
  have far : factor.scale shift = some size := by
    rw [scale_near factor (Nat.le_trans less' near)]
    exact Option.bind_eq_some_iff.mpr ⟨power, second, product⟩
  exact Option.isSome_iff_exists.mpr
    ⟨size, Option.bind_eq_some_iff.mpr ⟨factor, first, far⟩⟩

theorem scaled_far {word shift : Nat} (positive : 0 < word) (far : largestPower < shift) :
    scaled word shift = none := by
  rw [scaled, Option.bind_eq_none_iff]
  intro size held
  refine scale_far ?_ far
  rintro rfl
  obtain ⟨one, first, order⟩ := round_below positive held
  have nothing : one = zero := congrArg Binary64.mk (Nat.le_zero.mp order)
  have something : round 1 1 ≠ some zero := by decide +kernel
  exact something (nothing ▸ first)

end MqttFailure.Decimal.Binary64
