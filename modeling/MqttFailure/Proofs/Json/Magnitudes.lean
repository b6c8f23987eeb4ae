import MqttFailure.Proofs.Decimal.Rounding
import MqttFailure.Proofs.Json.Integers
set_option autoImplicit false

namespace MqttFailure.Json.Numeral

open Decimal (Binary64)
open Nat (ofDigitChars)

-- The least magnitude of an integer literal that has no size. It lies below the
-- greatest finite binary64 number, because word and power are rounded apart.
def ceiling : Nat := 17976931348623156225 * 10 ^ 289

def size (parts : Numeral) : Nat := ofDigitChars 10 parts.whole 0

theorem size_eq (parts : Numeral) : parts.size = parts.int.natAbs := by
  cases sign : parts.negative with
  | false => rw [int_plain sign, Int.natAbs_natCast, size]
  | true => rw [int_minus sign, Int.natAbs_neg, Int.natAbs_natCast, size]

theorem digit_small {c : Char} (digit : c.isDigit = true) : c.toNat - '0'.toNat ≤ 9 := by
  have high : c.toNat ≤ '9'.toNat := (Char.isDigit_iff_toNat.mp digit).2
  have nine : '9'.toNat = '0'.toNat + 9 := rfl
  omega

theorem digits_below {ds : List Char} (digits : ∀ c ∈ ds, c.isDigit = true) :
    ofDigitChars 10 ds 0 < 10 ^ ds.length := by
  induction ds with
  | nil => decide
  | cons c rest ih =>
      obtain ⟨digit, digits'⟩ := List.forall_mem_cons.mp digits
      have first := Nat.mul_le_mul_left (10 ^ rest.length) (digit_small digit)
      have others := ih digits'
      rw [Nat.ofDigitChars_cons, Nat.ofDigitChars_eq_ofDigitChars_zero, List.length_cons,
        Nat.pow_succ, Nat.mul_zero, Nat.zero_add]
      omega

structure Parted (number word : Nat) (rest : List Char) : Prop where
  value : number = 10 ^ rest.length * word + ofDigitChars 10 rest 0
  behind : ofDigitChars 10 rest 0 < 10 ^ rest.length
  fits : word ≤ wordMax
  full : rest ≠ [] → wordMax < 10 * word + 10

theorem absorb_parted {ds : List Char} {word : Nat} (digits : ∀ c ∈ ds, c.isDigit = true)
    (fits : word ≤ wordMax) :
    Parted (ofDigitChars 10 ds word) (absorb word ds).1 (absorb word ds).2 := by
  induction ds generalizing word with
  | nil => exact ⟨by simp [absorb], by simp [absorb], fits, fun left => absurd rfl left⟩
  | cons c rest ih =>
      obtain ⟨digit, digits'⟩ := List.forall_mem_cons.mp digits
      rw [absorb]
      by_cases taken : 10 * word + (c.toNat - '0'.toNat) ≤ wordMax
      · rw [if_pos taken, Nat.ofDigitChars_cons]
        exact ih digits' taken
      · rw [if_neg taken]
        have small := digit_small digit
        exact ⟨Nat.ofDigitChars_eq_ofDigitChars_zero, digits_below digits, fits,
          fun _ => by omega⟩

namespace Parted

variable {number word : Nat} {rest : List Char} (parted : Parted number word rest)

include parted

theorem low : 10 ^ rest.length * word ≤ number := by
  have value := parted.value
  omega

theorem high : number < 10 ^ rest.length * (word + 1) := by
  have value := parted.value
  have behind := parted.behind
  rw [Nat.mul_add, Nat.mul_one]
  omega

theorem held_under {word' shift : Nat} (few : rest.length ≤ shift) (small : word ≤ word')
    (near : shift ≤ Binary64.largestPower) (held : (Binary64.scaled word' shift).isSome = true)
    (bound : 10 ^ shift * (word' + 1) ≤ ceiling) :
    (Binary64.scaled word rest.length).isSome = true ∧ number < ceiling := by
  have power : 10 ^ rest.length ≤ 10 ^ shift := Nat.pow_le_pow_right (by decide) few
  refine ⟨Binary64.scaled_below small few near held, ?_⟩
  calc number < 10 ^ rest.length * (word + 1) := parted.high
    _ ≤ 10 ^ shift * (word' + 1) := Nat.mul_le_mul power (Nat.succ_le_succ small)
    _ ≤ ceiling := bound

theorem lost_over {word' shift : Nat} (many : shift ≤ rest.length) (large : word' ≤ word)
    (positive : 0 < word') (lost : (Binary64.scaled word' shift).isSome = false)
    (bound : ceiling ≤ 10 ^ shift * word') :
    (Binary64.scaled word rest.length).isSome = false ∧ ceiling ≤ number := by
  have power : 10 ^ shift ≤ 10 ^ rest.length := Nat.pow_le_pow_right (by decide) many
  constructor
  · by_cases near : rest.length ≤ Binary64.largestPower
    · cases held : (Binary64.scaled word rest.length).isSome with
      | false => rfl
      | true =>
          rw [Binary64.scaled_below large many near held] at lost
          cases lost
    · rw [Binary64.scaled_far (by omega) (Nat.lt_of_not_le near)]
      rfl
  · calc ceiling ≤ 10 ^ shift * word' := bound
      _ ≤ 10 ^ rest.length * word := Nat.mul_le_mul power large
      _ ≤ number := parted.low

-- How many digits are left over decides, save with 289 of them, where the word does.
theorem held_iff :
    (Binary64.scaled word rest.length).isSome = true ↔ number < ceiling := by
  have inside (both : (Binary64.scaled word rest.length).isSome = true ∧ number < ceiling) :
      (Binary64.scaled word rest.length).isSome = true ↔ number < ceiling :=
    iff_of_true both.1 both.2
  have outside (both : (Binary64.scaled word rest.length).isSome = false ∧ ceiling ≤ number) :
      (Binary64.scaled word rest.length).isSome = true ↔ number < ceiling :=
    iff_of_false (by simp [both.1]) (Nat.not_lt.mpr both.2)
  rcases Nat.lt_trichotomy rest.length 289 with few | close | many
  · exact inside (parted.held_under (Nat.le_of_lt_succ few) parted.fits (by decide)
      (by decide +kernel) (by decide +kernel))
  · by_cases large : 17976931348623156225 ≤ word
    · exact outside (parted.lost_over (Nat.le_of_eq close.symm) large (by decide)
        (by decide +kernel) (by decide +kernel))
    · exact inside (parted.held_under (Nat.le_of_eq close)
        (Nat.le_of_lt_succ (Nat.lt_of_not_le large)) (by decide) (by decide +kernel)
        (by decide +kernel))
  · have left : rest ≠ [] := by
      rintro rfl
      exact absurd many (by decide)
    have wide : 1844674407370955161 ≤ word := by
      have full := parted.full left
      unfold wordMax at full
      omega
    exact outside (parted.lost_over many wide (by decide) (by decide +kernel) (by decide +kernel))

end Parted

theorem real_scaled (negative : Bool) (word shift : Nat) :
    real? negative word shift = (Binary64.scaled word shift).map (.real negative) := by
  rw [real?, Binary64.scaled]
  cases Binary64.ofNat word with
  | none => rfl
  | some size => cases scaled : size.scale shift <;> simp [scaled]

theorem literal_eq (negative : Bool) (ds : List Char) :
    number? ⟨negative, ds, [], none⟩ =
      if (absorb 0 ds).2.isEmpty && !negative then some (.integer (absorb 0 ds).1)
      else if (absorb 0 ds).2.isEmpty && 0 < (absorb 0 ds).1 &&
          (absorb 0 ds).1 ≤ 0x8000000000000000 then
        some (.integer (-(absorb 0 ds).1))
      else real? negative (absorb 0 ds).1 (absorb 0 ds).2.length := rfl

theorem number_scaled {parts : Numeral} (whole : parts.isWhole = true)
    (other : ∀ n, parts.number? ≠ some (.integer n)) :
    parts.number? =
      (Binary64.scaled (absorb 0 parts.whole).1 (absorb 0 parts.whole).2.length).map
        (.real parts.negative) := by
  obtain ⟨negative, ds, fraction, exponent⟩ := parts
  simp only [isWhole, Bool.and_eq_true, List.isEmpty_iff, Option.isNone_iff_eq_none] at whole
  obtain ⟨rfl, rfl⟩ := whole
  rw [literal_eq] at other ⊢
  split at other
  · exact absurd rfl (other _)
  · split at other
    · exact absurd rfl (other _)
    · rename_i unsigned signed
      rw [if_neg unsigned, if_neg signed, real_scaled]

variable {parts : Numeral}

def MinusZero (parts : Numeral) : Prop := parts.negative = true ∧ parts.int = 0

theorem number_word (whole : parts.isWhole = true) (plain : ¬ parts.MinusZero)
    (word : Word parts.int) : parts.number? = some (.integer parts.int) :=
  number_integer.mpr ⟨⟨whole, rfl, fun sign zero => plain ⟨sign, zero⟩⟩, word⟩

theorem number_no_word (other : parts.MinusZero ∨ ¬ Word parts.int) (n : Int) :
    parts.number? ≠ some (.integer n) := by
  intro known
  obtain ⟨counts, word⟩ := number_integer.mp known
  rw [← counts.value] at word
  rcases other with ⟨sign, zero⟩ | beyond
  · exact counts.zero sign (counts.value.symm.trans zero)
  · exact beyond word

theorem number_minus_zero (whole : parts.isWhole = true) (minus : parts.MinusZero) :
    parts.number? = some (.real true .zero) := by
  have nothing : ofDigitChars 10 parts.whole 0 = 0 := by
    have size := size_eq parts
    rwa [minus.2] at size
  have absorbed := absorb_all (Nat.le_trans (Nat.le_of_eq nothing) (Nat.zero_le wordMax))
  rw [nothing] at absorbed
  have computed : Binary64.scaled 0 0 = some .zero := by decide +kernel
  rw [number_scaled whole (number_no_word (.inl minus)), absorbed, minus.1]
  exact congrArg (Option.map _) computed

-- A literal of no 64-bit integer is a real number below the ceiling, and no number from there on.
theorem number_beyond (whole : parts.isWhole = true) (digits : Digits parts.whole)
    (beyond : ¬ Word parts.int) :
    (parts.int.natAbs < ceiling → ∃ size, parts.number? = some (.real parts.negative size)) ∧
      (ceiling ≤ parts.int.natAbs → parts.number? = none) := by
  have parted := absorb_parted digits.2 (Nat.zero_le wordMax)
  have held := parted.held_iff
  rw [number_scaled whole (number_no_word (.inr beyond)), ← size_eq, size]
  constructor
  · intro below
    obtain ⟨computed, same⟩ := Option.isSome_iff_exists.mp (held.mpr below)
    exact ⟨computed, by rw [same]; rfl⟩
  · intro above
    have lost := fun some => Nat.not_le.mpr (held.mp some) above
    rw [Option.map_eq_none_iff]
    exact Option.not_isSome_iff_eq_none.mp lost

theorem written_digits {literal : List Char} (written : parts.Written literal) :
    Digits parts.whole := by
  cases written with
  | mk _ digits _ _ _ => exact digits

theorem ceiling_no_word (above : ceiling ≤ parts.int.natAbs) : ¬ Word parts.int := by
  have large : 0x10000000000000000 ≤ ceiling := by decide +kernel
  unfold Word
  omega

end MqttFailure.Json.Numeral
