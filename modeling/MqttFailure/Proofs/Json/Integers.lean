import MqttFailure.Proofs.Json.Grammar
set_option autoImplicit false

namespace MqttFailure.Json.Numeral

open Nat (ofDigitChars)

def int (parts : Numeral) : Int :=
  let size : Int := ofDigitChars 10 parts.whole 0
  if parts.negative then -size else size

structure Counts (parts : Numeral) (n : Int) : Prop where
  whole : parts.isWhole = true
  value : parts.int = n
  zero : parts.negative = true → n ≠ 0

theorem digits_grow (ds : List Char) (word : Nat) : word ≤ ofDigitChars 10 ds word := by
  induction ds generalizing word with
  | nil => exact Nat.le_refl word
  | cons c rest ih =>
      rw [Nat.ofDigitChars_cons]
      have rest_grows := ih (10 * word + (c.toNat - '0'.toNat))
      omega

theorem absorb_all {ds : List Char} {word : Nat} (fits : ofDigitChars 10 ds word ≤ wordMax) :
    absorb word ds = (ofDigitChars 10 ds word, []) := by
  induction ds generalizing word with
  | nil => rfl
  | cons c rest ih =>
      rw [Nat.ofDigitChars_cons] at fits ⊢
      have first := Nat.le_trans (digits_grow rest _) fits
      rw [absorb]
      exact (if_pos first).trans (ih fits)

theorem absorb_some {ds : List Char} {word : Nat} (small : word ≤ wordMax)
    (beyond : wordMax < ofDigitChars 10 ds word) : (absorb word ds).2 ≠ [] := by
  induction ds generalizing word with
  | nil => exact absurd small (Nat.not_le.mpr beyond)
  | cons c rest ih =>
      rw [Nat.ofDigitChars_cons] at beyond
      rw [absorb]
      by_cases first : 10 * word + (c.toNat - '0'.toNat) ≤ wordMax
      · simpa only [first, if_true] using ih first beyond
      · simp only [first, if_false]
        exact List.cons_ne_nil c rest

theorem real_not_integer {negative : Bool} {word : Nat} {exponent n : Int} :
    real? negative word exponent ≠ some (.integer n) := by
  intro same
  unfold real? at same
  simp only [Option.bind_eq_bind, Option.bind_eq_some_iff, Option.pure_def] at same
  obtain ⟨size, _, size', _, ended⟩ := same
  cases ended

theorem number_eq (parts : Numeral) : ∃ word exponent, parts.number? =
    if parts.isWhole && (absorb 0 parts.whole).2.isEmpty && !parts.negative then
      some (.integer (absorb 0 parts.whole).1)
    else if parts.isWhole && (absorb 0 parts.whole).2.isEmpty && 0 < (absorb 0 parts.whole).1 &&
        (absorb 0 parts.whole).1 ≤ 0x8000000000000000 then
      some (.integer (-(absorb 0 parts.whole).1))
    else real? parts.negative word exponent := ⟨_, _, rfl⟩

variable {parts : Numeral} {n : Int}

theorem number_real (broken : parts.isWhole = false) : parts.number? ≠ some (.integer n) := by
  obtain ⟨word, exponent, same⟩ := number_eq parts
  rw [same, broken]
  exact real_not_integer

theorem number_large (beyond : wordMax < ofDigitChars 10 parts.whole 0) :
    parts.number? ≠ some (.integer n) := by
  obtain ⟨word, exponent, same⟩ := number_eq parts
  have left : (absorb 0 parts.whole).2.isEmpty = false := by
    simpa using absorb_some (Nat.zero_le wordMax) beyond
  rw [same, left, Bool.and_false, Bool.false_and, Bool.false_and, Bool.false_and]
  exact real_not_integer

theorem number_plain (whole : parts.isWhole = true) (sign : parts.negative = false)
    (fits : ofDigitChars 10 parts.whole 0 ≤ wordMax) :
    parts.number? = some (.integer (ofDigitChars 10 parts.whole 0 : Nat)) := by
  obtain ⟨word, exponent, same⟩ := number_eq parts
  rw [same, absorb_all fits, whole, sign]
  rfl

theorem number_minus (whole : parts.isWhole = true) (sign : parts.negative = true)
    (fits : ofDigitChars 10 parts.whole 0 ≤ wordMax) :
    parts.number? = some (.integer n) ↔
      (0 < ofDigitChars 10 parts.whole 0 ∧ ofDigitChars 10 parts.whole 0 ≤ 0x8000000000000000) ∧
        -(ofDigitChars 10 parts.whole 0 : Int) = n := by
  obtain ⟨word, exponent, same⟩ := number_eq parts
  rw [same, absorb_all fits, whole, sign]
  by_cases inside : 0 < ofDigitChars 10 parts.whole 0 ∧
      ofDigitChars 10 parts.whole 0 ≤ 0x8000000000000000
  · simp [inside]
  · have outside : (decide (0 < ofDigitChars 10 parts.whole 0) &&
        decide (ofDigitChars 10 parts.whole 0 ≤ 0x8000000000000000)) = false := by
      simpa using inside
    simp only [List.isEmpty_nil, Bool.not_true, Bool.and_false, Bool.and_self, Bool.true_and,
      outside, Bool.false_eq_true, if_false, inside, false_and, iff_false]
    exact real_not_integer

theorem int_plain (sign : parts.negative = false) :
    parts.int = (ofDigitChars 10 parts.whole 0 : Nat) := by
  simp [int, sign]

theorem int_minus (sign : parts.negative = true) :
    parts.int = -(ofDigitChars 10 parts.whole 0 : Int) := by
  simp [int, sign]

def Word (n : Int) : Prop := -0x8000000000000000 ≤ n ∧ n < 0x10000000000000000

theorem large_no_word (beyond : wordMax < ofDigitChars 10 parts.whole 0) : ¬ Word parts.int := by
  unfold Word
  unfold wordMax at beyond
  cases sign : parts.negative with
  | false =>
      rw [int_plain sign]
      omega
  | true =>
      rw [int_minus sign]
      omega

theorem number_integer : parts.number? = some (.integer n) ↔ parts.Counts n ∧ Word n := by
  cases whole : parts.isWhole with
  | false =>
      refine ⟨fun ran => absurd ran (number_real whole), fun known => ?_⟩
      have counts := known.1.whole
      rw [whole] at counts
      cases counts
  | true =>
      by_cases fits : ofDigitChars 10 parts.whole 0 ≤ wordMax
      · have bound : ofDigitChars 10 parts.whole 0 ≤ 0xffffffffffffffff := fits
        unfold Word
        cases sign : parts.negative with
        | false =>
            have value := int_plain sign
            have unsigned : parts.negative = true → n ≠ 0 := by simp [sign]
            rw [number_plain whole sign fits, Option.some.injEq, Number.integer.injEq]
            exact ⟨fun same => ⟨⟨whole, value.trans same, unsigned⟩, by omega, by omega⟩,
              fun known => value.symm.trans known.1.value⟩
        | true =>
            have value := int_minus sign
            rw [number_minus whole sign fits]
            constructor
            · intro known
              exact ⟨⟨whole, value.trans known.2, fun _ => by omega⟩, by omega, by omega⟩
            · intro known
              have same := value.symm.trans known.1.value
              have nonzero := known.1.zero sign
              exact ⟨by omega, same⟩
      · have beyond := Nat.lt_of_not_le fits
        refine ⟨fun ran => absurd ran (number_large beyond), fun known => ?_⟩
        rw [← known.1.value] at known
        exact absurd known.2 (large_no_word beyond)

end MqttFailure.Json.Numeral
