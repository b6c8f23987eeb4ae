import MqttFailure.Proofs.Json.Compact
import MqttFailure.Proofs.Json.OnePassScalars
import MqttFailure.Proofs.Json.Values
set_option autoImplicit false

namespace MqttFailure.Json

theorem prefix_split {p u v : List Char} (inside : p <+: u ++ v) (proper : p ≠ u ++ v) :
    (p <+: u ∧ p ≠ u) ∨ ∃ q, p = u ++ q ∧ q <+: v ∧ q ≠ v := by
  rcases List.prefix_or_prefix_of_prefix inside (List.prefix_append u v) with shorter | ⟨q, rfl⟩
  · by_cases same : p = u
    · subst same
      refine .inr ⟨[], by simp, List.nil_prefix, ?_⟩
      rintro rfl
      exact proper (List.append_nil p).symm
    · exact .inl ⟨shorter, same⟩
  · refine .inr ⟨q, rfl, (List.prefix_append_right_inj u).mp inside, ?_⟩
    intro same
    exact proper (by rw [same])

theorem prefix_cons {p v : List Char} {c : Char} (inside : p <+: c :: v) (proper : p ≠ c :: v) :
    p = [] ∨ ∃ q, p = c :: q ∧ q <+: v ∧ q ≠ v := by
  cases p with
  | nil => exact .inl rfl
  | cons d q =>
      obtain ⟨rfl, inside'⟩ := List.cons_prefix_cons.mp inside
      refine .inr ⟨q, rfl, inside', ?_⟩
      intro same
      exact proper (by rw [same])

namespace Numeral

open Nat (ofDigitChars toDigits)

theorem digits_positive {ds : List Char} (digits : Digits ds) (front : ds.head? ≠ some '0') :
    0 < ofDigitChars 10 ds 0 := by
  obtain ⟨filled, all⟩ := digits
  cases ds with
  | nil => exact (filled rfl).elim
  | cons d ds =>
      have digit := all d List.mem_cons_self
      have other : d ≠ '0' := by simpa using front
      have least : '0'.toNat < d.toNat := by
        have low : '0'.toNat ≤ d.toNat := (Char.isDigit_iff_toNat.mp digit).1
        have different : '0'.toNat ≠ d.toNat := fun same => other (Char.toNat_inj.mp same.symm)
        omega
      have grows := digits_grow ds (10 * 0 + (d.toNat - '0'.toNat))
      rw [Nat.ofDigitChars_cons]
      omega

theorem digits_prefix {n : Nat} {ds : List Char} (inside : ds <+: toDigits 10 n) (filled : ds ≠ [])
    (proper : ds ≠ toDigits 10 n) :
    Digits ds ∧ ds.head? ≠ some '0' ∧ ofDigitChars 10 ds 0 ≤ n := by
  obtain ⟨s, same⟩ := inside
  have whole := to_digits_digits n
  rw [← same] at whole
  refine ⟨⟨filled, fun c found => whole.2 c (List.mem_append_left s found)⟩, ?_, ?_⟩
  · intro zero
    have front : (toDigits 10 n).head? = some '0' := by
      rw [← same, List.head?_append, zero]
      rfl
    have short := to_digits_canonical n front
    have size := List.length_pos_iff.mpr filled
    rw [← same, List.length_append] at short
    have ended : s = [] := List.eq_nil_of_length_eq_zero (by omega)
    exact proper (by rw [← same, ended, List.append_nil])
  · have value : ofDigitChars 10 (ds ++ s) 0 = n := by rw [same, Nat.ofDigitChars_ten_toDigits]
    rw [Nat.ofDigitChars_append] at value
    have grows := digits_grow s (ofDigitChars 10 ds 0)
    omega

end Numeral

namespace Reader

variable {α β σ : Type}

def TooShort {β : Type} (ended : Except ReadError β) : Prop :=
  ∃ place, ended = .error (.truncated place)

theorem TooShort.bind {first : Reader α} {cs : List Char} (short : TooShort (first cs))
    (after : α → Reader β) : TooShort ((first >>= after) cs) := by
  obtain ⟨place, ran⟩ := short
  exact ⟨place, bind_run_error ran⟩

theorem TooShort.loop {round : σ → Reader (Step σ β)} {state : σ} {cs : List Char}
    (short : TooShort (round state cs)) : TooShort (loop round state cs) := by
  obtain ⟨place, ran⟩ := short
  exact ⟨place, loop_error ran⟩

def Takes (reader : Reader α) (w : List Char) (a : α) : Prop :=
  ∀ rest, Stops rest → reader (w ++ rest) = .ok (a, rest)

def Needs (reader : Reader α) (w : List Char) : Prop :=
  ∀ p, p <+: w → p ≠ w → TooShort (reader p)

def Hungry (reader : Reader α) (w : List Char) : Prop :=
  ∀ p, p <+: w → p ≠ w → TooShort (reader p) ∨ ∃ a, reader p = .ok (a, [])

theorem Needs.hungry {reader : Reader α} {w : List Char} (needs : Needs reader w) :
    Hungry reader w :=
  fun p inside proper => .inl (needs p inside proper)

-- Had the reader answered before the end of the text, it would give the same
-- answer for the whole text.
theorem one_pass_needs {reader : Reader α} (one : OnePass .all reader) {w : List Char} {a : α}
    (ran : reader w = .ok (a, [])) : Needs reader w := by
  intro p inside proper
  obtain ⟨s, rfl⟩ := inside
  have stands : Stands s (reader p) (reader (p ++ s)) := one.stands trivial s
  rw [ran] at stands
  cases early : reader p with
  | error e =>
      rw [early] at stands
      cases stands
      exact ⟨_, rfl⟩
  | ok result =>
      rw [early] at stands
      have whole := stands.of_ok
      cases s with
      | nil => exact absurd (List.append_nil p).symm proper
      | cons c s => simp at whole

theorem bind_needs {first : Reader α} {after : α → Reader β} {w : List Char}
    (needs : Needs first w) : Needs (first >>= after) w :=
  fun p inside proper => (needs p inside proper).bind after

theorem string_body_needs (s : String) :
    Needs (stringBody exactEscape) (s.toList.flatMap escapedChar ++ ['"']) := by
  obtain ⟨pieces, spelled, known⟩ := escaped_chars s.toList
  have ran := exact_obeys.string_forward spelled []
  have text : Sense.exact.text pieces = some s := by simp [Sense.text, Sense.exact, known]
  rw [read_text_eq_ok.mpr text] at ran
  exact one_pass_needs (string_body_one_pass exact_steady) ran

theorem key_takes (name : String) : Takes (key .exact) (string name) name := by
  obtain ⟨pieces, quoted, known⟩ := string_quoted name
  intro rest stops
  exact (key_reads exact_obeys).forward_ok blank_nil quoted stops (read_text_eq_ok.mpr known)

theorem key_needs (name : String) : Needs (key .exact) (string name) := by
  have ran := key_takes name [] stops_nil
  rw [List.append_nil] at ran
  exact one_pass_needs (key_one_pass exact_steady) ran

theorem head_text_needs (s : String) : Needs (head .exact) (string s) := by
  intro p inside proper
  rcases prefix_cons inside proper with rfl | ⟨q, rfl, inside', proper'⟩
  · exact ⟨.value, rfl⟩
  · have ran := head_run .exact blank_nil (c := '"') rfl q
    rw [List.nil_append, if_neg (by decide)] at ran
    rw [ran]
    exact (string_body_needs s q inside' proper').bind _

theorem head_counts {parts : Numeral} {w : List Char} {n : Int} (written : parts.Written w)
    (counts : parts.Counts n) (word : Numeral.Word n) :
    head .exact w = .ok (.number (.integer n), []) := by
  have known : Sense.exact.number parts = some (.integer n) :=
    Numeral.number_integer.mpr ⟨counts, word⟩
  have ran := head_forward exact_obeys rfl blank_nil (.numeral written) stops_nil
  rw [Source.shown, Sense.readNumber, known, List.nil_append, List.append_nil] at ran
  exact ran

theorem head_integer_cut {n : Int} (word : Numeral.Word n) {p : List Char}
    (inside : p <+: (toString n).toList) (proper : p ≠ (toString n).toList) :
    TooShort (head .exact p) ∨
      ∃ m, head .exact p = .ok (.number (.integer m), []) ∧ min 0 n ≤ m ∧ m ≤ max 0 n := by
  unfold Numeral.Word at word
  rw [Int.toString_eq_repr, Int.repr_eq_if] at inside proper
  by_cases positive : 0 ≤ n
  · rw [if_pos positive, Nat.toList_repr] at inside proper
    by_cases none : p = []
    · subst none
      exact .inl ⟨.value, rfl⟩
    · obtain ⟨digits, front, bound⟩ := Numeral.digits_prefix inside none proper
      have ran := head_counts (Numeral.plain_written digits fun zero => absurd zero front)
        (Numeral.plain_counts p) (by unfold Numeral.Word; omega)
      exact .inr ⟨_, ran, by omega, by omega⟩
  · rw [if_neg positive, String.toList_append, Nat.toList_repr] at inside proper
    rcases prefix_cons inside proper with rfl | ⟨q, rfl, inside', proper'⟩
    · exact .inl ⟨.value, rfl⟩
    · by_cases none : q = []
      · subst none
        exact .inl ⟨.value, rfl⟩
      · obtain ⟨digits, front, bound⟩ := Numeral.digits_prefix inside' none proper'
        have positive' := Numeral.digits_positive digits front
        have ran := head_counts (Numeral.minus_written digits fun zero => absurd zero front)
          (Numeral.minus_counts positive') (by unfold Numeral.Word; omega)
        exact .inr ⟨_, ran, by omega, by omega⟩

end Reader

end MqttFailure.Json
