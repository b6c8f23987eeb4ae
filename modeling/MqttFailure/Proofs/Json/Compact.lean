import MqttFailure.Json.Compact
import MqttFailure.Proofs.Json.Integers
import MqttFailure.Proofs.Json.Spelling
set_option autoImplicit false

namespace MqttFailure.Json

def Piece.StandsFor (piece : Piece) (c : Char) : Prop :=
  ∀ pieces, chars? (piece :: pieces) = (chars? pieces).map (c :: ·)

theorem char_stands_for (c : Char) : (Piece.char c).StandsFor c := fun _ => rfl

theorem hex_quad_control :
    ∀ n < 0x20, hexQuad? '0' '0' (hexDigit (n / 16)) (hexDigit (n % 16)) = some n := by
  decide

theorem unit_stands_for {c : Char} (control : c.toNat < 0x20) :
    (Piece.unit c.toNat).StandsFor c := by
  intro pieces
  have whole : ¬ isTrailing c.toNat = true := by
    simp only [isTrailing, Bool.and_eq_true, decide_eq_true_eq]
    omega
  have plain : ¬ isLeading c.toNat = true := by
    simp only [isLeading, Bool.and_eq_true, decide_eq_true_eq]
    omega
  rw [Reader.chars_unit whole plain, Char.ofNat_toNat]

theorem short_written {letter c : Char} (known : shortEscape? letter = some c) :
    ∃ piece : Piece, piece.Written ['\\', letter] ∧ piece.StandsFor c :=
  ⟨.char c, .short known, char_stands_for c⟩

theorem escaped_char (c : Char) :
    ∃ piece : Piece, piece.Written (escapedChar c) ∧ piece.StandsFor c := by
  unfold escapedChar
  by_cases quote : c = '"'
  · subst quote
    exact short_written rfl
  by_cases backslash : c = '\\'
  · subst backslash
    exact short_written rfl
  rw [if_neg quote, if_neg backslash]
  split
  · rename_i same
    exact short_written (same ▸ rfl)
  split
  · rename_i same
    exact short_written (same ▸ rfl)
  split
  · rename_i same
    exact short_written (same ▸ rfl)
  split
  · rename_i same
    exact short_written (same ▸ rfl)
  split
  · rename_i same
    exact short_written (same ▸ rfl)
  split
  · rename_i control
    exact ⟨.unit c.toNat, .quad (hex_quad_control _ control), unit_stands_for control⟩
  · rename_i printable
    exact ⟨.char c, .plain quote backslash (Nat.not_lt.mp printable), char_stands_for c⟩

theorem escaped_chars (cs : List Char) :
    ∃ pieces, Spelled pieces (cs.flatMap escapedChar) ∧ chars? pieces = some cs := by
  induction cs with
  | nil => exact ⟨[], .nil, rfl⟩
  | cons c rest ih =>
      obtain ⟨piece, written, stands⟩ := escaped_char c
      obtain ⟨pieces, spelled, known⟩ := ih
      exact ⟨piece :: pieces, .cons written spelled, by rw [stands, known]; rfl⟩

theorem string_quoted (s : String) :
    ∃ pieces, Quoted pieces (string s) ∧ Sense.exact.text pieces = some s := by
  obtain ⟨pieces, spelled, known⟩ := escaped_chars s.toList
  refine ⟨pieces, .mk spelled, ?_⟩
  simp [Sense.text, Sense.exact, known]

namespace Numeral

theorem to_digits_digits (n : Nat) : Digits (Nat.toDigits 10 n) :=
  ⟨Nat.toDigits_ne_nil, fun _ found => Nat.isDigit_of_mem_toDigits (by decide) (by decide) found⟩

theorem to_digits_head (n : Nat) (positive : 0 < n) :
    (Nat.toDigits 10 n).head? ≠ some '0' := by
  induction n using Nat.strongRecOn with
  | _ n ih =>
      by_cases small : n < 10
      · rw [Nat.toDigits_of_lt_base small]
        intro same
        have zero : n = 0 := Nat.digitChar_eq_zero.mp (Option.some.inj same)
        omega
      · have front := ih (n / 10) (by omega) (by omega)
        rw [Nat.toDigits_of_base_le (by decide) (Nat.le_of_not_lt small)]
        cases digits : Nat.toDigits 10 (n / 10) with
        | nil => exact absurd digits Nat.toDigits_ne_nil
        | cons d ds =>
            rw [digits] at front
            exact front

theorem to_digits_canonical (n : Nat) (zero : (Nat.toDigits 10 n).head? = some '0') :
    (Nat.toDigits 10 n).length ≤ 1 := by
  by_cases positive : 0 < n
  · exact absurd zero (to_digits_head n positive)
  · obtain rfl : n = 0 := by omega
    decide

section digits

variable {ds : List Char} (digits : Digits ds) (canonical : ds.head? = some '0' → ds.length ≤ 1)

include digits canonical

theorem plain_written : Written ⟨false, ds, [], none⟩ ds := by
  simpa using @Written.mk none ds _ _ _ _ nofun digits canonical .absent .absent

theorem minus_written : Written ⟨true, ds, [], none⟩ ('-' :: ds) := by
  simpa using @Written.mk (some '-') ds _ _ _ _ (by simp) digits canonical .absent .absent

end digits

theorem plain_counts (ds : List Char) :
    Counts ⟨false, ds, [], none⟩ (Nat.ofDigitChars 10 ds 0) := ⟨rfl, rfl, nofun⟩

theorem minus_counts {ds : List Char} (positive : 0 < Nat.ofDigitChars 10 ds 0) :
    Counts ⟨true, ds, [], none⟩ (-Nat.ofDigitChars 10 ds 0) :=
  ⟨rfl, rfl, fun _ => by omega⟩

theorem integer_written (n : Int) :
    ∃ parts : Numeral, parts.Written (toString n).toList ∧ parts.Counts n := by
  rw [Int.toString_eq_repr, Int.repr_eq_if]
  by_cases positive : 0 ≤ n
  · have counts := plain_counts (Nat.toDigits 10 n.toNat)
    rw [Nat.ofDigitChars_ten_toDigits, Int.toNat_of_nonneg positive] at counts
    refine ⟨_, ?_, counts⟩
    rw [if_pos positive, Nat.toList_repr]
    exact plain_written (to_digits_digits _) (to_digits_canonical _)
  · have below : 0 < (-n).toNat := by omega
    have counts := @minus_counts (Nat.toDigits 10 (-n).toNat)
    rw [Nat.ofDigitChars_ten_toDigits] at counts
    have same : -((-n).toNat : Int) = n := by omega
    refine ⟨_, ?_, same ▸ counts below⟩
    rw [if_neg positive, String.toList_append, Nat.toList_repr]
    exact minus_written (to_digits_digits _) (to_digits_canonical _)

end Numeral

-- The compact text of a value is written by the grammar and stands for that value.
def Faithful (depth : Nat) (j : Json) : Prop :=
  ∃ v : Source, v.Written (compactChars j) ∧ v.json? .exact = some j ∧ v.depth ≤ depth

theorem text_faithful (s : String) (depth : Nat) : Faithful depth (.text s) := by
  obtain ⟨pieces, quoted, known⟩ := string_quoted s
  exact ⟨.text pieces, .text quoted, by rw [Source.json?, known]; rfl, Nat.zero_le depth⟩

theorem integer_faithful {n : Int} (word : Numeral.Word n) (depth : Nat) :
    Faithful depth (.number (.integer n)) := by
  obtain ⟨parts, written, counts⟩ := Numeral.integer_written n
  have known : Sense.exact.number parts = some (.integer n) :=
    Numeral.number_integer.mpr ⟨counts, word⟩
  exact ⟨.numeral parts, .numeral written, by rw [Source.json?, known]; rfl, Nat.zero_le depth⟩

theorem elements_faithful {depth : Nat} {j : Json} {js : List Json}
    (each : ∀ j' ∈ j :: js, Faithful depth j') :
    ∃ vs, Separated Source.Written vs (compactElements (j :: js)) ∧
      Source.elements? .exact vs = some (j :: js) ∧ Source.elementsDepth vs ≤ depth := by
  obtain ⟨v, written, known, fits⟩ := each j List.mem_cons_self
  cases js with
  | nil =>
      refine ⟨[v], ?_, ?_, Nat.max_le.mpr ⟨fits, Nat.zero_le depth⟩⟩
      · simpa [compactElements] using Separated.last Reader.blank_nil written Reader.blank_nil
      · rw [Source.elements?, known]
        rfl
  | cons j' js =>
      obtain ⟨vs, separated, known', fits'⟩ :=
        elements_faithful fun other found => each other (List.mem_cons_of_mem j found)
      refine ⟨v :: vs, ?_, ?_, Nat.max_le.mpr ⟨fits, fits'⟩⟩
      · simpa [compactElements] using
          Separated.cons Reader.blank_nil written Reader.blank_nil separated
      · rw [Source.elements?, known, known']
        rfl

theorem member_faithful (key : String) {depth : Nat} {j : Json} (faithful : Faithful depth j) :
    ∃ pieces v, Keyed Source.Written (pieces, v) (string key ++ ':' :: compactChars j) ∧
      Sense.exact.text pieces = some key ∧ v.json? .exact = some j ∧ v.depth ≤ depth := by
  obtain ⟨v, written, known, fits⟩ := faithful
  obtain ⟨pieces, quoted, named⟩ := string_quoted key
  exact ⟨pieces, v, .mk quoted Reader.blank_nil Reader.blank_nil written, named, known, fits⟩

theorem members_faithful {depth : Nat} {m : String × Json} {ms : List (String × Json)}
    (each : ∀ m' ∈ m :: ms, Faithful depth m'.2) :
    ∃ vs, Separated (Keyed Source.Written) vs (compactMembers (m :: ms)) ∧
      Source.members? .exact vs = some (m :: ms) ∧ Source.membersDepth vs ≤ depth := by
  obtain ⟨key, j⟩ := m
  obtain ⟨pieces, v, keyed, named, known, fits⟩ := member_faithful key
    (each (key, j) List.mem_cons_self)
  cases ms with
  | nil =>
      refine ⟨[(pieces, v)], ?_, ?_, Nat.max_le.mpr ⟨fits, Nat.zero_le depth⟩⟩
      · simpa [compactMembers] using Separated.last Reader.blank_nil keyed Reader.blank_nil
      · rw [Source.members?, named, known]
        rfl
  | cons m' ms =>
      obtain ⟨vs, separated, known', fits'⟩ :=
        members_faithful fun other found => each other (List.mem_cons_of_mem (key, j) found)
      refine ⟨(pieces, v) :: vs, ?_, ?_, Nat.max_le.mpr ⟨fits, fits'⟩⟩
      · simpa [compactMembers] using
          Separated.cons Reader.blank_nil keyed Reader.blank_nil separated
      · rw [Source.members?, named, known, known']
        rfl

theorem array_faithful {depth : Nat} {js : List Json} (each : ∀ j ∈ js, Faithful depth j) :
    Faithful (depth + 1) (.array js) := by
  cases js with
  | nil =>
      exact ⟨.array [], .array (.empty Reader.blank_nil), rfl,
        Nat.succ_le_succ (Nat.zero_le depth)⟩
  | cons j js =>
      obtain ⟨vs, separated, known, fits⟩ := elements_faithful each
      exact ⟨.array vs, .array (.items separated), by rw [Source.json?, known]; rfl,
        Nat.succ_le_succ fits⟩

theorem object_faithful {depth : Nat} {ms : List (String × Json)}
    (each : ∀ m ∈ ms, Faithful depth m.2) : Faithful (depth + 1) (.object ms) := by
  cases ms with
  | nil =>
      exact ⟨.object [], .object (.empty Reader.blank_nil), rfl,
        Nat.succ_le_succ (Nat.zero_le depth)⟩
  | cons m ms =>
      obtain ⟨vs, separated, known, fits⟩ := members_faithful each
      exact ⟨.object vs, .object (.items separated), by rw [Source.json?, known]; rfl,
        Nat.succ_le_succ fits⟩

theorem written_fills {v : Source} {j : Json} (written : v.Written (compactChars j)) :
    v.Fills j.compact.toList := by
  have fills := Source.Fills.mk Reader.blank_nil written Reader.blank_nil
  simpa [compact] using fills

theorem Faithful.fills {depth : Nat} {j : Json} (faithful : Faithful depth j) :
    ∃ v : Source, v.Fills j.compact.toList ∧ v.json? .exact = some j ∧ v.depth ≤ depth := by
  obtain ⟨v, written, known, fits⟩ := faithful
  exact ⟨v, written_fills written, known, fits⟩

end MqttFailure.Json
