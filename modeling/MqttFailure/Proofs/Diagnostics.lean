import MqttFailure.Proofs.Display
import MqttFailure.Text.Hexadecimal
set_option autoImplicit false

namespace MqttFailure

namespace Text

def hexNumber (digits : List Char) : Nat :=
  digits.foldl (fun n c => 16 * n + (hexValue? c).getD 0) 0

theorem hex_value_digit {n : Nat} (small : n < 16) : hexValue? (Nat.digitChar n) = some n := by
  revert n
  decide

theorem hex_number_digits (n : Nat) : hexNumber (Nat.toDigits 16 n) = n := by
  induction n using Nat.strongRecOn with
  | _ n ih =>
      by_cases small : n < 16
      · rw [Nat.toDigits_of_lt_base small]
        simp [hexNumber, hex_value_digit small]
      · have front : hexNumber (Nat.toDigits 16 (n / 16)) = n / 16 := ih _ (by omega)
        have last := hex_value_digit (n.mod_lt (by decide : 0 < 16))
        rw [Nat.toDigits_of_base_le (by decide) (Nat.le_of_not_lt small), hexNumber,
          List.foldl_append, ← hexNumber, front, List.foldl_cons, List.foldl_nil, last,
          Option.getD_some]
        exact Nat.div_add_mod n 16

theorem hex_no_brace (n : Nat) : '}' ∉ Nat.toDigits 16 n := by
  induction n using Nat.strongRecOn with
  | _ n ih =>
      by_cases small : n < 16
      · rw [Nat.toDigits_of_lt_base small, List.mem_singleton]
        exact (Nat.digitChar_ne '}' rfl).symm
      · rw [Nat.toDigits_of_base_le (by decide) (Nat.le_of_not_lt small), List.mem_append,
          List.mem_singleton]
        rintro (front | last)
        · exact ih (n / 16) (by omega) front
        · exact Nat.digitChar_ne '}' rfl last.symm

def meantBy (letter : Char) : Char :=
  if letter = 'n' then '\n'
  else if letter = 'r' then '\r'
  else if letter = 't' then '\t'
  else if letter = '0' then '\x00'
  else letter

def readEscape? : List Char → Option (Char × List Char)
  | [] => none
  | letter :: rest =>
    if letter = 'u' then
      some (Char.ofNat (hexNumber (rest.tail.takeWhile (· ≠ '}'))),
        (rest.tail.dropWhile (· ≠ '}')).tail)
    else some (meantBy letter, rest)

def readQuotedChar? : List Char → Option (Char × List Char)
  | [] => none
  | c :: rest =>
    if c = '"' then none else if c = '\\' then readEscape? rest else some (c, rest)

theorem read_code_point (c : Char) (rest : List Char) :
    readQuotedChar? (codePoint c ++ rest) = some (c, rest) := by
  have digits : ∀ d ∈ Nat.toDigits 16 c.toNat, decide (d ≠ '}') = true := by
    intro d found
    refine decide_eq_true ?_
    rintro rfl
    exact hex_no_brace c.toNat found
  have front : (Nat.toDigits 16 c.toNat ++ '}' :: rest).takeWhile (· ≠ '}') =
      Nat.toDigits 16 c.toNat := by
    rw [List.takeWhile_append_of_pos digits]
    simp
  have behind : (Nat.toDigits 16 c.toNat ++ '}' :: rest).dropWhile (· ≠ '}') = '}' :: rest := by
    rw [List.dropWhile_append_of_pos digits]
    simp
  have opened : codePoint c ++ rest =
      '\\' :: 'u' :: '{' :: (Nat.toDigits 16 c.toNat ++ '}' :: rest) := by simp [codePoint]
  rw [opened, readQuotedChar?, if_neg (by decide), if_pos rfl, readEscape?, if_pos rfl,
    List.tail_cons, front, behind, List.tail_cons, hex_number_digits, Char.ofNat_toNat]

theorem read_quoted_char (hidden : Char → Bool) (c : Char) (rest : List Char) :
    readQuotedChar? (quotedCharBy hidden c ++ rest) = some (c, rest) := by
  by_cases quote : c = '"'
  · subst quote
    rfl
  by_cases backslash : c = '\\'
  · subst backslash
    rfl
  by_cases lineFeed : c = '\n'
  · subst lineFeed
    rfl
  by_cases carriageReturn : c = '\r'
  · subst carriageReturn
    rfl
  by_cases tab : c = '\t'
  · subst tab
    rfl
  by_cases null : c = '\x00'
  · subst null
    rfl
  rw [quotedCharBy, if_neg quote, if_neg backslash, if_neg lineFeed, if_neg carriageReturn,
    if_neg tab, if_neg null]
  cases hidden c with
  | true => exact read_code_point c rest
  | false => simp [readQuotedChar?, quote, backslash]

-- Two texts between quotes are told apart before what stands behind them: at the first character
-- that differs, or where one of them ends.
theorem quoted_chars_once (hidden : Char → Bool) {cs cs' rest rest' : List Char}
    (same : cs.flatMap (quotedCharBy hidden) ++ '"' :: rest =
      cs'.flatMap (quotedCharBy hidden) ++ '"' :: rest') : cs = cs' ∧ rest = rest' := by
  induction cs generalizing cs' with
  | nil =>
      cases cs' with
      | nil => exact ⟨rfl, (List.cons.inj same).2⟩
      | cons c' cs' =>
          have read := congrArg readQuotedChar? same
          rw [List.flatMap_cons, List.append_assoc, read_quoted_char] at read
          cases read
  | cons c cs ih =>
      have read := congrArg readQuotedChar? same
      rw [List.flatMap_cons, List.append_assoc, read_quoted_char] at read
      cases cs' with
      | nil => cases read
      | cons c' cs' =>
          rw [List.flatMap_cons, List.append_assoc, read_quoted_char, Option.some_inj,
            Prod.mk.injEq] at read
          obtain ⟨rfl, behind⟩ := read
          obtain ⟨rfl, rests⟩ := ih behind
          exact ⟨rfl, rests⟩

theorem quoted_once (hidden : Char → Bool) {s s' rest rest' : String}
    (same : quotedBy hidden s ++ rest = quotedBy hidden s' ++ rest') : s = s' ∧ rest = rest' := by
  have chars : s.toList.flatMap (quotedCharBy hidden) ++ '"' :: rest.toList =
      s'.toList.flatMap (quotedCharBy hidden) ++ '"' :: rest'.toList := by
    simpa [quotedBy] using congrArg String.toList same
  obtain ⟨messages, rests⟩ := quoted_chars_once hidden chars
  exact ⟨String.toList_injective messages, String.toList_injective rests⟩

end Text

theorem Status.debug_injective (hidden : Char → Bool) (title : String) :
    Function.Injective (Status.debugBy hidden title) := by
  intro s s' same
  have parted : Text.quotedBy hidden s.message ++ (", code: " ++ toString s.code) =
      Text.quotedBy hidden s'.message ++ (", code: " ++ toString s'.code) := by
    have unclosed := (String.append_left_inj " \x7d").mp same
    simpa only [String.append_assoc, String.append_right_inj] using unclosed
  obtain ⟨messages, behind⟩ := Text.quoted_once hidden parted
  have codes := code_shown_once ((String.append_right_inj _).mp behind)
  exact congr (congrArg Status.mk messages) codes

theorem Status.debug_titled (hidden : Char → Bool) (title : String) (s : Status) :
    title.toList <+: (s.debugBy hidden title).toList := by
  simp only [debugBy, String.append_assoc, String.toList_append]
  exact List.prefix_append _ _

theorem Kind.title_apart {k k' : Kind} (inside : k.title.toList <+: k'.title.toList) : k = k' := by
  cases k <;> cases k' <;> revert inside <;> decide

namespace ClientFailure

variable (hidden : Char → Bool)

theorem debug_titled (e : ClientFailure) :
    e.kind.title.toList <+: (e.debugBy hidden).toList := by
  have opened (title opening inner : String) (before : title.toList <+: opening.toList) :
      title.toList <+: (opening ++ inner ++ ")").toList := by
    rw [String.append_assoc, String.toList_append]
    exact before.trans (List.prefix_append _ _)
  cases e with
  | protocol inner => exact opened "Protocol" "Protocol(" _ (by decide)
  | control inner => exact opened "Control" "Control(" _ (by decide)
  | transport s => exact s.debug_titled hidden "Transport"
  | configuration s => exact s.debug_titled hidden "Configuration"
  | other s => exact s.debug_titled hidden "Other"

theorem kind_of_debug {e e' : ClientFailure} (same : e.debugBy hidden = e'.debugBy hidden) :
    e.kind = e'.kind := by
  have titled := e.debug_titled hidden
  rw [same] at titled
  rcases List.prefix_or_prefix_of_prefix titled (e'.debug_titled hidden) with first | second
  · exact Kind.title_apart first
  · exact (Kind.title_apart second).symm

theorem status_of_debug (k : Kind) {s s' : Status}
    (same : (ofKind k s).debugBy hidden = (ofKind k s').debugBy hidden) : s = s' := by
  cases k with
  | protocol =>
      have inner := (String.append_right_inj "Protocol(").mp ((String.append_left_inj ")").mp same)
      exact Status.debug_injective hidden "ProtocolError" inner
  | control =>
      have inner := (String.append_right_inj "Control(").mp ((String.append_left_inj ")").mp same)
      exact Status.debug_injective hidden "ControlError" inner
  | transport => exact Status.debug_injective hidden "Transport" same
  | configuration => exact Status.debug_injective hidden "Configuration" same
  | other => exact Status.debug_injective hidden "Other" same

theorem eq_of_debug {e e' : ClientFailure} (same : e.debugBy hidden = e'.debugBy hidden) :
    e = e' := by
  have kinds := kind_of_debug hidden same
  rw [← of_kind_kind_status e, ← of_kind_kind_status e', kinds] at same ⊢
  rw [status_of_debug hidden e'.kind same]

end ClientFailure

/-- Two failures of one type have the same diagnostic form exactly when they are the same failure,
whichever characters are shown by their code point. -/
theorem debug_determines (hidden : Char → Bool) :
    (∀ e e' : ClientFailure, e.debugBy hidden = e'.debugBy hidden ↔ e = e') ∧
    (∀ e e' : ProtocolFailure, e.debugBy hidden = e'.debugBy hidden ↔ e = e') ∧
    ∀ e e' : ControlFailure, e.debugBy hidden = e'.debugBy hidden ↔ e = e' := by
  refine ⟨?_, ?_, ?_⟩
  · intro e e'
    exact ⟨ClientFailure.eq_of_debug hidden, congrArg (ClientFailure.debugBy hidden)⟩
  · intro e e'
    refine ⟨fun same => ?_, congrArg (ProtocolFailure.debugBy hidden)⟩
    exact congrArg ProtocolFailure.mk (Status.debug_injective hidden "ProtocolError" same)
  · intro e e'
    refine ⟨fun same => ?_, congrArg (ControlFailure.debugBy hidden)⟩
    exact congrArg ControlFailure.mk (Status.debug_injective hidden "ControlError" same)

example : (ClientFailure.other ⟨"m\", code: 1 \x7d", 1⟩).debug ≠
    (ClientFailure.other ⟨"m", 1⟩).debug := by decide

end MqttFailure
