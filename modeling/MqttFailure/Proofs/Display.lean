import MqttFailure.ClientFailure
set_option autoImplicit false

namespace MqttFailure

theorem parted_at_last {α : Type} {a a' b b' : List α} {c : α} (absent : c ∉ b) (absent' : c ∉ b')
    (same : a ++ c :: b = a' ++ c :: b') : a = a' ∧ b = b' := by
  rcases List.append_eq_append_iff.mp same with ⟨between, rfl, behind⟩ | ⟨between, rfl, behind⟩
  · cases between with
    | nil => exact ⟨(List.append_nil a).symm, (List.cons.inj behind).2⟩
    | cons first rest =>
        obtain ⟨_, rfl⟩ := List.cons.inj behind
        exact absurd (List.mem_append_right rest List.mem_cons_self) absent
  · cases between with
    | nil => exact ⟨List.append_nil a', (List.cons.inj behind).2.symm⟩
    | cons first rest =>
        obtain ⟨_, rfl⟩ := List.cons.inj behind
        exact absurd (List.mem_append_right rest List.mem_cons_self) absent'

theorem digits_only (n : Nat) {c : Char} (other : c.isDigit = false) : c ∉ n.repr.toList := by
  rw [Nat.toList_repr]
  intro found
  have digit := Nat.isDigit_of_mem_toDigits (by decide) (by decide) found
  rw [other] at digit
  cases digit

theorem code_no_blank (c : Int32) : ' ' ∉ (toString c).toList := by
  change ' ' ∉ c.toInt.repr.toList
  cases c.toInt with
  | ofNat n => exact digits_only n rfl
  | negSucc n =>
      change ' ' ∉ ("-" ++ n.succ.repr).toList
      rw [String.toList_append, List.mem_append]
      rintro (found | found)
      · exact absurd found (by decide)
      · exact digits_only n.succ rfl found

theorem size_shown_once {m n : Nat} (same : m.repr = n.repr) : m = n := by
  have digits : Nat.toDigits 10 m = Nat.toDigits 10 n := by
    rw [← Nat.toList_repr, same, Nat.toList_repr]
  calc
    m = Nat.ofDigitChars 10 (Nat.toDigits 10 m) 0 :=
      (Nat.ofDigitChars_toDigits (by decide) (by decide)).symm
    _ = Nat.ofDigitChars 10 (Nat.toDigits 10 n) 0 := by rw [digits]
    _ = n := Nat.ofDigitChars_toDigits (by decide) (by decide)

theorem number_shown_once {n n' : Int} (same : n.repr = n'.repr) : n = n' := by
  have signed {m k : Nat} (mixed : m.repr = "-" ++ k.repr) : False := by
    refine digits_only m (c := '-') rfl ?_
    rw [mixed, String.toList_append]
    exact List.mem_append_left _ (by decide)
  cases n with
  | ofNat m =>
      cases n' with
      | ofNat m' => exact congrArg Int.ofNat (size_shown_once same)
      | negSucc m' => exact (signed same).elim
  | negSucc m =>
      cases n' with
      | ofNat m' => exact (signed same.symm).elim
      | negSucc m' =>
          have sizes := (String.append_right_inj "-").mp same
          exact congrArg Int.negSucc (Nat.succ.inj (size_shown_once sizes))

theorem code_shown_once {c c' : Int32} (same : toString c = toString c') : c = c' :=
  Int32.toInt_inj.mp (number_shown_once same)

theorem Status.text_injective : Function.Injective Status.text := by
  intro s s' same
  have unclosed := congrArg String.toList ((String.append_left_inj ")").mp same)
  have parted : (s.message ++ " (code").toList ++ ' ' :: (toString s.code).toList =
      (s'.message ++ " (code").toList ++ ' ' :: (toString s'.code).toList := by
    simpa using unclosed
  obtain ⟨front, behind⟩ := parted_at_last (code_no_blank s.code) (code_no_blank s'.code) parted
  have messages := (String.append_left_inj " (code").mp (String.toList_injective front)
  have codes := code_shown_once (String.toList_injective behind)
  exact congr (congrArg Status.mk messages) codes

namespace ClientFailure

def shown (e : ClientFailure) : Status := ⟨lead e.kind ++ e.message, e.code⟩

theorem text_shown (e : ClientFailure) : e.text = e.shown.text := by
  simp [text, shown, Status.text, message, code, String.append_assoc]

theorem text_eq_iff {e e' : ClientFailure} :
    e.text = e'.text ↔
      e.code = e'.code ∧ lead e.kind ++ e.message = lead e'.kind ++ e'.message := by
  rw [text_shown, text_shown, Status.text_injective.eq_iff, shown, shown, Status.mk.injEq]
  exact and_comm

theorem lead_apart {k k' : Kind} (inside : (lead k).toList <+: (lead k').toList) :
    k = .other ∨ k = k' := by
  cases k <;> cases k' <;> revert inside <;> decide

theorem same_lead {k k' : Kind} {s s' : String} (same : lead k ++ s = lead k' ++ s')
    (led : k ≠ .other) (led' : k' ≠ .other) : k = k' := by
  have chars := congrArg String.toList same
  simp only [String.toList_append] at chars
  have inside : (lead k).toList <+: (lead k').toList ++ s'.toList := ⟨_, chars⟩
  rcases List.prefix_or_prefix_of_prefix inside (List.prefix_append _ _) with first | second
  · exact (lead_apart first).resolve_left led
  · exact ((lead_apart second).resolve_left led').symm

theorem eq_of_text {e e' : ClientFailure} (kinds : e.kind = e'.kind) (same : e.text = e'.text) :
    e = e' := by
  obtain ⟨codes, fronts⟩ := text_eq_iff.mp same
  rw [kinds] at fronts
  have messages := (String.append_right_inj _).mp fronts
  have statuses : e.status = e'.status := by
    change Status.mk e.message e.code = Status.mk e'.message e'.code
    rw [messages, codes]
  rw [← of_kind_kind_status e, ← of_kind_kind_status e', kinds, statuses]

theorem other_text_iff (s : Status) (e : ClientFailure) :
    (other s).text = e.text ↔ s.code = e.code ∧ s.message = lead e.kind ++ e.message := by
  have bare : lead (other s).kind ++ (other s).message = s.message := String.empty_append
  rw [text_eq_iff, bare]
  rfl

/-- Two client failures have the same text exactly when they have the same code and the same lead
and message together. -/
theorem text_determines :
    (∀ e e' : ClientFailure, e.text = e'.text ↔
      e.code = e'.code ∧ lead e.kind ++ e.message = lead e'.kind ++ e'.message) ∧
    (∀ e e' : ClientFailure, e.text = e'.text → e.code = e'.code) ∧
    (∀ e e' : ClientFailure, e.kind = e'.kind → e.text = e'.text → e = e') ∧
    (∀ e e' : ClientFailure, e.kind ≠ e'.kind → e.kind ≠ .other → e'.kind ≠ .other →
      e.text ≠ e'.text) ∧
    (∀ (s : Status) (e : ClientFailure), e.kind ≠ .other →
      ((other s).text = e.text ↔ s.code = e.code ∧ s.message = lead e.kind ++ e.message)) ∧
    Function.Injective ProtocolFailure.text ∧ Function.Injective ControlFailure.text := by
  refine ⟨fun _ _ => text_eq_iff, fun _ _ same => (text_eq_iff.mp same).1,
    fun _ _ => eq_of_text, ?_, fun s e _ => other_text_iff s e, ?_, ?_⟩
  · intro e e' apart led led' same
    exact apart (same_lead (text_eq_iff.mp same).2 led led')
  · intro e e' same
    exact congrArg ProtocolFailure.mk (Status.text_injective same)
  · intro e e' same
    exact congrArg ControlFailure.mk (Status.text_injective same)

theorem ambiguous_line :
    (other ⟨"transport error: timed out", -1⟩).text = (transport ⟨"timed out", -1⟩).text ∧
      (control ⟨⟨"timed out", -1⟩⟩).text ≠ (transport ⟨"timed out", -1⟩).text := by
  obtain ⟨_, _, _, apart, mistaken, _⟩ := text_determines
  exact ⟨(mistaken _ _ (by decide)).mpr ⟨rfl, rfl⟩,
    apart _ _ (by decide) (by decide) (by decide)⟩

end ClientFailure

end MqttFailure
