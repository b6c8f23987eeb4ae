import MqttFailure.Proofs.Json.Brackets
import MqttFailure.Proofs.Json.Spelling
set_option autoImplicit false

namespace MqttFailure.Json

open Reader

def Sense.readText (sense : Sense) (pieces : List Piece) : Except ReadError String :=
  orMalformed (surrogateFault pieces) (sense.text pieces)

def Sense.readNumber (sense : Sense) (parts : Numeral) : Except ReadError Number :=
  orMalformed .numberOutOfRange (sense.number parts)

structure Scanner.Obeys (s : Scanner) (sense : Sense) : Prop where
  string_forward : ∀ {pieces : List Piece} {body : List Char}, Spelled pieces body →
    ∀ rest, stringBody s.escape (body ++ '"' :: rest) =
      (sense.readText pieces).map (·, rest)
  string_backward : ∀ {cs rest : List Char} {t : String},
    stringBody s.escape cs = .ok (t, rest) →
      ∃ pieces body, cs = body ++ '"' :: rest ∧ Spelled pieces body ∧ sense.text pieces = some t
  number_forward : ∀ {parts : Numeral} {w rest : List Char}, parts.Written w → Stops rest →
    s.number (w ++ rest) = (sense.readNumber parts).map (·, rest)
  number_backward : ∀ {cs rest : List Char} {value : Number}, s.number cs = .ok (value, rest) →
    ∃ parts w, cs = w ++ rest ∧ Numeral.Written parts w ∧ sense.number parts = some value

theorem finished_text (rest : List Char) (fault : SyntaxFault) (chars : Option (List Char)) :
    finished [] rest fault chars = (orMalformed fault (chars.map String.ofList)).map (·, rest) := by
  cases chars <;> rfl

theorem exact_obeys : Scanner.exact.Obeys .exact where
  string_forward spelled rest := by
    rw [string_body_run]
    exact (string_loop_exact spelled [] rest).trans (finished_text rest _ _)
  string_backward ran := by
    obtain ⟨pieces, body, chars, same, spelled, known, rfl⟩ :=
      string_loop_ok rfl (fun _ _ => rfl) exact_escapes ran
    exact ⟨pieces, body, same, spelled, by simp [Sense.text, Sense.exact, known]⟩
  number_forward := exact_number_run
  number_backward := exact_number_ok

theorem loose_obeys : Scanner.loose.Obeys .loose where
  string_forward spelled rest := by
    rw [string_body_run]
    exact (string_loop_loose spelled _ [] rest).trans (finished_text rest _ _)
  string_backward ran := by
    obtain ⟨pieces, body, chars, same, spelled, known, rfl⟩ :=
      string_loop_ok rfl (fun _ _ => rfl) loose_escapes ran
    exact ⟨pieces, body, same, spelled, by simp [Sense.text, known]⟩
  number_forward := loose_number_run
  number_backward ran := by
    obtain ⟨parts, w, same, written, rfl⟩ := loose_number_ok ran
    exact ⟨parts, w, same, written, rfl⟩

def Source.shape? (sense : Sense) : Source → Option Shape
  | .null => some .null
  | .bool value => some (.bool value)
  | .numeral parts => (sense.number parts).map .number
  | .text pieces => (sense.text pieces).map .text
  | .array _ => some .array
  | .object _ => some .object

def Source.shown (sense : Sense) : Source → Except ReadError Shape
  | .null => .ok .null
  | .bool value => .ok (.bool value)
  | .numeral parts => (sense.readNumber parts).map .number
  | .text pieces => (sense.readText pieces).map .text
  | .array _ => .ok .array
  | .object _ => .ok .object

theorem Source.shown_eq (sense : Sense) (v : Source) :
    ∃ fault, v.shown sense = orMalformed fault (v.shape? sense) := by
  cases v with
  | numeral parts =>
      refine ⟨.numberOutOfRange, ?_⟩
      rw [shown, shape?, Sense.readNumber]
      cases sense.number parts <;> rfl
  | text pieces =>
      refine ⟨surrogateFault pieces, ?_⟩
      rw [shown, shape?, Sense.readText]
      cases sense.text pieces <;> rfl
  | null => exact ⟨.expectedValue, rfl⟩
  | bool value => exact ⟨.expectedValue, rfl⟩
  | array elements => exact ⟨.expectedValue, rfl⟩
  | object members => exact ⟨.expectedValue, rfl⟩

theorem numeral_front {parts : Numeral} {w : List Char} (written : parts.Written w) :
    ∃ c cs, w = c :: cs ∧ startsNumeral c = true := by
  cases written with
  | @mk minus whole fraction exponent w w' known digits zero _ _ =>
      cases minus with
      | some c =>
          obtain rfl : c = '-' := by simpa using known c rfl
          exact ⟨'-', whole ++ (w ++ w'), rfl, rfl⟩
      | none =>
          obtain ⟨some, all⟩ := digits
          cases whole with
          | nil => exact (some rfl).elim
          | cons d ds =>
              exact ⟨d, ds ++ (w ++ w'), rfl, by simp [startsNumeral, all d List.mem_cons_self]⟩

theorem starts_numeral_visible {c : Char} (starts : startsNumeral c = true) :
    isBlank c = false ∧ c ≠ ']' ∧ c ≠ '}' := by
  refine ⟨?_, ?_, ?_⟩
  · cases blank : isBlank c with
    | false => rfl
    | true =>
        simp only [isBlank, Bool.or_eq_true, decide_eq_true_eq] at blank
        rcases blank with ((rfl | rfl) | rfl) | rfl <;> cases starts
  · rintro rfl
    cases starts
  · rintro rfl
    cases starts

theorem written_fronted : Fronted Source.Written := by
  intro v w written
  cases written with
  | null => exact ⟨'n', _, rfl, rfl, by decide, by decide⟩
  | true => exact ⟨'t', _, rfl, rfl, by decide, by decide⟩
  | false => exact ⟨'f', _, rfl, rfl, by decide, by decide⟩
  | numeral written =>
      obtain ⟨c, cs, rfl, starts⟩ := numeral_front written
      exact ⟨c, cs, rfl, starts_numeral_visible starts⟩
  | text quoted =>
      cases quoted
      exact ⟨'"', _, rfl, rfl, by decide, by decide⟩
  | array _ => exact ⟨'[', _, rfl, rfl, by decide, by decide⟩
  | object _ => exact ⟨'{', _, rfl, rfl, by decide, by decide⟩

theorem keyed_fronted {α : Type} (written : α → List Char → Prop) : Fronted (Keyed written) := by
  intro m w keyed
  cases keyed with
  | mk quoted _ _ _ =>
      cases quoted
      exact ⟨'"', _, rfl, rfl, by decide, by decide⟩

namespace Reader

theorem word_run (w : List Char) (shape : Shape) (rest : List Char) :
    word w shape (w ++ rest) = .ok (shape, rest) :=
  bind_run_ok (literal_append .value .expectedIdent w rest)

def headBehind (s : Scanner) : Char → Reader Shape
  | 'n' => word ['u', 'l', 'l'] .null
  | 't' => word ['r', 'u', 'e'] (.bool true)
  | 'f' => word ['a', 'l', 's', 'e'] (.bool false)
  | '"' => do
    let value ← stringBody s.escape
    return .text value
  | '[' => return .array
  | '{' => return .object
  | _ => fail (.malformed .expectedValue)

theorem head_run (s : Scanner) {before : List Char} (blank : Blank before) {c : Char}
    (visible : isBlank c = false) (cs : List Char) :
    head s (before ++ c :: cs) =
      if startsNumeral c then (s.number >>= fun value => pure (Shape.number value)) (c :: cs)
      else headBehind s c cs := by
  rw [head, skip_blanks_run, drop_blank_cons blank visible, get_run]
  dsimp only
  rw [ite_run]
  by_cases starts : startsNumeral c = true
  · rw [if_pos starts, if_pos starts]
  · rw [if_neg starts, if_neg starts, set_run]
    rfl

theorem head_array (s : Scanner) {before : List Char} (blank : Blank before) (cs : List Char) :
    head s (before ++ '[' :: cs) = .ok (.array, cs) :=
  head_run s blank rfl cs

theorem head_object (s : Scanner) {before : List Char} (blank : Blank before) (cs : List Char) :
    head s (before ++ '{' :: cs) = .ok (.object, cs) :=
  head_run s blank rfl cs

variable {s : Scanner} {sense : Sense}

theorem head_forward (obeys : s.Obeys sense) {v : Source} (scalar : v.depth = 0)
    {before w rest : List Char} (blank : Blank before) (written : v.Written w)
    (stops : Stops rest) :
    head s (before ++ (w ++ rest)) = (v.shown sense).map (·, rest) := by
  cases written with
  | null =>
      rw [List.cons_append, head_run s blank rfl]
      exact word_run ['u', 'l', 'l'] .null rest
  | true =>
      rw [List.cons_append, head_run s blank rfl]
      exact word_run ['r', 'u', 'e'] (.bool true) rest
  | false =>
      rw [List.cons_append, head_run s blank rfl]
      exact word_run ['a', 'l', 's', 'e'] (.bool false) rest
  | @numeral parts w written =>
      have taken := obeys.number_forward written stops
      obtain ⟨c, cs, rfl, starts⟩ := numeral_front written
      rw [List.cons_append, head_run s blank (starts_numeral_visible starts).1, if_pos starts,
        bind_run]
      rw [List.cons_append] at taken
      rw [taken, Source.shown]
      cases sense.readNumber parts <;> rfl
  | @text pieces w quoted =>
      cases quoted with
      | mk spelled =>
          rw [List.cons_append, List.append_assoc, head_run s blank rfl, if_neg (by decide),
            headBehind, List.singleton_append, bind_run, obeys.string_forward spelled,
            Source.shown]
          cases sense.readText pieces <;> rfl
  | array _ => cases scalar
  | object _ => cases scalar

theorem word_ok {w cs rest : List Char} {shape found : Shape}
    (ran : word w shape cs = .ok (found, rest)) : cs = w ++ rest ∧ shape = found := by
  obtain ⟨_, _, taken, ended⟩ := bind_eq_ok.mp ran
  obtain ⟨same, rfl⟩ := pure_eq_ok.mp ended
  exact ⟨literal_eq_ok.mp taken, same⟩

theorem head_behind_ok (obeys : s.Obeys sense) {c : Char} {cs rest : List Char} {shape : Shape}
    (ran : headBehind s c cs = .ok (shape, rest)) :
    (∃ (v : Source) (w : List Char), c :: cs = w ++ rest ∧ v.Written w ∧ v.depth = 0 ∧
        v.shape? sense = some shape) ∨
      (shape = .array ∧ c = '[' ∧ cs = rest) ∨ (shape = .object ∧ c = '{' ∧ cs = rest) := by
  unfold headBehind at ran
  split at ran
  · obtain ⟨rfl, rfl⟩ := word_ok ran
    exact .inl ⟨.null, _, rfl, .null, rfl, rfl⟩
  · obtain ⟨rfl, rfl⟩ := word_ok ran
    exact .inl ⟨.bool true, _, rfl, .true, rfl, rfl⟩
  · obtain ⟨rfl, rfl⟩ := word_ok ran
    exact .inl ⟨.bool false, _, rfl, .false, rfl, rfl⟩
  · obtain ⟨t, _, read, ended⟩ := bind_eq_ok.mp ran
    obtain ⟨rfl, rfl⟩ := pure_eq_ok.mp ended
    obtain ⟨pieces, body, rfl, spelled, known⟩ := obeys.string_backward read
    refine .inl ⟨.text pieces, '"' :: (body ++ ['"']), by simp, .text (.mk spelled), rfl, ?_⟩
    rw [Source.shape?, known]
    rfl
  · obtain ⟨rfl, rfl⟩ := pure_eq_ok.mp ran
    exact .inr (.inl ⟨rfl, rfl, rfl⟩)
  · obtain ⟨rfl, rfl⟩ := pure_eq_ok.mp ran
    exact .inr (.inr ⟨rfl, rfl, rfl⟩)
  · exact absurd ran fail_ne_ok

-- What a head has read: a whole scalar, or one opening bracket.
theorem head_backward (obeys : s.Obeys sense) {cs rest : List Char} {shape : Shape}
    (ran : head s cs = .ok (shape, rest)) :
    ∃ before, Blank before ∧
      ((∃ (v : Source) (w : List Char), cs = before ++ (w ++ rest) ∧ v.Written w ∧
          v.depth = 0 ∧ v.shape? sense = some shape) ∨
        (shape = .array ∧ cs = before ++ '[' :: rest) ∨
        (shape = .object ∧ cs = before ++ '{' :: rest)) := by
  rcases blank_front cs with blank | ⟨before, c, tail, blank, visible, same⟩
  · rw [head, skip_blanks_run, drop_all_blank blank] at ran
    cases ran
  · refine ⟨before, blank, ?_⟩
    rw [same, head_run s blank visible] at ran
    by_cases starts : startsNumeral c = true
    · rw [if_pos starts] at ran
      obtain ⟨value, _, read, ended⟩ := bind_eq_ok.mp ran
      obtain ⟨rfl, rfl⟩ := pure_eq_ok.mp ended
      obtain ⟨parts, w, taken, written, known⟩ := obeys.number_backward read
      refine .inl ⟨.numeral parts, w, by rw [same, taken], .numeral written, rfl, ?_⟩
      rw [Source.shape?, known]
      rfl
    · rw [if_neg starts] at ran
      rcases head_behind_ok obeys ran with
        ⟨v, w, taken, facts⟩ | ⟨rfl, rfl, rfl⟩ | ⟨rfl, rfl, rfl⟩
      · exact .inl ⟨v, w, by rw [same, taken], facts⟩
      · exact .inr (.inl ⟨rfl, same⟩)
      · exact .inr (.inr ⟨rfl, same⟩)

end Reader

end MqttFailure.Json
