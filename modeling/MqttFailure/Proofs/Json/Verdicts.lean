import MqttFailure.Proofs.Json.OnePassValues
import MqttFailure.Proofs.Json.Texts
set_option autoImplicit false

namespace MqttFailure.Json

open Json.Reader

variable {α β : Type}

theorem judged_one_pass (judgement : Shape → Except Mismatch α) :
    OnePass .settled (do
      let shape ← head .exact
      judge (judgement shape)) :=
  bind_one_pass (head_one_pass exact_steady) fun shape => judge_one_pass (judgement shape)

theorem by_shape_one_pass {array object : Reader α} (arrays : OnePass .settled array)
    (objects : OnePass .settled object) (form : String) :
    OnePass .settled (Reader.byShape array object form) := by
  refine bind_one_pass (head_one_pass exact_steady) fun shape => ?_
  cases shape with
  | array => exact arrays
  | object => exact objects
  | null => exact fail_one_pass _
  | bool value => exact fail_one_pass _
  | number value => exact fail_one_pass _
  | text value => exact fail_one_pass _

inductive Source.Closed : Source → Prop where
  | text (pieces : List Piece) : Closed (.text pieces)
  | array (elements : List Source) : Closed (.array elements)
  | object (members : List (List Piece × Source)) : Closed (.object members)

theorem by_shape_closed {elements : List Source → Except ReadError β}
    {members : List (List Piece × Source) → Except ReadError β} {form : String} {v : Source}
    {b : β} (good : v.byShape elements members form = .ok b) : v.Closed := by
  by_cases scalar : v.depth = 0
  · rw [Source.by_shape_scalar elements members form scalar] at good
    obtain ⟨shape, _, judged⟩ := except_bind_eq_ok.mp good
    cases judged
  · cases v with
    | array elements => exact .array elements
    | object members => exact .object members
    | null => exact absurd rfl scalar
    | bool value => exact absurd rfl scalar
    | numeral parts => exact absurd rfl scalar
    | text pieces => exact .text pieces

theorem blank_not_numeral {c : Char} (blank : isBlank c = true) : ofNumerals c = false := by
  simp only [isBlank, Bool.or_eq_true, decide_eq_true_eq] at blank
  rcases blank with ((rfl | rfl) | rfl) | rfl
  · decide
  · decide
  · decide
  · decide

theorem settled_blank (cs : List Char) {c : Char} (other : ofNumerals c = false)
    {after : List Char} (blank : Blank after) : Settled (cs ++ c :: after) := by
  intro d last
  have last' : (c :: after).getLast? = some d := by
    rw [List.getLast?_append, List.getLast?_eq_some_getLast (List.cons_ne_nil c after)] at last
    rw [List.getLast?_eq_some_getLast (List.cons_ne_nil c after)]
    exact last
  rcases List.mem_cons.mp (List.mem_of_getLast? last') with rfl | found
  · exact other
  · exact blank_not_numeral (blank d found)

theorem closed_settled {v : Source} {cs : List Char} (closed : v.Closed) (fills : v.Fills cs) :
    Settled cs := by
  cases fills with
  | @mk before w after _ written blank =>
      have last : ∃ w' c, w = w' ++ [c] ∧ ofNumerals c = false := by
        cases closed with
        | text pieces =>
            cases written with
            | text quoted =>
                cases quoted with
                | @mk body _ => exact ⟨'"' :: body, '"', rfl, by decide⟩
        | array elements =>
            cases written with
            | @array _ w _ => exact ⟨'[' :: w, ']', rfl, by decide⟩
        | object members =>
            cases written with
            | @object _ w _ => exact ⟨'{' :: w, '}', rfl, by decide⟩
      obtain ⟨w', c, rfl, other⟩ := last
      have same : before ++ (w' ++ [c] ++ after) = (before ++ w') ++ c :: after := by simp
      rw [same]
      exact settled_blank _ other blank

-- Behind an accepted text only blanks are let pass. A text that was refused before its end is
-- refused with anything behind it, unless a numeral at its end could go on.
structure Final (decode : String → Except ReadError α) : Prop where
  accepted : ∀ {t : String} {a : α}, decode t = .ok a → ∀ s : String,
    decode (t ++ s) =
      if s.toList.all isBlank then .ok a else .error (.malformed .trailingCharacters)
  unfit : ∀ {t : String} {reason : Mismatch}, decode t = .error (.mismatch reason) →
    Settled t.toList → ∀ s : String, decode (t ++ s) = .error (.mismatch reason)
  malformed : ∀ {t : String} {fault : SyntaxFault}, decode t = .error (.malformed fault) →
    Settled t.toList → ∀ s : String, ∃ later, decode (t ++ s) = .error (.malformed later)

theorem read_all_rest {reader : Reader α} {t : String} {a : α} {rest : List Char}
    (ran : reader t.toList = .ok (a, rest)) :
    readAll reader t =
      if rest.all isBlank then .ok a else .error (.malformed .trailingCharacters) := by
  rw [readAll, ran]

theorem read_all_error {reader : Reader α} {t : String} {e : ReadError}
    (ran : reader t.toList = .error e) : readAll reader t = .error e := by
  rw [readAll, ran]

theorem read_all_append {reader : Reader α} (one : OnePass .settled reader) {t : String}
    (settled : Settled t.toList) {a : α} {rest : List Char}
    (ran : reader t.toList = .ok (a, rest)) (s : String) :
    readAll reader (t ++ s) =
      if rest.all isBlank && s.toList.all isBlank then .ok a
      else .error (.malformed .trailingCharacters) := by
  have ran' := one.stands_ok settled ran s.toList
  rw [← String.toList_append] at ran'
  rw [read_all_rest ran', List.all_append]

theorem read_all_refused {reader : Reader α} (one : OnePass .settled reader) {t : String}
    {e : ReadError} (bad : readAll reader t = .error e) (settled : Settled t.toList) (s : String) :
    Stands s.toList (.error e : Except ReadError (α × List Char))
      ((readAll reader (t ++ s)).map (·, [])) := by
  cases ran : reader t.toList with
  | error e' =>
      rw [read_all_error ran] at bad
      cases bad
      have stands := one.stands_error settled ran s.toList
      rw [← String.toList_append] at stands
      refine stands.carry fun e' ran' => ?_
      rw [read_all_error ran']
      rfl
  | ok result =>
      obtain ⟨a, rest⟩ := result
      rw [read_all_append one settled ran]
      rw [read_all_rest ran] at bad
      cases blank : rest.all isBlank with
      | true =>
          rw [blank, if_pos rfl] at bad
          cases bad
      | false =>
          rw [blank] at bad
          cases bad
          exact .malformed _ _

theorem read_all_final {reader : Reader α} {outcome : Source → Except ReadError α}
    (one : OnePass .settled reader) (reads : Reads reader Source.Written outcome)
    (closed : ∀ {v a}, outcome v = .ok a → v.Closed) : Final (readAll reader) where
  accepted := by
    intro t a good s
    obtain ⟨v, fills, known⟩ := (read_all_eq_ok reads).mp good
    have settled := closed_settled (closed known) fills
    cases ran : reader t.toList with
    | error e =>
        rw [read_all_error ran] at good
        cases good
    | ok result =>
        obtain ⟨a', rest⟩ := result
        rw [read_all_append one settled ran]
        rw [read_all_rest ran] at good
        cases blank : rest.all isBlank with
        | true =>
            rw [blank, if_pos rfl] at good
            cases good
            rw [Bool.true_and]
        | false =>
            rw [blank] at good
            cases good
  unfit := by
    intro t reason bad settled s
    have stands := read_all_refused one bad settled s
    cases after : readAll reader (t ++ s) with
    | ok a =>
        rw [after] at stands
        cases stands
    | error e =>
        rw [after] at stands
        cases stands
        rfl
  malformed := by
    intro t fault bad settled s
    have stands := read_all_refused one bad settled s
    cases after : readAll reader (t ++ s) with
    | ok a =>
        rw [after] at stands
        cases stands
    | error e =>
        rw [after] at stands
        cases stands
        exact ⟨_, rfl⟩

end MqttFailure.Json
