import MqttFailure.Proofs.Json.OnePassScalars
import MqttFailure.Proofs.Json.Values
set_option autoImplicit false

namespace MqttFailure.Json

namespace Reader

variable {α β σ : Type} {s : Scanner}

theorem head_behind_one_pass (steady : Steady s) (c : Char) :
    OnePass .settled (headBehind s c) := by
  have word (w : List Char) (shape : Shape) : OnePass .settled (word w shape) :=
    bind_one_pass (literal_one_pass _ _ w) fun _ => pure_one_pass shape
  unfold headBehind
  split
  · exact word _ _
  · exact word _ _
  · exact word _ _
  · exact bind_one_pass (string_body_one_pass steady) fun t => pure_one_pass _
  · exact pure_one_pass _
  · exact pure_one_pass _
  · exact fail_one_pass _

def headFront (s : Scanner) : Reader Shape := fun cs =>
  match cs with
  | [] => .error (.truncated .value)
  | c :: rest =>
    if startsNumeral c then (s.number >>= fun value => pure (.number value)) (c :: rest)
    else headBehind s c rest

theorem head_front (s : Scanner) : head s = skipBlanks >>= fun _ => headFront s := by
  funext cs
  rcases blank_front cs with blank | ⟨before, c, tail, blank, visible, rfl⟩
  · rw [head, skip_blanks_run, skip_blanks_run, drop_all_blank blank]
    rfl
  · rw [head_run s blank visible, skip_blanks_run, drop_blank_cons blank visible]
    rfl

theorem head_one_pass (steady : Steady s) : OnePass .settled (head s) := by
  rw [head_front]
  have number : Halts (s.number >>= fun value => pure (Shape.number value)) :=
    bind_halts steady.number fun value => pure_halts _
  refine blanks_one_pass ⟨?_, ?_⟩ rfl
  · intro cs rest shape ran
    cases cs with
    | nil => cases ran
    | cons c tail =>
        by_cases starts : startsNumeral c = true
        · rw [headFront, if_pos starts] at ran
          exact number.shrinks ran
        · rw [headFront, if_neg starts] at ran
          exact ((head_behind_one_pass steady c).shrinks ran).trans (List.suffix_cons c tail)
  · intro cs settled s'
    cases cs with
    | nil => exact .truncated .value _
    | cons c tail =>
        rw [List.cons_append]
        by_cases starts : startsNumeral c = true
        · rw [headFront, headFront, if_pos starts, if_pos starts]
          exact number.stands settled (List.cons_ne_nil c tail) s'
        · rw [headFront, headFront, if_neg starts, if_neg starts]
          have settled' := settled_suffix settled (List.suffix_cons c tail)
          exact (head_behind_one_pass steady c).stands settled' s'

theorem element_one_pass {inner : Reader Json} (one : OnePass .settled inner) (read : List Json) :
    OnePass .settled (element inner read) :=
  bind_one_pass one fun _ => pure_one_pass _

theorem member_one_pass (steady : Steady s) {inner : Reader Json} (one : OnePass .settled inner)
    (read : List (String × Json)) : OnePass .settled (member s inner read) := by
  refine bind_one_pass (key_one_pass steady) fun name => ?_
  refine bind_one_pass colon_one_pass fun _ => ?_
  exact bind_one_pass one fun _ => pure_one_pass _

theorem value_over_one_pass (steady : Steady s) {inner : Option (Reader Json)}
    (inside : ∀ reader ∈ inner, OnePass .settled reader) :
    OnePass .settled (valueOver s inner) := by
  refine bind_one_pass (head_one_pass steady) fun shape => ?_
  cases shape with
  | null => exact pure_one_pass _
  | bool value => exact pure_one_pass _
  | number value => exact pure_one_pass _
  | text value => exact pure_one_pass _
  | array =>
      cases inner with
      | none => exact fail_one_pass _
      | some reader =>
          have elements : OnePass .settled (items s.careful ']' (element reader) []) :=
            items_one_pass _ _ (element_one_pass (inside reader rfl)) []
          exact bind_one_pass elements fun es => pure_one_pass _
  | object =>
      cases inner with
      | none => exact fail_one_pass _
      | some reader =>
          have members : OnePass .settled (items s.careful '}' (member s reader) []) :=
            items_one_pass _ _ (member_one_pass steady (inside reader rfl)) []
          exact bind_one_pass members fun ms => pure_one_pass _

theorem value_hungry (s : Scanner) (depth : Nat) :
    value s depth [] = .error (.truncated .value) := by
  obtain ⟨inner, same⟩ := value_over s depth
  rw [same]
  rfl

theorem value_one_pass (steady : Steady s) (depth : Nat) : OnePass .settled (value s depth) := by
  induction depth with
  | zero => exact value_over_one_pass steady (by simp)
  | succ depth ih =>
      refine value_over_one_pass steady fun reader found => ?_
      cases found
      exact ih

def Alike (n : Nat) (reader reader' : Reader α) : Prop :=
  ∀ cs, cs.length ≤ n → reader cs = reader' cs

theorem bind_alike {n : Nat} {first first' : Reader α} {after after' : α → Reader β}
    (alike : Alike n first first') (one : OnePass .settled first)
    (others : ∀ a, Alike n (after a) (after' a)) :
    Alike n (first >>= after) (first' >>= after') := by
  intro cs short
  cases read : first cs with
  | error e => rw [bind_run_error read, bind_run_error ((alike cs short).symm.trans read)]
  | ok result =>
      obtain ⟨a, mid⟩ := result
      rw [bind_run_ok read, bind_run_ok ((alike cs short).symm.trans read)]
      exact others a mid (Nat.le_trans (one.shrinks read).length_le short)

theorem alike_self {n : Nat} (reader : Reader α) : Alike n reader reader := fun _ _ => rfl

theorem loop_alike {n : Nat} {round round' : σ → Reader (Step σ β)}
    (alike : ∀ state, Alike n (round state) (round' state)) (state : σ) :
    Alike n (iterate round state) (iterate round' state) := by
  intro cs short
  have same := alike state cs short
  show loop round state cs = loop round' state cs
  cases went : round state cs with
  | error e => rw [loop_error went, loop_error (same.symm.trans went)]
  | ok result =>
      obtain ⟨step, rest⟩ := result
      cases step with
      | done b => rw [loop_done went, loop_done (same.symm.trans went)]
      | more state' =>
          by_cases shorter : rest.length < cs.length
          · rw [loop_more went shorter, loop_more (same.symm.trans went) shorter]
            exact loop_alike alike state' rest (by omega)
          · rw [loop, loop, ← same, went]
            simp only [if_neg shorter]
termination_by cs => cs.length

theorem items_alike {n : Nat} {item item' : σ → Reader σ}
    (alike : ∀ state, Alike n (item state) (item' state))
    (ones : ∀ state, OnePass .settled (item state))
    (careful : Bool) (close : Char) (state : σ) :
    Alike n (items careful close item state) (items careful close item' state) := by
  intro cs short
  have runs : Alike n (run careful close item state) (run careful close item' state) :=
    loop_alike (fun state => bind_alike (alike state) (ones state) fun after => alike_self _) state
  cases looked : closes close cs with
  | error e => rw [items, items, bind_run_error looked, bind_run_error looked]
  | ok result =>
      obtain ⟨closed, mid⟩ := result
      obtain ⟨before, _, rfl⟩ := closes_ok looked
      rw [items, items, bind_run_ok looked, bind_run_ok looked]
      cases closed with
      | true => rfl
      | false =>
          simp only [List.length_append, Bool.false_eq_true, if_false] at short
          exact runs mid (by omega)

theorem element_alike {n : Nat} {inner inner' : Reader Json} (alike : Alike n inner inner')
    (one : OnePass .settled inner) (read : List Json) :
    Alike n (element inner read) (element inner' read) :=
  bind_alike alike one fun _ => alike_self _

theorem member_alike (steady : Steady s) {n : Nat} {inner inner' : Reader Json}
    (alike : Alike n inner inner') (one : OnePass .settled inner) (read : List (String × Json)) :
    Alike n (member s inner read) (member s inner' read) := by
  refine bind_alike (alike_self _) (key_one_pass steady) fun name => ?_
  refine bind_alike (alike_self _) colon_one_pass fun _ => ?_
  exact bind_alike alike one fun _ => alike_self _

theorem head_container {sense : Sense} (obeys : s.Obeys sense) {cs rest : List Char} {shape : Shape}
    (ran : head s cs = .ok (shape, rest)) (container : shape.json? = none) :
    rest.length < cs.length := by
  obtain ⟨before, _, ⟨v, w, _, _, scalar, known⟩ | ⟨_, rfl⟩ | ⟨_, rfl⟩⟩ := head_backward obeys ran
  · rcases Source.scalar_shape sense scalar with ⟨none, _⟩ | ⟨shape', j, known', value, _⟩
    · cases none.symm.trans known
    · cases known'.symm.trans known
      cases container.symm.trans value
  · simp only [List.length_append, List.length_cons]
    omega
  · simp only [List.length_append, List.length_cons]
    omega

-- A text has no room for more brackets than it has characters.
theorem value_alike {n m : Nat} (deeper : n ≤ m) :
    Alike n (value .loose n) (value .loose m) := by
  induction n generalizing m with
  | zero =>
      intro cs none
      obtain rfl := List.eq_nil_of_length_eq_zero (Nat.le_zero.mp none)
      rw [value_hungry, value_hungry]
  | succ n ih =>
      intro cs short
      obtain ⟨m, rfl⟩ : ∃ m', m = m' + 1 := ⟨m - 1, by omega⟩
      have inner : Alike n (value .loose n) (value .loose m) := ih (by omega)
      have one := value_one_pass loose_steady n
      rw [value, value]
      cases read : head .loose cs with
      | error e => rw [valueOver, valueOver, bind_run_error read, bind_run_error read]
      | ok result =>
          obtain ⟨shape, rest⟩ := result
          cases shape with
          | null => rw [value_over_scalar rfl read, value_over_scalar rfl read]
          | bool value => rw [value_over_scalar rfl read, value_over_scalar rfl read]
          | number value => rw [value_over_scalar rfl read, value_over_scalar rfl read]
          | text value => rw [value_over_scalar rfl read, value_over_scalar rfl read]
          | array =>
              have shorter := head_container loose_obeys read rfl
              have same := items_alike (element_alike inner one) (element_one_pass one)
                false ']' [] rest (by omega)
              rw [value_over_array read, value_over_array read, bind_run, bind_run]
              exact congrArg (· >>= _) same
          | object =>
              have shorter := head_container loose_obeys read rfl
              have same := items_alike (member_alike loose_steady inner one)
                (member_one_pass loose_steady one) false '}' [] rest (by omega)
              rw [value_over_object read, value_over_object read, bind_run, bind_run]
              exact congrArg (· >>= _) same

theorem skip_one_pass : OnePass .settled skip where
  shrinks := by
    intro cs rest u ran
    unfold skip at ran
    split at ran
    · cases ran
    · rename_i read
      cases ran
      exact (value_one_pass loose_steady _).shrinks read
  stands := by
    intro cs settled s
    have deep : value .loose cs.length cs = value .loose (cs ++ s).length cs :=
      value_alike (by simp) cs (Nat.le_refl _)
    have stands := (value_one_pass loose_steady (cs ++ s).length).stands settled s
    rw [skip, skip, deep]
    cases read : value .loose (cs ++ s).length cs with
    | error e =>
        rw [read] at stands
        refine stands.carry ?_
        intro e' ran
        rw [ran]
    | ok result =>
        rw [read] at stands
        rw [stands.of_ok]
        exact .ok () result.2

end Reader

end MqttFailure.Json
