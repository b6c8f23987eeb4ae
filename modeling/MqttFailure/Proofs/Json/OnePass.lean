import MqttFailure.Proofs.Json.Brackets
import MqttFailure.Proofs.Json.Spelling
set_option autoImplicit false

namespace MqttFailure.Json

def ofNumerals (c : Char) : Bool :=
  c.isDigit || c = '+' || c = '-' || c = '.' || c = 'e' || c = 'E'

def Settled (cs : List Char) : Prop := ∀ c ∈ cs.getLast?, ofNumerals c = false

theorem settled_suffix {cs rest : List Char} (settled : Settled cs) (suffix : rest <:+ cs) :
    Settled rest := by
  obtain ⟨before, rfl⟩ := suffix
  intro c last
  have last' : (before ++ rest).getLast? = some c := by
    rw [List.getLast?_append, Option.mem_def.mp last]
    rfl
  exact settled c last'

structure Texts where
  holds : List Char → Prop
  suffix : ∀ {cs rest : List Char}, holds cs → rest <:+ cs → holds rest

def Texts.all : Texts := ⟨fun _ => True, fun _ _ => trivial⟩

def Texts.settled : Texts := ⟨Settled, settled_suffix⟩

theorem unsettled_all {cs : List Char} (some : cs ≠ []) (all : ∀ c ∈ cs, ofNumerals c = true) :
    ¬ Settled cs := by
  intro settled
  have last := settled (cs.getLast some) (List.getLast?_eq_some_getLast some)
  rw [all _ (List.getLast_mem some)] at last
  cases last

namespace Reader

variable {α β σ : Type}

-- What a reader answered before the end of a text stands when the text goes on by `s`. A
-- text that is not JSON stays so, but what is wrong with it may show only further on.
inductive Stands (s : List Char) :
    Except ReadError (α × List Char) → Except ReadError (α × List Char) → Prop where
  | ok (a : α) (rest : List Char) : Stands s (.ok (a, rest)) (.ok (a, rest ++ s))
  | truncated (place : Unfinished) (later : Except ReadError (α × List Char)) :
      Stands s (.error (.truncated place)) later
  | malformed (fault later : SyntaxFault) :
      Stands s (.error (.malformed fault)) (.error (.malformed later))
  | mismatch (reason : Mismatch) :
      Stands s (.error (.mismatch reason)) (.error (.mismatch reason))

theorem stands_error (s : List Char) (e : ReadError) :
    Stands s (.error e : Except ReadError (α × List Char)) (.error e) := by
  cases e with
  | truncated place => exact .truncated place _
  | malformed fault => exact .malformed fault fault
  | mismatch reason => exact .mismatch reason

theorem Stands.of_ok {s rest : List Char} {a : α} {later : Except ReadError (α × List Char)}
    (stands : Stands s (.ok (a, rest)) later) : later = .ok (a, rest ++ s) := by
  cases stands
  rfl

theorem Stands.carry {s : List Char} {e : ReadError} {later : Except ReadError (α × List Char)}
    (stands : Stands s (.error e) later) {later' : Except ReadError (β × List Char)}
    (carried : ∀ e', later = .error e' → later' = .error e') : Stands s (.error e) later' := by
  cases stands with
  | truncated place _ => exact .truncated place later'
  | malformed fault fault' =>
      rw [carried _ rfl]
      exact .malformed fault fault'
  | mismatch reason =>
      rw [carried _ rfl]
      exact .mismatch reason

structure OnePass (texts : Texts) (reader : Reader α) : Prop where
  shrinks : ∀ {cs rest : List Char} {a : α}, reader cs = .ok (a, rest) → rest <:+ cs
  stands : ∀ {cs : List Char}, texts.holds cs → ∀ s, Stands s (reader cs) (reader (cs ++ s))

variable {texts : Texts}

theorem OnePass.stands_ok {reader : Reader α} (one : OnePass texts reader) {cs rest : List Char}
    {a : α} (held : texts.holds cs) (ran : reader cs = .ok (a, rest)) (s : List Char) :
    reader (cs ++ s) = .ok (a, rest ++ s) :=
  (ran ▸ one.stands held s).of_ok

theorem OnePass.stands_error {reader : Reader α} (one : OnePass texts reader) {cs : List Char}
    {e : ReadError} (held : texts.holds cs) (ran : reader cs = .error e) (s : List Char) :
    Stands s (.error e) (reader (cs ++ s)) :=
  ran ▸ one.stands held s

theorem pure_one_pass (a : α) : OnePass texts (pure a : Reader α) where
  shrinks := by
    intro cs rest a ran
    obtain ⟨_, rfl⟩ := pure_eq_ok.mp ran
    exact List.suffix_refl cs
  stands {cs} _ _ := .ok a cs

theorem fail_one_pass (e : ReadError) : OnePass texts (fail e : Reader α) where
  shrinks ran := absurd ran fail_ne_ok
  stands _ s := Reader.stands_error s e

theorem judge_one_pass (judged : Except Mismatch α) : OnePass texts (judge judged) := by
  cases judged with
  | ok a => exact pure_one_pass a
  | error reason => exact fail_one_pass (.mismatch reason)

theorem next_one_pass (place : Unfinished) : OnePass texts (next place) where
  shrinks := by
    intro cs rest c ran
    rw [next_eq_ok.mp ran]
    exact List.suffix_cons c rest
  stands := by
    intro cs _ s
    cases cs with
    | nil => exact .truncated place _
    | cons c rest => exact .ok c rest

theorem bind_one_pass {first : Reader α} {after : α → Reader β} (one : OnePass texts first)
    (others : ∀ a, OnePass texts (after a)) : OnePass texts (first >>= after) where
  shrinks := by
    intro cs rest b ran
    obtain ⟨a, mid, read, behind⟩ := bind_eq_ok.mp ran
    exact ((others a).shrinks behind).trans (one.shrinks read)
  stands := by
    intro cs held s
    cases read : first cs with
    | error e =>
        rw [bind_run_error read]
        exact (one.stands_error held read s).carry fun e' ran => bind_run_error ran
    | ok result =>
        obtain ⟨a, mid⟩ := result
        rw [bind_run_ok read, bind_run_ok (one.stands_ok held read s)]
        exact (others a).stands (texts.suffix held (one.shrinks read)) s

theorem ite_one_pass {c : Prop} [Decidable c] {yes no : Reader α} (one : OnePass texts yes)
    (other : OnePass texts no) : OnePass texts (if c then yes else no) := by
  split
  · exact one
  · exact other

theorem literal_one_pass (place : Unfinished) (fault : SyntaxFault) (expected : List Char) :
    OnePass texts (literal place fault expected) := by
  induction expected with
  | nil => exact pure_one_pass ()
  | cons c rest ih =>
      exact bind_one_pass (next_one_pass place) fun d => ite_one_pass ih (fail_one_pass _)

theorem drop_blanks_append {cs : List Char} (some : cs.dropWhile isBlank ≠ []) (s : List Char) :
    (cs ++ s).dropWhile isBlank = cs.dropWhile isBlank ++ s := by
  rw [List.dropWhile_append, if_neg (by simpa using some)]

-- Blanks may go on where the text does, so a reader behind them must not be
-- content with nothing.
theorem blanks_one_pass {reader : Reader α} (one : OnePass texts reader) {place : Unfinished}
    (hungry : reader [] = .error (.truncated place)) :
    OnePass texts (skipBlanks >>= fun _ => reader) where
  shrinks := by
    intro cs rest a ran
    rw [skip_blanks_run] at ran
    exact (one.shrinks ran).trans (List.dropWhile_suffix _)
  stands := by
    intro cs held s
    rw [skip_blanks_run, skip_blanks_run]
    by_cases none : cs.dropWhile isBlank = []
    · rw [none, hungry]
      exact .truncated place _
    · rw [drop_blanks_append none]
      exact one.stands (texts.suffix held (List.dropWhile_suffix isBlank)) s

theorem loop_shrinks {round : σ → Reader (Step σ β)}
    (rounds : ∀ state, OnePass texts (round state)) {state : σ} {result : β} {cs rest : List Char}
    (ran : loop round state cs = .ok (result, rest)) : rest <:+ cs := by
  rcases loop_eq_ok ran with ended | ⟨state', mid, went, shorter, again⟩
  · exact (rounds state).shrinks ended
  · exact (loop_shrinks rounds again).trans ((rounds state).shrinks went)
termination_by cs.length

theorem loop_stands {round : σ → Reader (Step σ β)}
    (rounds : ∀ state, OnePass texts (round state)) (state : σ) {cs : List Char}
    (held : texts.holds cs) (s : List Char) :
    Stands s (loop round state cs) (loop round state (cs ++ s)) := by
  cases went : round state cs with
  | error e =>
      rw [loop_error went]
      exact ((rounds state).stands_error held went s).carry fun e' ran => loop_error ran
  | ok result =>
      obtain ⟨step, mid⟩ := result
      have went' := (rounds state).stands_ok held went s
      cases step with
      | done result =>
          rw [loop_done went, loop_done went']
          exact .ok result mid
      | more state' =>
          by_cases shorter : mid.length < cs.length
          · have shorter' : (mid ++ s).length < (cs ++ s).length := by
              simp only [List.length_append]
              omega
            rw [loop_more went shorter, loop_more went' shorter']
            exact loop_stands rounds state' (texts.suffix held ((rounds state).shrinks went)) s
          · have longer : ¬ (mid ++ s).length < (cs ++ s).length := by
              simp only [List.length_append]
              omega
            rw [loop, loop, went, went']
            simp only [if_neg shorter, if_neg longer]
            exact .malformed _ _
termination_by cs.length

theorem iterate_one_pass {round : σ → Reader (Step σ β)}
    (rounds : ∀ state, OnePass texts (round state)) (state : σ) :
    OnePass texts (iterate round state) :=
  ⟨loop_shrinks rounds, loop_stands rounds state⟩

theorem foresee_one_pass (close : Char) : OnePass texts (foresee close) where
  shrinks := by
    intro cs rest u ran
    exact foresee_ok ran ▸ List.suffix_refl cs
  stands := by
    intro cs _ s
    unfold foresee
    cases front : cs.dropWhile isBlank with
    | nil => exact .truncated .value _
    | cons c tail =>
        rw [drop_blanks_append (by simp [front]), front, List.cons_append]
        by_cases closing : c = close
        · simpa only [if_pos closing] using .malformed _ _
        · simpa only [if_neg closing] using .ok () cs

theorem more_one_pass (careful : Bool) (close : Char) : OnePass texts (more careful close) := by
  refine blanks_one_pass ?_ rfl
  refine bind_one_pass (next_one_pass _) fun c => ite_one_pass (ite_one_pass ?_ ?_) ?_
  · exact bind_one_pass (foresee_one_pass close) fun _ => pure_one_pass true
  · exact pure_one_pass true
  · exact ite_one_pass (pure_one_pass false) (fail_one_pass _)

theorem closes_one_pass (close : Char) : OnePass texts (closes close) := by
  refine blanks_one_pass ⟨?_, ?_⟩ rfl
  · intro cs rest closed ran
    cases cs with
    | nil => cases ran
    | cons c tail =>
        by_cases closing : c = close
        · simp only [if_pos closing, Except.ok.injEq, Prod.mk.injEq] at ran
          exact ran.2 ▸ List.suffix_cons c tail
        · simp only [if_neg closing, Except.ok.injEq, Prod.mk.injEq] at ran
          exact ran.2 ▸ List.suffix_refl _
  · intro cs _ s
    cases cs with
    | nil => exact .truncated _ _
    | cons c tail =>
        by_cases closing : c = close
        · simpa only [List.cons_append, if_pos closing] using .ok true tail
        · simpa only [List.cons_append, if_neg closing] using .ok false (c :: tail)

theorem run_one_pass (careful : Bool) (close : Char) {item : σ → Reader σ}
    (items : ∀ state, OnePass texts (item state)) (state : σ) :
    OnePass texts (run careful close item state) := by
  refine iterate_one_pass (fun state => ?_) state
  refine bind_one_pass (items state) fun after => ?_
  refine bind_one_pass (more_one_pass careful close) fun goes => ?_
  exact ite_one_pass (pure_one_pass _) (pure_one_pass _)

theorem items_one_pass (careful : Bool) (close : Char) {item : σ → Reader σ}
    (ones : ∀ state, OnePass texts (item state)) (state : σ) :
    OnePass texts (items careful close item state) := by
  refine bind_one_pass (closes_one_pass close) fun closed => ?_
  exact ite_one_pass (pure_one_pass state) (run_one_pass careful close ones state)

-- A list that ends where it may not go on. Behind a comma it is no list any more, and which
-- fault that is depends on what follows.
theorem end_of_list_one_pass : OnePass texts endOfList := by
  refine blanks_one_pass ?_ rfl
  refine bind_one_pass (next_one_pass .list) fun c => ?_
  refine ite_one_pass (pure_one_pass ()) (ite_one_pass ⟨?_, ?_⟩ (fail_one_pass _))
  · intro cs rest u ran
    split at ran <;> cases ran
  · intro cs _ s
    split <;> split <;> exact .malformed _ _

end Reader

end MqttFailure.Json
