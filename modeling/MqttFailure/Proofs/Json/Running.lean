import MqttFailure.Proofs.Json.Grammar
set_option autoImplicit false

namespace MqttFailure.Json.Reader

variable {α β σ : Type}

def orMalformed (fault : SyntaxFault) : Option α → Except ReadError α
  | some a => .ok a
  | none => .error (.malformed fault)

theorem pure_run (a : α) (cs : List Char) : (pure a : Reader α) cs = .ok (a, cs) := rfl

theorem bind_run (first : Reader α) (next : α → Reader β) (cs : List Char) :
    (first >>= next) cs = (first cs >>= fun (a, rest) => next a rest) := rfl

theorem bind_run_ok {first : Reader α} {next : α → Reader β} {cs rest : List Char} {a : α}
    (ran : first cs = .ok (a, rest)) : (first >>= next) cs = next a rest := by
  rw [bind_run, ran]
  rfl

theorem bind_run_error {first : Reader α} {next : α → Reader β} {cs : List Char} {e : ReadError}
    (ran : first cs = .error e) : (first >>= next) cs = .error e := by
  rw [bind_run, ran]
  rfl

theorem bind_run_map {first : Reader α} {next : α → Reader β} {cs rest : List Char}
    {ended : Except ReadError α} (ran : first cs = ended.map (·, rest)) :
    (first >>= next) cs = ended >>= fun a => next a rest := by
  rw [bind_run, ran]
  cases ended <;> rfl

theorem except_map_bind {ε δ : Type} (ended : Except ε α) (next : α → Except ε β) (f : β → δ) :
    (ended >>= next).map f = ended >>= fun a => (next a).map f := by
  cases ended <;> rfl

theorem except_bind_eq_ok {ε : Type} {ended : Except ε α} {next : α → Except ε β} {b : β} :
    (ended >>= next) = .ok b ↔ ∃ a, ended = .ok a ∧ next a = .ok b := by
  cases ended with
  | error e =>
      constructor
      · intro ran
        cases ran
      · rintro ⟨_, same, _⟩
        cases same
  | ok a =>
      constructor
      · intro ran
        exact ⟨a, rfl, ran⟩
      · rintro ⟨_, same, ran⟩
        cases same
        exact ran

theorem bind_eq_ok {first : Reader α} {next : α → Reader β} {cs rest : List Char} {b : β} :
    (first >>= next) cs = .ok (b, rest) ↔
      ∃ a mid, first cs = .ok (a, mid) ∧ next a mid = .ok (b, rest) := by
  rw [bind_run]
  constructor
  · intro ran
    cases step : first cs with
    | error e =>
        rw [step] at ran
        cases ran
    | ok result =>
        rw [step] at ran
        exact ⟨result.1, result.2, rfl, ran⟩
  · rintro ⟨a, mid, step, ran⟩
    rw [step]
    exact ran

theorem get_run (next : List Char → Reader α) (cs : List Char) :
    (get >>= next) cs = next cs cs := rfl

theorem set_run (next : PUnit → Reader α) (cs rest : List Char) :
    (set rest >>= next) cs = next ⟨⟩ rest := rfl

theorem pure_eq_ok {a b : α} {cs rest : List Char} :
    (pure a : Reader α) cs = .ok (b, rest) ↔ a = b ∧ cs = rest := by
  rw [pure_run, Except.ok.injEq, Prod.mk.injEq]

theorem ite_run (c : Prop) [Decidable c] (yes no : Reader α) (cs : List Char) :
    (if c then yes else no : Reader α) cs = if c then yes cs else no cs := by
  split <;> rfl

theorem fail_ne_ok {e : ReadError} {cs rest : List Char} {a : α} :
    (fail e : Reader α) cs ≠ .ok (a, rest) := by
  intro ran
  cases ran

theorem judge_eq_ok {judged : Except Mismatch α} {cs rest : List Char} {a : α} :
    judge judged cs = .ok (a, rest) ↔ judged = .ok a ∧ cs = rest := by
  cases judged with
  | ok b => simpa only [judge, Except.ok.injEq] using pure_eq_ok
  | error reason =>
      constructor
      · intro ran
        cases ran
      · rintro ⟨same, _⟩
        cases same

theorem next_eq_ok {place : Unfinished} {cs rest : List Char} {c : Char} :
    next place cs = .ok (c, rest) ↔ cs = c :: rest := by
  cases cs with
  | nil => simp [next]
  | cons d ds => simp [next]

theorem literal_append (place : Unfinished) (fault : SyntaxFault) (expected rest : List Char) :
    literal place fault expected (expected ++ rest) = .ok ((), rest) := by
  induction expected with
  | nil => rfl
  | cons c cs ih =>
      rw [literal, bind_run_ok (next_eq_ok.mpr (List.cons_append ..)), if_pos rfl]
      exact ih

theorem literal_eq_ok {place : Unfinished} {fault : SyntaxFault} {expected cs rest : List Char}
    {u : Unit} : literal place fault expected cs = .ok (u, rest) ↔ cs = expected ++ rest := by
  constructor
  · intro ran
    induction expected generalizing cs with
    | nil => exact (pure_eq_ok.mp ran).2
    | cons c expected ih =>
        obtain ⟨d, mid, taken, ran⟩ := bind_eq_ok.mp ran
        by_cases same : d = c
        · rw [if_pos same] at ran
          rw [next_eq_ok.mp taken, same, ih ran, List.cons_append]
        · rw [if_neg same] at ran
          exact absurd ran fail_ne_ok
  · rintro rfl
    exact literal_append place fault expected rest

theorem literal_other (place : Unfinished) (fault : SyntaxFault) (shared : List Char) {c d : Char}
    {expected rest : List Char} (different : d ≠ c) :
    literal place fault (shared ++ c :: expected) (shared ++ d :: rest) =
      .error (.malformed fault) := by
  induction shared with
  | nil =>
      rw [List.nil_append, literal, List.nil_append, bind_run_ok (next_eq_ok.mpr rfl),
        if_neg different]
      rfl
  | cons first shared ih =>
      rw [List.cons_append, literal, List.cons_append, bind_run_ok (next_eq_ok.mpr rfl),
        if_pos rfl]
      exact ih

theorem blank_nil : Blank [] := by
  simp [Blank]

theorem blank_append {before after : List Char} (first : Blank before) (second : Blank after) :
    Blank (before ++ after) := by
  intro c found
  rcases List.mem_append.mp found with left | right
  · exact first c left
  · exact second c right

theorem drop_blank {before : List Char} (blank : Blank before) (rest : List Char) :
    (before ++ rest).dropWhile isBlank = rest.dropWhile isBlank :=
  List.dropWhile_append_of_pos blank

theorem drop_blank_cons {before : List Char} (blank : Blank before) {c : Char}
    (visible : isBlank c = false) (rest : List Char) :
    (before ++ c :: rest).dropWhile isBlank = c :: rest := by
  rw [drop_blank blank, List.dropWhile_cons_of_neg (by simp [visible])]

theorem skip_blanks_run (next : Unit → Reader α) (cs : List Char) :
    (skipBlanks >>= next) cs = next () (cs.dropWhile isBlank) := rfl

theorem blank_split (cs : List Char) :
    ∃ before, Blank before ∧ cs = before ++ cs.dropWhile isBlank := by
  refine ⟨cs.takeWhile isBlank, ?_, (List.takeWhile_append_dropWhile).symm⟩
  intro c found
  exact List.all_eq_true.mp List.all_takeWhile c found

theorem blank_front (cs : List Char) :
    Blank cs ∨ ∃ before c tail, Blank before ∧ isBlank c = false ∧ cs = before ++ c :: tail := by
  obtain ⟨before, blank, same⟩ := blank_split cs
  cases left : cs.dropWhile isBlank with
  | nil =>
      rw [left, List.append_nil] at same
      exact .inl (same ▸ blank)
  | cons c tail =>
      have first := List.head_dropWhile_not isBlank
        (show cs.dropWhile isBlank ≠ [] by simp [left])
      rw [left] at same
      exact .inr ⟨before, c, tail, blank, by simpa only [left, List.head_cons] using first, same⟩

theorem drop_all_blank {cs : List Char} (blank : Blank cs) : cs.dropWhile isBlank = [] := by
  simpa using drop_blank blank []

theorem loop_more {round : σ → Reader (Step σ β)} {state after : σ} {cs rest : List Char}
    (ran : round state cs = .ok (.more after, rest)) (shorter : rest.length < cs.length) :
    loop round state cs = loop round after rest := by
  rw [loop, ran]
  exact if_pos shorter

theorem loop_done {round : σ → Reader (Step σ β)} {state : σ} {result : β} {cs rest : List Char}
    (ran : round state cs = .ok (.done result, rest)) :
    loop round state cs = .ok (result, rest) := by
  rw [loop, ran]

theorem loop_error {round : σ → Reader (Step σ β)} {state : σ} {e : ReadError} {cs : List Char}
    (ran : round state cs = .error e) : loop round state cs = .error e := by
  rw [loop, ran]

theorem loop_eq_ok {round : σ → Reader (Step σ β)} {state : σ} {result : β} {cs rest : List Char}
    (ran : loop round state cs = .ok (result, rest)) :
    round state cs = .ok (.done result, rest) ∨
      ∃ after mid, round state cs = .ok (.more after, mid) ∧ mid.length < cs.length ∧
        loop round after mid = .ok (result, rest) := by
  rw [loop] at ran
  split at ran
  · cases ran
  · rename_i ended
    cases ran
    exact .inl ended
  · rename_i after mid went
    split at ran
    · rename_i shorter
      exact .inr ⟨after, mid, went, shorter, ran⟩
    · cases ran

end MqttFailure.Json.Reader
