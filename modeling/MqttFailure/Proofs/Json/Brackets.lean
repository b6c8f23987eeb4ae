import MqttFailure.Proofs.Json.Numerals
set_option autoImplicit false

namespace MqttFailure.Json

open Reader

variable {α β σ : Type}

-- A reader takes what is written, behind blanks, and nothing else; `outcome` is
-- what comes of it. A faulty item stops the reader with its fault, wherever in
-- the item the reader is by then.
structure Reads (reader : Reader β) (written : α → List Char → Prop)
    (outcome : α → Except ReadError β) : Prop where
  forward : ∀ {a : α} {before w rest : List Char}, Blank before → written a w → Stops rest →
    reader (before ++ (w ++ rest)) = (outcome a).map (·, rest)
  backward : ∀ {cs rest : List Char} {b : β}, reader cs = .ok (b, rest) →
    ∃ before a w, cs = before ++ (w ++ rest) ∧ Blank before ∧ written a w ∧ outcome a = .ok b

theorem Reads.forward_ok {reader : Reader β} {written : α → List Char → Prop}
    {outcome : α → Except ReadError β} (reads : Reads reader written outcome) {a : α} {b : β}
    {before w rest : List Char} (blank : Blank before) (text : written a w) (stops : Stops rest)
    (good : outcome a = .ok b) : reader (before ++ (w ++ rest)) = .ok (b, rest) := by
  rw [reads.forward blank text stops, good]
  rfl

theorem Reads.forward_error {reader : Reader β} {written : α → List Char → Prop}
    {outcome : α → Except ReadError β} (reads : Reads reader written outcome) {a : α}
    {e : ReadError} {before w rest : List Char} (blank : Blank before) (text : written a w)
    (stops : Stops rest) (bad : outcome a = .error e) :
    reader (before ++ (w ++ rest)) = .error e := by
  rw [reads.forward blank text stops, bad]
  rfl

def Fronted (written : α → List Char → Prop) : Prop :=
  ∀ {a : α} {w : List Char}, written a w →
    ∃ c cs, w = c :: cs ∧ isBlank c = false ∧ c ≠ ']' ∧ c ≠ '}'

def Closing (close : Char) : Prop := close = ']' ∨ close = '}'

theorem not_closing {close : Char} (closing : Closing close) {c : Char} (bracket : c ≠ ']')
    (brace : c ≠ '}') : c ≠ close := by
  rcases closing with rfl | rfl
  · exact bracket
  · exact brace

theorem closing_visible {close : Char} (closing : Closing close) : isBlank close = false := by
  rcases closing with rfl | rfl <;> rfl

theorem closing_stops {close : Char} (closing : Closing close) (rest : List Char) :
    Stops (close :: rest) := by
  rcases closing with rfl | rfl <;> exact stops_cons rfl rest

theorem closing_no_comma {close : Char} (closing : Closing close) : close ≠ ',' := by
  rcases closing with rfl | rfl <;> decide

namespace Reader

theorem foresee_visible {before : List Char} (blank : Blank before) {c close : Char}
    (visible : isBlank c = false) (other : c ≠ close) (rest : List Char) :
    foresee close (before ++ c :: rest) = .ok ((), before ++ c :: rest) := by
  rw [foresee, drop_blank_cons blank visible]
  exact if_neg other

theorem foresee_ok {close : Char} {cs rest : List Char} {u : Unit}
    (ran : foresee close cs = .ok (u, rest)) : cs = rest := by
  unfold foresee at ran
  split at ran
  · cases ran
  · split at ran
    · cases ran
    · cases ran
      rfl

theorem more_comma {after : List Char} (blank : Blank after) (careful : Bool) {close : Char}
    {rest : List Char} (foreseen : foresee close rest = .ok ((), rest)) :
    more careful close (after ++ ',' :: rest) = .ok (true, rest) := by
  rw [more, skip_blanks_run, drop_blank_cons blank rfl, bind_run_ok (next_eq_ok.mpr rfl),
    if_pos rfl]
  cases careful with
  | true => exact bind_run_ok foreseen
  | false => rfl

theorem more_close {after : List Char} (blank : Blank after) (careful : Bool) {close : Char}
    (closing : Closing close) (rest : List Char) :
    more careful close (after ++ close :: rest) = .ok (false, rest) := by
  rw [more, skip_blanks_run, drop_blank_cons blank (closing_visible closing),
    bind_run_ok (next_eq_ok.mpr rfl), if_neg (closing_no_comma closing), if_pos rfl]
  rfl

theorem more_ok {careful : Bool} {close : Char} {cs rest : List Char} {goes : Bool}
    (ran : more careful close cs = .ok (goes, rest)) :
    ∃ after, Blank after ∧ cs = after ++ (if goes then ',' else close) :: rest := by
  obtain ⟨after, blank, same⟩ := blank_split cs
  rw [more, skip_blanks_run] at ran
  obtain ⟨c, mid, taken, judged⟩ := bind_eq_ok.mp ran
  rw [next_eq_ok.mp taken] at same
  refine ⟨after, blank, ?_⟩
  by_cases comma : c = ','
  · rw [if_pos comma] at judged
    have behind : (pure true : Reader Bool) mid = .ok (goes, rest) := by
      cases careful with
      | true =>
          obtain ⟨_, _, foreseen, ended⟩ := bind_eq_ok.mp judged
          rwa [← foresee_ok foreseen] at ended
      | false => exact judged
    obtain ⟨rfl, rfl⟩ := pure_eq_ok.mp behind
    rw [same, comma]
    rfl
  · rw [if_neg comma] at judged
    by_cases closed : c = close
    · rw [if_pos closed] at judged
      obtain ⟨rfl, rfl⟩ := pure_eq_ok.mp judged
      rw [same, closed]
      rfl
    · rw [if_neg closed] at judged
      exact absurd judged fail_ne_ok

theorem end_of_list_close {after : List Char} (blank : Blank after) (rest : List Char) :
    endOfList (after ++ ']' :: rest) = .ok ((), rest) := by
  rw [endOfList, skip_blanks_run, drop_blank_cons blank rfl, bind_run_ok (next_eq_ok.mpr rfl),
    if_pos rfl]
  rfl

theorem end_of_list_comma {after : List Char} (blank : Blank after) {rest : List Char}
    (foreseen : foresee ']' rest = .ok ((), rest)) :
    endOfList (after ++ ',' :: rest) = .error (.malformed .trailingCharacters) := by
  have other : (rest.dropWhile isBlank).head? ≠ some ']' := by
    intro closing
    obtain ⟨tail, same⟩ := List.head?_eq_some_iff.mp closing
    rw [foresee, same] at foreseen
    cases foreseen
  rw [endOfList, skip_blanks_run, drop_blank_cons blank rfl, bind_run_ok (next_eq_ok.mpr rfl),
    if_neg (by decide), if_pos rfl]
  exact if_neg other

theorem end_of_list_ok {cs rest : List Char} {u : Unit}
    (ran : endOfList cs = .ok (u, rest)) :
    ∃ after, Blank after ∧ cs = after ++ ']' :: rest := by
  obtain ⟨after, blank, same⟩ := blank_split cs
  rw [endOfList, skip_blanks_run] at ran
  obtain ⟨c, mid, taken, judged⟩ := bind_eq_ok.mp ran
  rw [next_eq_ok.mp taken] at same
  by_cases closed : c = ']'
  · rw [if_pos closed] at judged
    obtain ⟨_, rfl⟩ := pure_eq_ok.mp judged
    exact ⟨after, blank, by rw [same, closed]⟩
  · rw [if_neg closed, ite_run] at judged
    split at judged
    · split at judged <;> cases judged
    · exact absurd judged fail_ne_ok

theorem closes_close {before : List Char} (blank : Blank before) {close : Char}
    (closing : Closing close) (rest : List Char) :
    closes close (before ++ close :: rest) = .ok (true, rest) := by
  rw [closes, skip_blanks_run, drop_blank_cons blank (closing_visible closing)]
  exact if_pos rfl

theorem closes_other {before : List Char} (blank : Blank before) {c close : Char}
    (visible : isBlank c = false) (other : c ≠ close) (rest : List Char) :
    closes close (before ++ c :: rest) = .ok (false, c :: rest) := by
  rw [closes, skip_blanks_run, drop_blank_cons blank visible]
  exact if_neg other

theorem closes_ok {close : Char} {cs rest : List Char} {closed : Bool}
    (ran : closes close cs = .ok (closed, rest)) :
    ∃ before, Blank before ∧ cs = before ++ (if closed then close :: rest else rest) := by
  obtain ⟨before, blank, same⟩ := blank_split cs
  rw [closes, skip_blanks_run] at ran
  refine ⟨before, blank, ?_⟩
  cases left : cs.dropWhile isBlank with
  | nil =>
      rw [left] at ran
      cases ran
  | cons c tail =>
      rw [left] at ran same
      by_cases closing : c = close
      · simp only [closing, if_true, Except.ok.injEq, Prod.mk.injEq] at ran
        obtain ⟨rfl, rfl⟩ := ran
        rw [same, closing]
        rfl
      · simp only [closing, if_false, Except.ok.injEq, Prod.mk.injEq] at ran
        obtain ⟨rfl, rfl⟩ := ran
        exact same

def itemRound (careful : Bool) (close : Char) (item : σ → Reader σ) (state : σ) :
    Reader (Step σ σ) := do
  let after ← item state
  if ← more careful close then return .more after else return .done after

theorem run_run (careful : Bool) (close : Char) (item : σ → Reader σ) (state : σ) (cs : List Char) :
    run careful close item state cs = loop (itemRound careful close item) state cs := rfl

theorem item_round_comma {item : σ → Reader σ} {state after : σ} {cs blanks rest : List Char}
    (ran : item state cs = .ok (after, blanks ++ ',' :: rest)) (blank : Blank blanks)
    (careful : Bool) {close : Char} (foreseen : foresee close rest = .ok ((), rest)) :
    itemRound careful close item state cs = .ok (.more after, rest) := by
  rw [itemRound, bind_run_ok ran, bind_run_ok (more_comma blank careful foreseen)]
  rfl

theorem item_round_close {item : σ → Reader σ} {state after : σ} {cs blanks rest : List Char}
    {close : Char} (ran : item state cs = .ok (after, blanks ++ close :: rest))
    (blank : Blank blanks) (careful : Bool) (closing : Closing close) :
    itemRound careful close item state cs = .ok (.done after, rest) := by
  rw [itemRound, bind_run_ok ran, bind_run_ok (more_close blank careful closing rest)]
  rfl

theorem item_round_ok {careful : Bool} {close : Char} {item : σ → Reader σ} {state : σ}
    {cs rest : List Char} {step : Step σ σ}
    (ran : itemRound careful close item state cs = .ok (step, rest)) :
    ∃ after blanks, Blank blanks ∧
      ((step = .more after ∧ item state cs = .ok (after, blanks ++ ',' :: rest)) ∨
        (step = .done after ∧ item state cs = .ok (after, blanks ++ close :: rest))) := by
  obtain ⟨after, _, read, went⟩ := bind_eq_ok.mp ran
  obtain ⟨goes, _, taken, ended⟩ := bind_eq_ok.mp went
  obtain ⟨blanks, blank, rfl⟩ := more_ok taken
  refine ⟨after, blanks, blank, ?_⟩
  cases goes with
  | true =>
      obtain ⟨rfl, rfl⟩ := pure_eq_ok.mp ended
      exact .inl ⟨rfl, read⟩
  | false =>
      obtain ⟨rfl, rfl⟩ := pure_eq_ok.mp ended
      exact .inr ⟨rfl, read⟩

variable {careful : Bool} {close : Char} {item : σ → Reader σ} {written : α → List Char → Prop}
  {step : σ → α → Except ReadError σ}

theorem separated_blank {as : List α} {before ws : List Char} (blank : Blank before)
    (separated : Separated written as ws) : Separated written as (before ++ ws) := by
  cases separated with
  | last first text after =>
      rw [← List.append_assoc]
      exact .last (blank_append blank first) text after
  | cons first text after separated =>
      rw [← List.append_assoc]
      exact .cons (blank_append blank first) text after separated

theorem separated_front (fronted : Fronted written) {as : List α} {ws : List Char}
    (separated : Separated written as ws) :
    ∃ before c tail, ws = before ++ c :: tail ∧ Blank before ∧ isBlank c = false ∧ c ≠ ']' ∧
      c ≠ '}' ∧ Separated written as (c :: tail) := by
  cases separated with
  | @last a before w after first text blank =>
      obtain ⟨c, cs, rfl, visible, bracket, brace⟩ := fronted text
      exact ⟨before, c, cs ++ after, rfl, first, visible, bracket, brace,
        .last blank_nil text blank⟩
  | @cons a as before w after ws first text blank separated =>
      obtain ⟨c, cs, rfl, visible, bracket, brace⟩ := fronted text
      exact ⟨before, c, cs ++ (after ++ ',' :: ws), rfl, first, visible, bracket, brace,
        .cons blank_nil text blank separated⟩

theorem foresee_separated (fronted : Fronted written) (closing : Closing close) {as : List α}
    {ws : List Char} (separated : Separated written as ws) (rest : List Char) :
    foresee close (ws ++ rest) = .ok ((), ws ++ rest) := by
  obtain ⟨before, c, tail, rfl, blank, visible, bracket, brace, _⟩ :=
    separated_front fronted separated
  rw [List.append_assoc]
  exact foresee_visible blank visible (not_closing closing bracket brace) _

theorem run_forward (careful : Bool)
    (reads : ∀ state, Reads (item state) written (step state))
    (fronted : Fronted written) (closing : Closing close) {as : List α} {ws : List Char}
    (separated : Separated written as ws) (state : σ) (rest : List Char) :
    run careful close item state (ws ++ close :: rest) = (as.foldlM step state).map (·, rest) := by
  rw [run_run]
  induction separated generalizing state with
  | @last a before w after blank text blank' =>
      have stops : Stops (after ++ close :: rest) := stops_blank blank' (closing_stops closing rest)
      simp only [List.append_assoc]
      rw [List.foldlM_cons]
      cases result : step state a with
      | error e =>
          have bad := (reads state).forward_error blank text stops result
          exact loop_error (bind_run_error bad)
      | ok next =>
          have good := (reads state).forward_ok blank text stops result
          exact loop_done (item_round_close good blank' careful closing)
  | @cons a as before w after ws blank text blank' separated ih =>
      have stops : Stops (after ++ ',' :: (ws ++ close :: rest)) :=
        stops_blank blank' (stops_cons rfl _)
      simp only [List.append_assoc, List.cons_append]
      rw [List.foldlM_cons]
      cases result : step state a with
      | error e =>
          have bad := (reads state).forward_error blank text stops result
          exact loop_error (bind_run_error bad)
      | ok next =>
          have good := (reads state).forward_ok blank text stops result
          have foreseen := foresee_separated fronted closing separated (close :: rest)
          rw [loop_more (item_round_comma good blank' careful foreseen) (by simp; omega)]
          exact ih next

theorem run_backward (reads : ∀ state, Reads (item state) written (step state)) {state result : σ}
    {cs rest : List Char} (ran : run careful close item state cs = .ok (result, rest)) :
    ∃ as ws, cs = ws ++ close :: rest ∧ Separated written as ws ∧
      as.foldlM step state = .ok result := by
  rw [run_run] at ran
  rcases loop_eq_ok ran with ended | ⟨next, mid, went, shorter, again⟩
  · obtain ⟨after, blanks, blank, ⟨same, _⟩ | ⟨same, read⟩⟩ := item_round_ok ended
    · cases same
    · cases same
      obtain ⟨before, a, w, rfl, blank', text, good⟩ := (reads state).backward read
      refine ⟨[a], before ++ (w ++ blanks), by simp, .last blank' text blank, ?_⟩
      rw [List.foldlM_cons, good]
      rfl
  · obtain ⟨after, blanks, blank, ⟨same, read⟩ | ⟨same, _⟩⟩ := item_round_ok went
    · cases same
      obtain ⟨before, a, w, rfl, blank', text, good⟩ := (reads state).backward read
      obtain ⟨as, ws, rfl, separated, folded⟩ := run_backward reads again
      refine ⟨a :: as, before ++ (w ++ (blanks ++ ',' :: ws)), by simp,
        .cons blank' text blank separated, ?_⟩
      rw [List.foldlM_cons, good]
      exact folded
    · cases same
termination_by cs.length

theorem closes_separated (fronted : Fronted written) (closing : Closing close) {as : List α}
    {ws : List Char} (separated : Separated written as ws) (rest : List Char) :
    ∃ ws', Separated written as ws' ∧
      closes close (ws ++ close :: rest) = .ok (false, ws' ++ close :: rest) := by
  obtain ⟨before, c, tail, rfl, blank, visible, bracket, brace, separated⟩ :=
    separated_front fronted separated
  have other := not_closing closing bracket brace
  refine ⟨c :: tail, separated, ?_⟩
  rw [List.append_assoc]
  exact closes_other blank visible other _

theorem items_forward (careful : Bool)
    (reads : ∀ state, Reads (item state) written (step state))
    (fronted : Fronted written) (closing : Closing close) {as : List α} {w : List Char}
    (listed : Listed written as w) (state : σ) (rest : List Char) :
    items careful close item state (w ++ close :: rest) = (as.foldlM step state).map (·, rest) := by
  cases listed with
  | empty blank =>
      rw [items, bind_run_ok (closes_close blank closing rest)]
      rfl
  | items separated =>
      obtain ⟨ws, separated, looked⟩ := closes_separated fronted closing separated rest
      rw [items, bind_run_ok looked, if_neg (by decide)]
      exact run_forward careful reads fronted closing separated state rest

theorem items_backward (reads : ∀ state, Reads (item state) written (step state))
    {state result : σ} {cs rest : List Char}
    (ran : items careful close item state cs = .ok (result, rest)) :
    ∃ as w, cs = w ++ close :: rest ∧ Listed written as w ∧ as.foldlM step state = .ok result := by
  obtain ⟨closed, _, looked, went⟩ := bind_eq_ok.mp ran
  obtain ⟨before, blank, rfl⟩ := closes_ok looked
  cases closed with
  | true =>
      obtain ⟨rfl, rfl⟩ := pure_eq_ok.mp went
      exact ⟨[], before, rfl, .empty blank, rfl⟩
  | false =>
      obtain ⟨as, ws, rfl, separated, folded⟩ := run_backward reads went
      exact ⟨as, before ++ ws, by simp, .items (separated_blank blank separated), folded⟩

end Reader

end MqttFailure.Json
