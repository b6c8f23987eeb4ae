import MqttFailure.Proofs.Json.Heads
set_option autoImplicit false

namespace MqttFailure.Json

open Reader

variable {α γ σ : Type} {s : Scanner} {sense : Sense}

def mismatched : Except Mismatch α → Except ReadError α
  | .ok a => .ok a
  | .error reason => .error (.mismatch reason)

theorem mismatched_eq_ok {judged : Except Mismatch α} {a : α} :
    mismatched judged = .ok a ↔ judged = .ok a := by
  cases judged <;> simp [mismatched]

theorem judge_run (judged : Except Mismatch α) (cs : List Char) :
    judge judged cs = (mismatched judged).map (·, cs) := by
  cases judged <;> rfl

theorem except_map_eq_ok {ε β : Type} {x : Except ε α} {f : α → β} {b : β} :
    x.map f = .ok b ↔ ∃ a, x = .ok a ∧ f a = b := by
  cases x <;> simp [Except.map]

theorem map_rest_ok {x : Except ReadError α} {a : α} {rest : List Char}
    (ran : x.map (·, rest) = .ok (a, rest)) : x = .ok a := by
  obtain ⟨b, known, same⟩ := except_map_eq_ok.mp ran
  cases same
  exact known

theorem or_malformed_eq_ok {fault : SyntaxFault} {x : Option α} {a : α} :
    orMalformed fault x = .ok a ↔ x = some a := by
  cases x <;> simp [orMalformed]

theorem read_text_eq_ok {pieces : List Piece} {t : String} :
    sense.readText pieces = .ok t ↔ sense.text pieces = some t :=
  or_malformed_eq_ok

theorem Source.shown_eq_ok {v : Source} {shape : Shape} :
    v.shown sense = .ok shape ↔ v.shape? sense = some shape := by
  obtain ⟨fault, same⟩ := v.shown_eq sense
  rw [same, or_malformed_eq_ok]

theorem key_reads (obeys : s.Obeys sense) :
    Reads (key s) Quoted sense.readText where
  forward := by
    intro pieces before w rest blank quoted _
    cases quoted with
    | mk spelled =>
        rw [key, List.cons_append, List.append_assoc, skip_blanks_run, drop_blank_cons blank rfl]
        exact (bind_run_ok (literal_append _ _ ['"'] _)).trans (obeys.string_forward spelled rest)
  backward := by
    intro cs rest name ran
    obtain ⟨before, blank, same⟩ := blank_split cs
    rw [key, skip_blanks_run] at ran
    obtain ⟨_, _, opened, read⟩ := bind_eq_ok.mp ran
    obtain ⟨pieces, body, rfl, spelled, known⟩ := obeys.string_backward read
    rw [literal_eq_ok.mp opened] at same
    exact ⟨before, pieces, '"' :: (body ++ ['"']), by simpa using same, blank, .mk spelled,
      read_text_eq_ok.mpr known⟩

theorem colon_run {before : List Char} (blank : Blank before) (rest : List Char) :
    colon (before ++ ':' :: rest) = .ok ((), rest) := by
  rw [colon, skip_blanks_run, drop_blank_cons blank rfl]
  exact literal_append _ _ [':'] rest

theorem colon_ok {cs rest : List Char} {u : Unit} (ran : colon cs = .ok (u, rest)) :
    ∃ before, Blank before ∧ cs = before ++ ':' :: rest := by
  obtain ⟨before, blank, same⟩ := blank_split cs
  rw [colon, skip_blanks_run] at ran
  rw [literal_eq_ok.mp ran] at same
  exact ⟨before, blank, same⟩

def keyedOutcome {β : Type} (sense : Sense) (judged : String → Except Mismatch γ)
    (outcome : String → γ → α → Except ReadError β) (m : List Piece × α) :
    Except ReadError β := do
  let name ← sense.readText m.1
  let found ← mismatched (judged name)
  outcome name found m.2

theorem keyed_outcome_named {β : Type} {judged : String → Except Mismatch γ}
    {outcome : String → γ → α → Except ReadError β} {m : List Piece × α} {name : String}
    (named : sense.text m.1 = some name) :
    keyedOutcome sense judged outcome m =
      (mismatched (judged name) >>= fun found => outcome name found m.2) := by
  rw [keyedOutcome, read_text_eq_ok.mpr named]
  rfl

theorem keyed_reads {β : Type} {written : α → List Char → Prop} (obeys : s.Obeys sense)
    (judged : String → Except Mismatch γ) {behind : String → γ → Reader β}
    {outcome : String → γ → α → Except ReadError β}
    (reads : ∀ name found, Reads (behind name found) written (outcome name found)) :
    Reads (do
      let name ← key s
      let found ← judge (judged name)
      colon
      behind name found) (Keyed written) (keyedOutcome sense judged outcome) where
  forward := by
    intro m before w rest blank keyed stops
    cases keyed with
    | @mk pieces a name before' after w quoted blank' blank'' text =>
        have ended : Stops (before' ++ ':' :: (after ++ (w ++ rest))) :=
          stops_blank blank' (stops_cons rfl _)
        simp only [List.append_assoc, List.cons_append, keyedOutcome]
        rw [bind_run_map ((key_reads obeys).forward blank quoted ended), except_map_bind]
        congr 1
        funext name
        rw [bind_run_map (judge_run _ _), except_map_bind]
        congr 1
        funext found
        rw [bind_run_ok (colon_run blank' _)]
        exact (reads name found).forward blank'' text stops
  backward := by
    intro cs rest b ran
    obtain ⟨name, _, read, ran'⟩ := bind_eq_ok.mp ran
    obtain ⟨before, pieces, quotation, rfl, blank, quoted, known⟩ := (key_reads obeys).backward read
    obtain ⟨found, _, first, ran''⟩ := bind_eq_ok.mp ran'
    obtain ⟨judgement, rfl⟩ := judge_eq_ok.mp first
    obtain ⟨_, _, parted, last⟩ := bind_eq_ok.mp ran''
    obtain ⟨before', blank', rfl⟩ := colon_ok parted
    obtain ⟨after, a, w, rfl, blank'', text, good⟩ := (reads name found).backward last
    refine ⟨before, (pieces, a), quotation ++ (before' ++ ':' :: (after ++ w)), by simp, blank,
      .mk quoted blank' blank'' text, ?_⟩
    exact except_bind_eq_ok.mpr ⟨name, known,
      except_bind_eq_ok.mpr ⟨found, mismatched_eq_ok.mpr judgement, good⟩⟩

def Shape.json? : Shape → Option Json
  | .null => some .null
  | .bool value => some (.bool value)
  | .number value => some (.number value)
  | .text value => some (.text value)
  | .array => none
  | .object => none

def Source.outcome (sense : Sense) : Nat → Source → Except ReadError Json
  | _, .null => .ok .null
  | _, .bool value => .ok (.bool value)
  | _, .numeral parts => (sense.readNumber parts).map .number
  | _, .text pieces => (sense.readText pieces).map .text
  | 0, .array _ => .error (.malformed .recursionLimit)
  | 0, .object _ => .error (.malformed .recursionLimit)
  | depth + 1, .array elements => (elements.mapM (outcome sense depth)).map .array
  | depth + 1, .object members =>
    (members.mapM fun (m : List Piece × Source) => do
      let name ← sense.readText m.1
      let j ← outcome sense depth m.2
      return (name, j)).map .object

namespace Source

def memberOutcome (sense : Sense) (depth : Nat) (m : List Piece × Source) :
    Except ReadError (String × Json) := do
  let name ← sense.readText m.1
  let j ← m.2.outcome sense depth
  return (name, j)

theorem object_outcome (depth : Nat) (members : List (List Piece × Source)) :
    (object members).outcome sense (depth + 1) =
      (members.mapM (memberOutcome sense depth)).map .object := rfl

theorem member_outcome_eq_ok {depth : Nat} {pieces : List Piece} {v : Source} {name : String}
    {j : Json} :
    memberOutcome sense depth (pieces, v) = .ok (name, j) ↔
      sense.text pieces = some name ∧ v.outcome sense depth = .ok j := by
  rw [memberOutcome, except_bind_eq_ok]
  simp only [except_bind_eq_ok, read_text_eq_ok]
  constructor
  · rintro ⟨_, text, _, value, same⟩
    cases same
    exact ⟨text, value⟩
  · rintro ⟨text, value⟩
    exact ⟨name, text, j, value, rfl⟩

section collected

variable {depth : Nat} (single : ∀ (v : Source) (j : Json),
  v.outcome sense depth = .ok j ↔ v.depth ≤ depth ∧ v.json? sense = some j)
include single

theorem elements_collected {elements : List Source} {js : List Json} :
    elements.mapM (outcome sense depth) = .ok js ↔
      elementsDepth elements ≤ depth ∧ elements? sense elements = some js := by
  induction elements generalizing js with
  | nil =>
      rw [elements?, List.mapM_nil]
      simp [elementsDepth, pure, Except.pure]
  | cons e rest ih =>
      rw [List.mapM_cons, except_bind_eq_ok, elements?, elementsDepth, Nat.max_le]
      simp only [except_bind_eq_ok, single, ih, Option.bind_eq_bind, Option.bind_eq_some_iff]
      constructor
      · rintro ⟨j, ⟨fits, meant⟩, js, ⟨fits', known⟩, same⟩
        cases same
        exact ⟨⟨fits, fits'⟩, j, meant, js, known, rfl⟩
      · rintro ⟨⟨fits, fits'⟩, j, meant, js, known, same⟩
        cases same
        exact ⟨j, ⟨fits, meant⟩, js, ⟨fits', known⟩, rfl⟩

theorem members_collected {members : List (List Piece × Source)} {js : List (String × Json)} :
    members.mapM (memberOutcome sense depth) = .ok js ↔
      membersDepth members ≤ depth ∧ members? sense members = some js := by
  induction members generalizing js with
  | nil =>
      rw [members?, List.mapM_nil]
      simp [membersDepth, pure, Except.pure]
  | cons m rest ih =>
      obtain ⟨pieces, v⟩ := m
      rw [List.mapM_cons, except_bind_eq_ok, members?, membersDepth, Nat.max_le]
      simp only [except_bind_eq_ok, ih, Option.bind_eq_bind, Option.bind_eq_some_iff]
      constructor
      · rintro ⟨⟨name, j⟩, first, js, ⟨fits', known⟩, same⟩
        obtain ⟨text, value⟩ := member_outcome_eq_ok.mp first
        obtain ⟨fits, meant⟩ := (single v j).mp value
        cases same
        exact ⟨⟨fits, fits'⟩, name, text, j, meant, js, known, rfl⟩
      · rintro ⟨⟨fits, fits'⟩, name, text, j, meant, js, known, same⟩
        cases same
        have first := member_outcome_eq_ok.mpr ⟨text, (single v j).mpr ⟨fits, meant⟩⟩
        exact ⟨(name, j), first, js, ⟨fits', known⟩, rfl⟩

end collected

theorem outcome_eq_ok {depth : Nat} {v : Source} {j : Json} :
    v.outcome sense depth = .ok j ↔ v.depth ≤ depth ∧ v.json? sense = some j := by
  cases v with
  | null => simp [outcome, Source.depth, json?]
  | bool value => simp [outcome, Source.depth, json?]
  | numeral parts =>
      rw [outcome, json?, Sense.readNumber]
      cases sense.number parts <;> simp [orMalformed, Except.map, Source.depth]
  | text pieces =>
      rw [outcome, json?, Sense.readText]
      cases sense.text pieces <;> simp [orMalformed, Except.map, Source.depth]
  | array elements =>
      cases depth with
      | zero => simp [outcome, Source.depth]
      | succ depth =>
          have collected (js : List Json) : elements.mapM (outcome sense depth) = .ok js ↔
              elementsDepth elements ≤ depth ∧ elements? sense elements = some js :=
            elements_collected fun _ _ => outcome_eq_ok
          rw [outcome, json?, Source.depth, Nat.succ_le_succ_iff, except_map_eq_ok,
            Option.map_eq_some_iff]
          simp only [collected, and_assoc, exists_and_left]
  | object members =>
      cases depth with
      | zero => simp [outcome, Source.depth]
      | succ depth =>
          have collected (js : List (String × Json)) :
              members.mapM (memberOutcome sense depth) = .ok js ↔
                membersDepth members ≤ depth ∧ members? sense members = some js :=
            members_collected fun _ _ => outcome_eq_ok
          rw [object_outcome, json?, Source.depth, Nat.succ_le_succ_iff, except_map_eq_ok,
            Option.map_eq_some_iff]
          simp only [collected, and_assoc, exists_and_left]

theorem elements_outcome_eq_ok {depth : Nat} {elements : List Source} {js : List Json} :
    elements.mapM (outcome sense depth) = .ok js ↔
      elementsDepth elements ≤ depth ∧ elements? sense elements = some js :=
  elements_collected fun _ _ => outcome_eq_ok

theorem scalar_shape (sense : Sense) {v : Source} (scalar : v.depth = 0) :
    (v.shape? sense = none ∧ v.json? sense = none) ∨
      ∃ shape j, v.shape? sense = some shape ∧ shape.json? = some j ∧ v.json? sense = some j := by
  cases v with
  | null => exact .inr ⟨_, _, rfl, rfl, rfl⟩
  | bool value => exact .inr ⟨_, _, rfl, rfl, rfl⟩
  | numeral parts =>
      rw [shape?, json?]
      cases sense.number parts with
      | none => exact .inl ⟨rfl, rfl⟩
      | some n => exact .inr ⟨_, _, rfl, rfl, rfl⟩
  | text pieces =>
      rw [shape?, json?]
      cases sense.text pieces with
      | none => exact .inl ⟨rfl, rfl⟩
      | some t => exact .inr ⟨_, _, rfl, rfl, rfl⟩
  | array elements => cases scalar
  | object members => cases scalar

theorem scalar_outcome (depth : Nat) {v : Source} (scalar : v.depth = 0) :
    (∃ e, v.shown sense = .error e ∧ v.outcome sense depth = .error e) ∨
      ∃ shape j, v.shown sense = .ok shape ∧ shape.json? = some j ∧
        v.outcome sense depth = .ok j := by
  cases v with
  | null => exact .inr ⟨.null, .null, rfl, rfl, by rw [outcome]⟩
  | bool value => exact .inr ⟨.bool value, .bool value, rfl, rfl, by rw [outcome]⟩
  | numeral parts =>
      rw [shown, outcome]
      cases sense.readNumber parts with
      | error e => exact .inl ⟨e, rfl, rfl⟩
      | ok n => exact .inr ⟨_, _, rfl, rfl, rfl⟩
  | text pieces =>
      rw [shown, outcome]
      cases sense.readText pieces with
      | error e => exact .inl ⟨e, rfl, rfl⟩
      | ok t => exact .inr ⟨_, _, rfl, rfl, rfl⟩
  | array elements => cases scalar
  | object members => cases scalar

end Source

theorem fold_collect {β ε : Type} (f : α → Except ε β) (as : List α) (read : List β) :
    as.foldlM (fun read a => (f a).map (· :: read)) read =
      (as.mapM f).map fun bs => bs.reverse ++ read := by
  induction as generalizing read with
  | nil => rfl
  | cons a as ih =>
      rw [List.foldlM_cons, List.mapM_cons]
      cases f a with
      | error e => rfl
      | ok b =>
          refine (ih (b :: read)).trans ?_
          cases as.mapM f with
          | error e => rfl
          | ok bs => simp [Except.map, bind, Except.bind, pure, Except.pure]

namespace Reader

theorem value_over_scalar {inner : Option (Reader Json)} {shape : Shape} {j : Json}
    {cs rest : List Char} (known : shape.json? = some j) (ran : head s cs = .ok (shape, rest)) :
    valueOver s inner cs = .ok (j, rest) := by
  rw [valueOver, bind_run_ok ran]
  cases shape <;> cases known <;> rfl

inductive Inside (sense : Sense) : Option (Reader Json) → Nat → Prop where
  | nothing : Inside sense none 0
  | values {inner : Reader Json} {depth : Nat} :
      Reads inner Source.Written (Source.outcome sense depth) →
      Inside sense (some inner) (depth + 1)

def element (inner : Reader Json) (read : List Json) : Reader (List Json) := do
  let e ← inner
  return e :: read

def member (s : Scanner) (inner : Reader Json) (read : List (String × Json)) :
    Reader (List (String × Json)) := do
  let name ← key s
  colon
  let value ← inner
  return (name, value) :: read

theorem collect_reads {β : Type} {reader : Reader β} {written : α → List Char → Prop}
    {outcome : α → Except ReadError β} (reads : Reads reader written outcome) (f : β → γ) :
    Reads (do return f (← reader)) written fun a => (outcome a).map f where
  forward := by
    intro a before w rest blank text stops
    rw [bind_run_map (reads.forward blank text stops)]
    cases outcome a <;> rfl
  backward := by
    intro cs rest c ran
    obtain ⟨b, _, read, ended⟩ := bind_eq_ok.mp ran
    obtain ⟨rfl, rfl⟩ := pure_eq_ok.mp ended
    obtain ⟨before, a, w, same, blank, text, good⟩ := reads.backward read
    exact ⟨before, a, w, same, blank, text, except_map_eq_ok.mpr ⟨b, good, rfl⟩⟩

theorem element_reads {inner : Reader Json} {depth : Nat}
    (reads : Reads inner Source.Written (Source.outcome sense depth)) (read : List Json) :
    Reads (element inner read) Source.Written
      fun e => (e.outcome sense depth).map (· :: read) :=
  collect_reads reads (· :: read)

theorem member_reads (obeys : s.Obeys sense) {inner : Reader Json} {depth : Nat}
    (reads : Reads inner Source.Written (Source.outcome sense depth))
    (read : List (String × Json)) :
    Reads (member s inner read) (Keyed Source.Written)
      fun m => (Source.memberOutcome sense depth m).map (· :: read) := by
  have reads' : ∀ name (found : Unit), Reads (do return (name, ← inner) :: read) Source.Written
      fun v => (v.outcome sense depth).map fun j => (name, j) :: read :=
    fun name _ => collect_reads reads fun j => (name, j) :: read
  have same : (fun m => (Source.memberOutcome sense depth m).map (· :: read)) =
      keyedOutcome sense (fun _ => .ok ()) fun name _ v =>
        (v.outcome sense depth).map fun j => (name, j) :: read := by
    funext m
    rw [Source.memberOutcome, keyedOutcome]
    cases sense.readText m.1 with
    | error e => rfl
    | ok name =>
        cases Source.outcome sense depth m.2 <;> rfl
  rw [same]
  exact keyed_reads obeys (fun _ => .ok ()) reads'

theorem value_over_array {cs rest : List Char} (ran : head s cs = .ok (.array, rest))
    (inner : Reader Json) :
    valueOver s (some inner) cs =
      (items s.careful ']' (element inner) [] >>= fun es => pure (.array es.reverse)) rest := by
  rw [valueOver, bind_run_ok ran]
  rfl

theorem value_over_object {cs rest : List Char} (ran : head s cs = .ok (.object, rest))
    (inner : Reader Json) :
    valueOver s (some inner) cs =
      (items s.careful '}' (member s inner) [] >>= fun ms => pure (.object ms.reverse)) rest := by
  rw [valueOver, bind_run_ok ran]
  rfl

theorem value_over_shallow {shape : Shape} {cs rest : List Char} (container : shape.json? = none)
    (ran : head s cs = .ok (shape, rest)) :
    valueOver s none cs = .error (.malformed .recursionLimit) := by
  rw [valueOver, bind_run_ok ran]
  cases shape <;> first | rfl | cases container

theorem array_forward {inner : Reader Json} {depth : Nat}
    (reads : Reads inner Source.Written (Source.outcome sense depth)) {elements : List Source}
    {before w : List Char} (blank : Blank before) (listed : Listed Source.Written elements w)
    (rest : List Char) :
    valueOver s (some inner) (before ++ '[' :: (w ++ ']' :: rest)) =
      ((Source.array elements).outcome sense (depth + 1)).map (·, rest) := by
  have collected := items_forward s.careful (element_reads reads) written_fronted (.inl rfl)
    listed [] rest
  rw [fold_collect] at collected
  rw [value_over_array (head_array s blank _), Source.outcome, bind_run_map collected]
  cases elements.mapM (Source.outcome sense depth) with
  | error e => rfl
  | ok js => simp [Except.map, bind, Except.bind, pure_run]

theorem object_forward (obeys : s.Obeys sense) {inner : Reader Json} {depth : Nat}
    (reads : Reads inner Source.Written (Source.outcome sense depth))
    {members : List (List Piece × Source)} {before w : List Char} (blank : Blank before)
    (listed : Listed (Keyed Source.Written) members w) (rest : List Char) :
    valueOver s (some inner) (before ++ '{' :: (w ++ '}' :: rest)) =
      ((Source.object members).outcome sense (depth + 1)).map (·, rest) := by
  have collected := items_forward s.careful (member_reads obeys reads) (keyed_fronted _)
    (.inr rfl) listed [] rest
  rw [fold_collect] at collected
  rw [value_over_object (head_object s blank _), Source.object_outcome, bind_run_map collected]
  cases members.mapM (Source.memberOutcome sense depth) with
  | error e => rfl
  | ok js => simp [Except.map, bind, Except.bind, pure_run]

theorem value_over_forward (obeys : s.Obeys sense) {inner : Option (Reader Json)} {depth : Nat}
    (inside : Inside sense inner depth) {v : Source} {before w rest : List Char}
    (blank : Blank before) (written : v.Written w) (stops : Stops rest) :
    valueOver s inner (before ++ (w ++ rest)) = (v.outcome sense depth).map (·, rest) := by
  by_cases scalar : v.depth = 0
  · have ran := head_forward obeys scalar blank written stops
    rcases @Source.scalar_outcome sense depth v scalar with
      ⟨e, bad, fails⟩ | ⟨shape, j, good, whole, meant⟩
    · rw [bad] at ran
      rw [fails]
      exact bind_run_error ran
    · rw [good] at ran
      rw [meant]
      exact value_over_scalar whole ran
  · cases written with
    | @array elements w listed =>
        rw [List.cons_append, List.append_assoc]
        cases inside with
        | nothing => exact value_over_shallow rfl (head_array s blank _)
        | values reads => exact array_forward reads blank listed rest
    | @object members w listed =>
        rw [List.cons_append, List.append_assoc]
        cases inside with
        | nothing => exact value_over_shallow rfl (head_object s blank _)
        | values reads => exact object_forward obeys reads blank listed rest
    | null => cases scalar rfl
    | true => cases scalar rfl
    | false => cases scalar rfl
    | numeral _ => cases scalar rfl
    | text _ => cases scalar rfl

theorem value_over_backward (obeys : s.Obeys sense) {inner : Option (Reader Json)} {depth : Nat}
    (inside : Inside sense inner depth) {cs rest : List Char} {j : Json}
    (ran : valueOver s inner cs = .ok (j, rest)) :
    ∃ before v w, cs = before ++ (w ++ rest) ∧ Blank before ∧ Source.Written v w ∧
      v.outcome sense depth = .ok j := by
  obtain ⟨shape, mid, read, behind⟩ := bind_eq_ok.mp ran
  obtain ⟨before, blank, ⟨v, w, rfl, written, scalar, known⟩ | ⟨rfl, rfl⟩ | ⟨rfl, rfl⟩⟩ :=
    head_backward obeys read
  · rcases Source.scalar_shape sense scalar with
      ⟨unknown, _⟩ | ⟨shape', j', known', whole, meant⟩
    · rw [known] at unknown
      cases unknown
    · rw [known] at known'
      cases known'
      rw [value_over_scalar whole read] at ran
      cases ran
      exact ⟨before, v, w, rfl, blank, written,
        Source.outcome_eq_ok.mpr ⟨scalar ▸ Nat.zero_le depth, meant⟩⟩
  · cases inside with
    | nothing =>
        rw [value_over_shallow rfl read] at ran
        cases ran
    | @values inner depth reads =>
        -- `ran` is kept: once the source is found, reading it forward gives the outcome.
        have reread := ran
        rw [value_over_array read] at reread
        obtain ⟨es, _, taken, ended⟩ := bind_eq_ok.mp reread
        obtain ⟨rfl, rfl⟩ := pure_eq_ok.mp ended
        obtain ⟨elements, w, rfl, listed, _⟩ := items_backward (element_reads reads) taken
        rw [array_forward reads blank listed] at ran
        exact ⟨before, .array elements, '[' :: (w ++ [']']), by simp, blank, .array listed,
          map_rest_ok ran⟩
  · cases inside with
    | nothing =>
        rw [value_over_shallow rfl read] at ran
        cases ran
    | @values inner depth reads =>
        have reread := ran
        rw [value_over_object read] at reread
        obtain ⟨ms, _, taken, ended⟩ := bind_eq_ok.mp reread
        obtain ⟨rfl, rfl⟩ := pure_eq_ok.mp ended
        obtain ⟨members, w, rfl, listed, _⟩ := items_backward (member_reads obeys reads) taken
        rw [object_forward obeys reads blank listed] at ran
        exact ⟨before, .object members, '{' :: (w ++ ['}']), by simp, blank, .object listed,
          map_rest_ok ran⟩

theorem value_over (s : Scanner) (depth : Nat) :
    ∃ inner, value s depth = valueOver s inner := by
  cases depth with
  | zero => exact ⟨none, rfl⟩
  | succ depth => exact ⟨some (value s depth), rfl⟩

theorem value_reads (obeys : s.Obeys sense) (depth : Nat) :
    Reads (value s depth) Source.Written (Source.outcome sense depth) := by
  induction depth with
  | zero =>
      exact ⟨value_over_forward obeys .nothing, value_over_backward obeys .nothing⟩
  | succ depth ih =>
      exact ⟨value_over_forward obeys (.values ih), value_over_backward obeys (.values ih)⟩

end Reader

theorem listed_item {written : α → List Char → Prop} {as : List α} {w : List Char}
    (listed : Listed written as w) {a : α} (found : a ∈ as) :
    ∃ w', written a w' ∧ w'.length ≤ w.length := by
  cases listed with
  | empty _ => cases found
  | items separated =>
      induction separated with
      | last _ text _ =>
          obtain rfl := List.mem_singleton.mp found
          exact ⟨_, text, by simp only [List.length_append]; omega⟩
      | cons _ text _ _ ih =>
          rcases List.mem_cons.mp found with rfl | found
          · exact ⟨_, text, by simp only [List.length_append]; omega⟩
          · obtain ⟨w', text', short⟩ := ih found
            refine ⟨w', text', ?_⟩
            simp only [List.length_append, List.length_cons]
            omega

namespace Source

theorem elements_depth_le {elements : List Source} {n : Nat}
    (each : ∀ e ∈ elements, e.depth ≤ n) : elementsDepth elements ≤ n := by
  induction elements with
  | nil => exact Nat.zero_le n
  | cons e rest ih =>
      exact Nat.max_le.mpr ⟨each e List.mem_cons_self,
        ih fun e' found => each e' (List.mem_cons_of_mem e found)⟩

theorem members_depth_le {members : List (List Piece × Source)} {n : Nat}
    (each : ∀ m ∈ members, m.2.depth ≤ n) : membersDepth members ≤ n := by
  induction members with
  | nil => exact Nat.zero_le n
  | cons m rest ih =>
      exact Nat.max_le.mpr ⟨each m List.mem_cons_self,
        ih fun m' found => each m' (List.mem_cons_of_mem m found)⟩

-- Every level of nesting takes a bracket of the text.
theorem depth_le_length (v : Source) (w : List Char) (written : v.Written w) :
    v.depth ≤ w.length := by
  -- Items are known by their texts only, which are shorter than that of the list.
  cases written with
  | @array elements w listed =>
      have each : ∀ e ∈ elements, e.depth ≤ w.length := by
        intro e found
        obtain ⟨w', text, short⟩ := listed_item listed found
        exact Nat.le_trans (depth_le_length e w' text) short
      have inner := elements_depth_le each
      simp only [depth, List.length_cons]
      simp only [List.length_append, List.length_singleton]
      omega
  | @object members w listed =>
      have each : ∀ m ∈ members, m.2.depth ≤ w.length := by
        intro m found
        obtain ⟨w', keyed, short⟩ := listed_item listed found
        cases keyed with
        | @mk pieces v name before after w'' _ _ _ text =>
            have shorter : w''.length ≤ w.length := by
              simp only [List.length_append, List.length_cons] at short
              omega
            exact Nat.le_trans (depth_le_length v w'' text) shorter
      have inner := members_depth_le each
      simp only [depth, List.length_cons]
      simp only [List.length_append, List.length_singleton]
      omega
  | null => exact Nat.zero_le _
  | true => exact Nat.zero_le _
  | false => exact Nat.zero_le _
  | numeral _ => exact Nat.zero_le _
  | text _ => exact Nat.zero_le _
termination_by w.length

mutual
theorem loose_json (v : Source) : ∃ j, v.json? .loose = some j := by
  cases v with
  | null => exact ⟨_, rfl⟩
  | bool value => exact ⟨_, rfl⟩
  | numeral parts => exact ⟨_, rfl⟩
  | text pieces => exact ⟨_, rfl⟩
  | array elements =>
      obtain ⟨js, known⟩ := loose_elements elements
      exact ⟨.array js, by rw [json?, known]; rfl⟩
  | object members =>
      obtain ⟨js, known⟩ := loose_members members
      exact ⟨.object js, by rw [json?, known]; rfl⟩
theorem loose_elements (elements : List Source) : ∃ js, elements? .loose elements = some js := by
  cases elements with
  | nil => exact ⟨[], rfl⟩
  | cons e rest =>
      obtain ⟨j, known⟩ := loose_json e
      obtain ⟨js, known'⟩ := loose_elements rest
      exact ⟨j :: js, by rw [elements?, known, known']; rfl⟩
theorem loose_members (members : List (List Piece × Source)) :
    ∃ js, members? .loose members = some js := by
  cases members with
  | nil => exact ⟨[], rfl⟩
  | cons m rest =>
      obtain ⟨j, known⟩ := loose_json m.2
      obtain ⟨js, known'⟩ := loose_members rest
      exact ⟨_ :: js, by rw [members?, known, known']; rfl⟩
end

end Source

theorem skip_reads : Reads Reader.skip Source.Written fun _ => .ok () where
  forward := by
    intro v before w rest blank written stops
    obtain ⟨j, known⟩ := Source.loose_json v
    -- The depth allowed is the length of the text, which no value in it exceeds.
    have fits : v.depth ≤ (before ++ (w ++ rest)).length := by
      have bound := Source.depth_le_length v w written
      simp only [List.length_append]
      omega
    have ran := (value_reads loose_obeys _).forward_ok blank written stops
      (Source.outcome_eq_ok.mpr ⟨fits, known⟩)
    rw [Reader.skip, ran]
    rfl
  backward := by
    intro cs rest u ran
    rw [Reader.skip] at ran
    split at ran
    · cases ran
    · rename_i read
      cases ran
      obtain ⟨before, v, w, same, blank, written, _⟩ := (value_reads loose_obeys _).backward read
      exact ⟨before, v, w, same, blank, written, rfl⟩

end MqttFailure.Json
