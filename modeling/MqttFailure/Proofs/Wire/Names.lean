import MqttFailure.Proofs.Json.Texts
import MqttFailure.Wire.Name
set_option autoImplicit false

namespace MqttFailure.Kind

open Json
open Json.Reader

def unit : Shape → Except Mismatch Unit
  | .null => .ok ()
  | found => .error (.wrongType found "unit")

def readQuoted : Reader Kind := do
  let name ← stringBody exactEscape
  judge (named name)

def readUnit : Reader Unit := do
  let shape ← head .exact
  judge (unit shape)

def readMember (release : Release) : Reader Kind := do
  let kind ← readKey release
  colon
  return (fun _ => kind) (← readUnit)

def readClose (kind : Kind) : Reader Kind := do
  skipBlanks
  literal .object .expectedValue ['}']
  return kind

theorem read_eq (release : Release) :
    readIn release = (do
      skipBlanks
      let opening ← next .value
      if opening = '"' then readQuoted
      else if opening = '\x7b' then
        let kind ← readMember release
        readClose kind
      else fail (.malformed .expectedValue)) := by
  rw [readIn]
  congr 1
  funext _
  congr 1
  funext opening
  by_cases quote : opening = '"'
  · rw [if_pos quote, if_pos quote]
    rfl
  · rw [if_neg quote, if_neg quote]
    by_cases brace : opening = '\x7b'
    · rw [if_pos brace, if_pos brace]
      simp only [readMember, readUnit, bind_assoc, pure_bind]
      congr 1
      funext kind
      congr 1
      funext _
      congr 1
      funext shape
      cases shape <;> rfl
    · rw [if_neg brace, if_neg brace]

def memberOutcome : List Piece × Source → Except ReadError Kind :=
  keyedOutcome .exact named fun _ kind v => (v.judged unit).map fun _ => kind

def nameless : Release → SyntaxFault
  | .older => .expectedValue
  | .newer => .keyNotString

def outcome (release : Release) : Source → Except ReadError Kind
  | .text pieces => do
    let name ← Sense.exact.readText pieces
    mismatched (named name)
  | .object [] => .error (.malformed (nameless release))
  | .object (m :: others) => do
    let kind ← memberOutcome m
    if others.isEmpty then .ok kind else .error (.malformed .expectedValue)
  | _ => .error (.malformed .expectedValue)

theorem newer_reads_member :
    Reads (readMember .newer) (Keyed Source.Written) memberOutcome := by
  have reads := keyed_reads exact_obeys named fun _ kind =>
    collect_reads (judged_reads unit rfl rfl) fun _ => kind
  rw [readMember, readKey, bind_assoc]
  exact reads

theorem read_name_quoted {before : List Char} (blank : Blank before) (cs : List Char) :
    readName (before ++ '"' :: cs) = readQuoted cs := by
  rw [readName, readNameBy, readQuoted, bind_run, head_run _ blank rfl, if_neg (by decide),
    headBehind, bind_run, bind_run]
  change (stringBody exactEscape cs >>= _) >>= _ = _
  cases stringBody exactEscape cs <;> rfl

theorem read_name_front {cs rest : List Char} {kind : Kind}
    (ran : readName cs = .ok (kind, rest)) :
    ∃ before tail, Blank before ∧ cs = before ++ '"' :: tail := by
  obtain ⟨before, v, w, rfl, blank, written, good⟩ := (judged_reads ofShape rfl rfl).backward ran
  obtain ⟨shape, shown, named⟩ := except_bind_eq_ok.mp good
  have judgement := mismatched_eq_ok.mp named
  cases written with
  | text quoted =>
      cases quoted with
      | @mk body _ => exact ⟨before, body ++ ['"'] ++ rest, blank, rfl⟩
  | numeral _ =>
      obtain ⟨n, _, rfl⟩ := except_map_eq_ok.mp shown
      cases judgement
  | null => cases shown; cases judgement
  | true => cases shown; cases judgement
  | false => cases shown; cases judgement
  | array _ => cases shown; cases judgement
  | object _ => cases shown; cases judgement

theorem read_key_quoted (release : Release) {before : List Char} (blank : Blank before)
    (cs : List Char) : readKey release (before ++ '"' :: cs) = readQuoted cs := by
  cases release with
  | older => exact read_name_quoted blank cs
  | newer =>
      have opened : key .exact (before ++ '"' :: cs) = stringBody exactEscape cs := by
        rw [key, skip_blanks_run, drop_blank_cons blank rfl]
        exact bind_run_ok (literal_append _ _ ['"'] cs)
      rw [readKey, bind_run, opened, readQuoted, bind_run]

theorem read_key_brace (release : Release) {blanks : List Char} (blank : Blank blanks)
    (rest : List Char) :
    readKey release (blanks ++ '}' :: rest) = .error (.malformed (nameless release)) := by
  cases release with
  | older =>
      have other : head .exact (blanks ++ '}' :: rest) = .error (.malformed .expectedValue) :=
        head_run .exact blank rfl rest
      exact bind_run_error other
  | newer =>
      have other : literal .object .keyNotString ['"'] ('}' :: rest) =
          .error (.malformed .keyNotString) := literal_other _ _ [] (by decide)
      have refused : key .exact (blanks ++ '}' :: rest) = .error (.malformed .keyNotString) := by
        rw [key, skip_blanks_run, drop_blank_cons blank rfl]
        exact bind_run_error other
      exact bind_run_error refused

theorem read_member_quoted {before : List Char} (blank : Blank before) (cs : List Char) :
    readMember .older (before ++ '"' :: cs) = readMember .newer (before ++ '"' :: cs) := by
  rw [readMember, readMember, bind_run, bind_run, read_key_quoted .older blank,
    read_key_quoted .newer blank]

-- An older release accepts nothing but a string either, and reads it alike.
theorem older_reads_member : Reads (readMember .older) (Keyed Source.Written) memberOutcome where
  forward := by
    intro m before w rest blank keyed stops
    have ran := newer_reads_member.forward blank keyed stops
    cases keyed with
    | mk quoted _ _ _ =>
        cases quoted with
        | mk spelled =>
            rw [← ran]
            exact read_member_quoted blank _
  backward := by
    intro cs rest kind ran
    obtain ⟨_, _, named, _⟩ := bind_eq_ok.mp ran
    obtain ⟨before, tail, blank, rfl⟩ := read_name_front named
    rw [read_member_quoted blank] at ran
    exact newer_reads_member.backward ran

theorem member_reads (release : Release) :
    Reads (readMember release) (Keyed Source.Written) memberOutcome := by
  cases release with
  | older => exact older_reads_member
  | newer => exact newer_reads_member

theorem read_close_brace {blanks : List Char} (blank : Blank blanks) (kind : Kind)
    (rest : List Char) : readClose kind (blanks ++ '}' :: rest) = .ok (kind, rest) := by
  rw [readClose, skip_blanks_run, drop_blank_cons blank rfl]
  exact bind_run_ok (literal_append _ _ ['}'] rest)

theorem read_close_comma {blanks : List Char} (blank : Blank blanks) (kind : Kind)
    (rest : List Char) :
    readClose kind (blanks ++ ',' :: rest) = .error (.malformed .expectedValue) := by
  have other : literal .object .expectedValue ['}'] (',' :: rest) =
      .error (.malformed .expectedValue) := literal_other _ _ [] (by decide)
  rw [readClose, skip_blanks_run, drop_blank_cons blank rfl, bind_run_error other]

theorem read_close_ok {kind kind' : Kind} {cs rest : List Char}
    (ran : readClose kind cs = .ok (kind', rest)) :
    ∃ blanks, Blank blanks ∧ cs = blanks ++ '}' :: rest := by
  obtain ⟨blanks, blank, same⟩ := blank_split cs
  rw [readClose, skip_blanks_run] at ran
  obtain ⟨_, _, closed, ended⟩ := bind_eq_ok.mp ran
  obtain ⟨_, rfl⟩ := pure_eq_ok.mp ended
  rw [literal_eq_ok.mp closed] at same
  exact ⟨blanks, blank, same⟩

theorem members_forward (release : Release) {members : List (List Piece × Source)} {w : List Char}
    (listed : Listed (Keyed Source.Written) members w) (rest : List Char) :
    (readMember release >>= readClose) (w ++ '}' :: rest) =
      (outcome release (.object members)).map (·, rest) := by
  cases listed with
  | empty blank =>
      exact bind_run_error (bind_run_error (read_key_brace release blank rest))
  | items separated =>
      cases separated with
      | @last m before w after first keyed blank =>
          have stops : Stops (after ++ '}' :: rest) := stops_blank blank (stops_cons rfl rest)
          simp only [List.append_assoc]
          rw [bind_run_map ((member_reads release).forward first keyed stops), outcome,
            except_map_bind]
          congr 1
          funext kind
          exact read_close_brace blank kind rest
      | @cons m ms before w after ws first keyed blank others =>
          have stops : Stops (after ++ ',' :: (ws ++ '}' :: rest)) :=
            stops_blank blank (stops_cons rfl _)
          have several : ms.isEmpty = false := by cases others <;> rfl
          simp only [List.append_assoc, List.cons_append]
          rw [bind_run_map ((member_reads release).forward first keyed stops), outcome,
            except_map_bind, several]
          congr 1
          funext kind
          exact read_close_comma blank kind _

theorem quoted_forward (release : Release) {pieces : List Piece} {body : List Char}
    (spelled : Spelled pieces body) (rest : List Char) :
    readQuoted (body ++ '"' :: rest) = (outcome release (.text pieces)).map (·, rest) := by
  rw [readQuoted, outcome, except_map_bind]
  refine (bind_run_map (exact_obeys.string_forward spelled rest)).trans ?_
  congr 1
  funext name
  exact judge_run _ rest

theorem read_opening (release : Release) {before : List Char} (blank : Blank before) {c : Char}
    (visible : isBlank c = false) (cs : List Char) :
    readIn release (before ++ c :: cs) =
      if c = '"' then readQuoted cs
      else if c = '\x7b' then (readMember release >>= readClose) cs
      else .error (.malformed .expectedValue) := by
  rw [read_eq, skip_blanks_run, drop_blank_cons blank visible, bind_run_ok (next_eq_ok.mpr rfl),
    ite_run, ite_run]
  rfl

theorem read_forward (release : Release) {v : Source} {before w rest : List Char}
    (blank : Blank before) (written : v.Written w) (_ : Stops rest) :
    readIn release (before ++ (w ++ rest)) = (outcome release v).map (·, rest) := by
  cases written with
  | text quoted =>
      cases quoted with
      | mk spelled =>
          rw [List.cons_append, List.append_assoc, read_opening release blank rfl, if_pos rfl]
          exact quoted_forward release spelled rest
  | object listed =>
      rw [List.cons_append, List.append_assoc, read_opening release blank rfl, if_neg (by decide),
        if_pos rfl]
      exact members_forward release listed rest
  | numeral numeral =>
      obtain ⟨c, cs, rfl, starts⟩ := numeral_front numeral
      have quote : c ≠ '"' := by
        rintro rfl
        cases starts
      have brace : c ≠ '\x7b' := by
        rintro rfl
        cases starts
      rw [List.cons_append, read_opening release blank (starts_numeral_visible starts).1,
        if_neg quote, if_neg brace]
      rfl
  | null => exact read_opening release blank rfl _
  | true => exact read_opening release blank rfl _
  | false => exact read_opening release blank rfl _
  | array _ => exact read_opening release blank rfl _

theorem read_backward (release : Release) {cs rest : List Char} {kind : Kind}
    (ran : readIn release cs = .ok (kind, rest)) :
    ∃ before v w, cs = before ++ (w ++ rest) ∧ Blank before ∧ Source.Written v w ∧
      outcome release v = .ok kind := by
  rcases blank_front cs with blank | ⟨before, c, tail, blank, visible, same⟩
  · rw [read_eq, skip_blanks_run, drop_all_blank blank] at ran
    cases ran
  · rw [same, read_opening release blank visible] at ran
    by_cases quote : c = '"'
    · rw [if_pos quote] at ran
      obtain ⟨name, _, read, ended⟩ := bind_eq_ok.mp ran
      obtain ⟨_, rfl⟩ := judge_eq_ok.mp ended
      obtain ⟨pieces, body, rfl, spelled, _⟩ := exact_obeys.string_backward read
      rw [quoted_forward release spelled] at ran
      exact ⟨before, .text pieces, '"' :: (body ++ ['"']), by simp [same, quote], blank,
        .text (.mk spelled), map_rest_ok ran⟩
    · rw [if_neg quote] at ran
      by_cases brace : c = '\x7b'
      · rw [if_pos brace] at ran
        obtain ⟨kind', mid, read, closed⟩ := bind_eq_ok.mp ran
        obtain ⟨first, m, w, rfl, blank', keyed, _⟩ := (member_reads release).backward read
        obtain ⟨after, blank'', rfl⟩ := read_close_ok closed
        have listed : Listed (Keyed Source.Written) [m] (first ++ (w ++ after)) :=
          .items (.last blank' keyed blank'')
        have whole : first ++ (w ++ (after ++ '}' :: rest)) =
            (first ++ (w ++ after)) ++ '}' :: rest := by simp
        rw [whole, members_forward release listed] at ran
        exact ⟨before, .object [m], '{' :: (first ++ (w ++ after) ++ ['}']),
          by simp [same, brace], blank, .object listed, map_rest_ok ran⟩
      · rw [if_neg brace] at ran
        cases ran

theorem read_reads (release : Release) : Reads (readIn release) Source.Written (outcome release) :=
  ⟨read_forward release, read_backward release⟩

end MqttFailure.Kind
