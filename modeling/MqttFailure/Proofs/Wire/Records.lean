import MqttFailure.Proofs.Json.Texts
import MqttFailure.Proofs.Wire.Members
set_option autoImplicit false

namespace MqttFailure

open Json
open Json.Reader

variable {σ : Type}

theorem fold_sense {depth : Nat} {step : σ → List Piece × Source → Except ReadError σ}
    {take : σ → String × Json → Except Mismatch σ}
    (each : ∀ (a : σ) {m : List Piece × Source} {key : String} {j : Json},
      Sense.exact.text m.1 = some key → m.2.json? .exact = some j → m.2.depth ≤ depth →
        step a m = mismatched (take a (key, j)))
    {members : List (List Piece × Source)} {js : List (String × Json)}
    (known : Source.members? .exact members = some js)
    (fits : Source.membersDepth members ≤ depth) (a : σ) :
    members.foldlM step a = mismatched (js.foldlM take a) := by
  induction members generalizing a js with
  | nil =>
      cases known
      rfl
  | cons m rest ih =>
      obtain ⟨pieces, v⟩ := m
      have fits' := Nat.max_le.mp fits
      simp only [Source.members?, Option.bind_eq_bind, Option.bind_eq_some_iff] at known
      obtain ⟨key, named, j, meant, js', known', same⟩ := known
      cases same
      rw [List.foldlM_cons, List.foldlM_cons, each a named meant fits'.1]
      cases take a (key, j) with
      | error reason => rfl
      | ok a' => exact ih known' fits'.2 a'

namespace Status

def behind (f : Fields) : Option Field → Reader Fields
  | some field => do
    let shape ← head .exact
    judge (f.fill field shape)
  | none => do
    skip
    return f

def behindOutcome (f : Fields) : Option Field → Source → Except ReadError Fields
  | some field, v => v.judged (f.fill field)
  | none, _ => .ok f

def memberOutcome (f : Fields) : List Piece × Source → Except ReadError Fields :=
  keyedOutcome .exact f.slot fun _ slot v => behindOutcome f slot v

theorem behind_reads (f : Fields) (slot : Option Field) :
    Reads (behind f slot) Source.Written (behindOutcome f slot) := by
  cases slot with
  | none => exact collect_reads skip_reads fun _ => f
  | some field =>
      cases field with
      | message => exact judged_reads (f.fill .message) rfl rfl
      | code => exact judged_reads (f.fill .code) rfl rfl

theorem member_reads (f : Fields) :
    Reads (readMember f) (Keyed Source.Written) (memberOutcome f) :=
  keyed_reads exact_obeys f.slot fun _ slot => behind_reads f slot

theorem member_sense (f : Fields) {m : List Piece × Source} {key : String} {j : Json}
    (named : Sense.exact.text m.1 = some key) (meant : m.2.json? .exact = some j) :
    memberOutcome f m = mismatched (f.take (key, j)) := by
  rw [memberOutcome, keyed_outcome_named named, Fields.take]
  cases f.slot key with
  | error reason => rfl
  | ok slot =>
      cases slot with
      | none => rfl
      | some field => exact Source.judged_of_json meant

def readText : Reader String := do
  let first ← head .exact
  judge first.asText

def readCode : Reader Int32 := do
  let second ← head .exact
  judge second.asCode

theorem text_reads : Reads readText Source.Written (Source.judged Shape.asText) :=
  judged_reads _ rfl rfl

theorem code_reads : Reads readCode Source.Written (Source.judged Shape.asCode) :=
  judged_reads _ rfl rfl

def readEnd (message : String) (code : Int32) : Reader Status := do
  endOfList
  return ⟨message, code⟩

def readSecond (record : String) (message : String) : Reader Status := do
  if ← more true ']' then
    let code ← readCode
    readEnd message code
  else refuse (.wrongLength 1 (wanted record))

def secondOutcome (record message : String) : List Source → Except ReadError Status
  | [] => .error (.mismatch (.wrongLength 1 (wanted record)))
  | second :: rest => do
    let code ← second.judged Shape.asCode
    if rest.isEmpty then .ok ⟨message, code⟩ else .error (.malformed .trailingCharacters)

def elementsOutcome (record : String) : List Source → Except ReadError Status
  | [] => .error (.mismatch (.wrongLength 0 (wanted record)))
  | first :: others => do
    let message ← first.judged Shape.asText
    secondOutcome record message others

theorem read_elements_eq (record : String) :
    readElements record = (do
      if ← closes ']' then refuse (.wrongLength 0 (wanted record)) else
        let message ← readText
        readSecond record message) := by
  rw [readElements]
  congr 1
  funext closed
  cases closed with
  | true => rfl
  | false =>
      simp only [Bool.false_eq_true, if_false, readText, readSecond, readCode, readEnd, bind_assoc]

theorem read_end_comma {blanks : List Char} (blank : Blank blanks) (message : String)
    (code : Int32) {rest : List Char} (foreseen : foresee ']' rest = .ok ((), rest)) :
    readEnd message code (blanks ++ ',' :: rest) = .error (.malformed .trailingCharacters) :=
  bind_run_error (end_of_list_comma blank foreseen)

theorem read_end_close {blanks : List Char} (blank : Blank blanks) (message : String)
    (code : Int32) (rest : List Char) :
    readEnd message code (blanks ++ ']' :: rest) = .ok (⟨message, code⟩, rest) :=
  bind_run_ok (end_of_list_close blank rest)

theorem read_end_ok {message : String} {code : Int32} {cs rest : List Char} {s : Status}
    (ran : readEnd message code cs = .ok (s, rest)) :
    ∃ blanks, Blank blanks ∧ cs = blanks ++ ']' :: rest := by
  obtain ⟨_, _, closed, ended⟩ := bind_eq_ok.mp ran
  obtain ⟨_, rfl⟩ := pure_eq_ok.mp ended
  exact end_of_list_ok closed

theorem read_second_comma (record message : String) {blanks : List Char}
    (blank : Blank blanks) {others : List Source} {ws : List Char}
    (separated : Separated Source.Written others ws) (rest : List Char) :
    readSecond record message (blanks ++ ',' :: (ws ++ ']' :: rest)) =
      (secondOutcome record message others).map (·, rest) := by
  have foreseen := foresee_separated written_fronted (.inl rfl) separated (']' :: rest)
  rw [readSecond, bind_run_ok (more_comma blank true foreseen), if_pos rfl]
  cases separated with
  | @last v before w after first written blank' =>
      have stops : Stops (after ++ ']' :: rest) := stops_blank blank' (stops_cons rfl rest)
      simp only [List.append_assoc]
      rw [bind_run_map (code_reads.forward first written stops), secondOutcome, except_map_bind]
      congr 1
      funext code
      exact read_end_close blank' message code rest
  | @cons v vs before w after ws first written blank' others =>
      have stops : Stops (after ++ ',' :: (ws ++ ']' :: rest)) :=
        stops_blank blank' (stops_cons rfl _)
      have several : vs.isEmpty = false := by cases others <;> rfl
      simp only [List.append_assoc, List.cons_append]
      rw [bind_run_map (code_reads.forward first written stops), secondOutcome, except_map_bind]
      congr 1
      funext code
      rw [several]
      exact read_end_comma blank' message code
        (foresee_separated written_fronted (.inl rfl) others (']' :: rest))

theorem read_second_close (record message : String) {blanks : List Char} (blank : Blank blanks)
    (rest : List Char) :
    readSecond record message (blanks ++ ']' :: rest) =
      (secondOutcome record message []).map (·, rest) := by
  rw [readSecond, bind_run_ok (more_close blank true (.inl rfl) rest)]
  rfl

theorem elements_forward (record : String) {elements : List Source} {w : List Char}
    (listed : Listed Source.Written elements w) (rest : List Char) :
    readElements record (w ++ ']' :: rest) =
      (elementsOutcome record elements).map (·, rest) := by
  rw [read_elements_eq]
  cases listed with
  | empty blank =>
      rw [bind_run_ok (closes_close blank (.inl rfl) rest)]
      rfl
  | items separated =>
      obtain ⟨ws, separated, looked⟩ :=
        closes_separated written_fronted (.inl rfl) separated rest
      rw [bind_run_ok looked, if_neg (by decide)]
      cases separated with
      | @last v before w after first written blank' =>
          have stops : Stops (after ++ ']' :: rest) := stops_blank blank' (stops_cons rfl rest)
          simp only [List.append_assoc]
          rw [bind_run_map (text_reads.forward first written stops), elementsOutcome,
            except_map_bind]
          congr 1
          funext message
          exact read_second_close record message blank' rest
      | @cons v vs before w after ws first written blank' others =>
          have stops : Stops (after ++ ',' :: (ws ++ ']' :: rest)) :=
            stops_blank blank' (stops_cons rfl _)
          simp only [List.append_assoc, List.cons_append]
          rw [bind_run_map (text_reads.forward first written stops), elementsOutcome,
            except_map_bind]
          congr 1
          funext message
          exact read_second_comma record message blank' others rest

theorem elements_listed {record : String} {cs rest : List Char} {s : Status}
    (ran : readElements record cs = .ok (s, rest)) :
    ∃ elements w, cs = w ++ ']' :: rest ∧ Listed Source.Written elements w := by
  rw [read_elements_eq] at ran
  obtain ⟨closed, _, looked, went⟩ := bind_eq_ok.mp ran
  obtain ⟨before, blank, rfl⟩ := closes_ok looked
  cases closed with
  | true => cases went
  | false =>
      obtain ⟨message, _, read, behind⟩ := bind_eq_ok.mp went
      obtain ⟨before', first, w, rfl, blank', written, _⟩ := text_reads.backward read
      obtain ⟨goes, _, taken, behind'⟩ := bind_eq_ok.mp behind
      obtain ⟨after, blankAfter, rfl⟩ := more_ok taken
      cases goes with
      | false => cases behind'
      | true =>
          obtain ⟨code, _, read', ended⟩ := bind_eq_ok.mp behind'
          obtain ⟨before'', second, w', rfl, blank'', written', _⟩ := code_reads.backward read'
          obtain ⟨after', blankAfter', rfl⟩ := read_end_ok ended
          have separated : Separated Source.Written [first, second]
              (before' ++ (w ++ (after ++ ',' :: (before'' ++ (w' ++ after'))))) :=
            .cons blank' written blankAfter (.last blank'' written' blankAfter')
          exact ⟨_, before ++ _, by simp, .items (separated_blank blank separated)⟩

theorem elements_enclose (record : String) :
    Encloses (readElements record) ']' Source.Written (elementsOutcome record) :=
  ⟨elements_forward record, elements_listed⟩

def membersOutcome (members : List (List Piece × Source)) : Except ReadError Status := do
  let fields ← members.foldlM memberOutcome Fields.none
  mismatched fields.finish

theorem members_enclose :
    Encloses (do
      let fields ← items true '}' readMember Fields.none
      judge fields.finish) '}' (Keyed Source.Written) membersOutcome :=
  items_encloses true member_reads (keyed_fronted _) (.inr rfl) Fields.none Fields.finish

def outcome (record : String) : Source → Except ReadError Status :=
  Source.byShape (elementsOutcome record) membersOutcome record

theorem read_reads (record : String) : Reads (read record) Source.Written (outcome record) :=
  by_shape_reads (elements_enclose record) members_enclose record

-- Among members that make sense, a status is judged as it would be in memory.
theorem object_sense (record : String) {members : List (List Piece × Source)}
    {js : List (String × Json)} (known : Source.members? .exact members = some js) :
    outcome record (.object members) = mismatched (ofMembers js) := by
  have folded := fold_sense (fun f _ _ _ named meant _ => member_sense f named meant) known
    (Nat.le_refl _) Fields.none
  rw [outcome, Source.byShape, membersOutcome, folded, of_members_eq]
  cases js.foldlM Fields.take Fields.none <;> rfl

theorem read_all_object {α : Type} (f : Status → α) (record : String)
    {members : List (List Piece × Source)} {js : List (String × Json)}
    (known : Source.members? .exact members = some js) {t : String}
    (fills : (Source.object members).Fills t.toList) :
    readAll (do return f (← read record)) t = (mismatched (ofMembers js)).map f := by
  rw [read_all_fills (collect_reads (read_reads record) f) fills, object_sense record known]

end Status

end MqttFailure
