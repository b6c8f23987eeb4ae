import MqttFailure.Proofs.Wire.Drafts
import MqttFailure.Proofs.Wire.Records
set_option autoImplicit false

namespace MqttFailure

open Json
open Json.Reader

namespace ClientFailure

def Draft.spot (d : Draft) (name : String) : Except Mismatch Bool :=
  if name = "kind" then d.claimKind.map fun _ => true else .ok false

def Draft.behind (depth : Nat) (d : Draft) (name : String) : Bool → Reader Draft
  | true => do return { d with kind := some (← Kind.readName) }
  | false => do return { d with members := (name, ← value .exact depth) :: d.members }

def Draft.behindOutcome (depth : Nat) (d : Draft) (name : String) :
    Bool → Source → Except ReadError Draft
  | true, v => (v.judged Kind.ofShape).map fun k => { d with kind := some k }
  | false, v => (v.outcome .exact depth).map fun j => { d with members := (name, j) :: d.members }

def Draft.memberOutcome (depth : Nat) (d : Draft) : List Piece × Source → Except ReadError Draft :=
  keyedOutcome .exact d.spot (d.behindOutcome depth)

theorem named_sensible {v : Source} {k : Kind} (judged : v.judged Kind.ofShape = .ok k) :
    v.depth = 0 ∧ v.json? .exact = some (.text k.name) := by
  obtain ⟨shape, shown, known⟩ := except_bind_eq_ok.mp judged
  rw [Kind.of_shape_ok.mp (mismatched_eq_ok.mp known)] at shown
  exact Source.json_of_shape (Source.shown_eq_ok.mp shown) rfl

theorem read_name_reads : Reads Kind.readName Source.Written (Source.judged Kind.ofShape) :=
  judged_reads _ rfl rfl

namespace Draft

theorem behind_reads (depth : Nat) (d : Draft) (name : String) (named : Bool) :
    Reads (d.behind depth name named) Source.Written (d.behindOutcome depth name named) := by
  cases named with
  | true => exact collect_reads read_name_reads fun k => { d with kind := some k }
  | false =>
      exact collect_reads (value_reads exact_obeys depth)
        fun j => { d with members := (name, j) :: d.members }

theorem read_member_eq (depth : Nat) (d : Draft) :
    readMember depth d = (do
      let name ← key .exact
      let named ← judge (d.spot name)
      colon
      d.behind depth name named) := by
  rw [readMember]
  congr 1
  funext name
  rw [spot]
  by_cases kind : name = "kind"
  · rw [if_pos kind, if_pos kind, read_tag]
    cases d.claimKind <;> rfl
  · rw [if_neg kind, if_neg kind]
    rfl

theorem member_reads (depth : Nat) (d : Draft) :
    Reads (readMember depth d) (Keyed Source.Written) (d.memberOutcome depth) := by
  rw [read_member_eq]
  exact keyed_reads exact_obeys d.spot (d.behind_reads depth)

theorem member_sense {depth : Nat} (d : Draft) {m : List Piece × Source} {key : String} {j : Json}
    (named : Sense.exact.text m.1 = some key) (meant : m.2.json? .exact = some j)
    (fits : m.2.depth ≤ depth) : d.memberOutcome depth m = mismatched (d.take (key, j)) := by
  rw [memberOutcome, keyed_outcome_named named, spot]
  by_cases kind : key = "kind"
  · subst kind
    rw [if_pos rfl, take_kind, claimKind]
    cases d.kind with
    | some k => rfl
    | none =>
        change (m.2.judged Kind.ofShape).map _ = _
        rw [Source.judged_of_json meant]
        cases Kind.ofShape j.shape <;> rfl
  · rw [if_neg kind, take_other d kind]
    change (m.2.outcome .exact depth).map _ = _
    rw [Source.outcome_eq_ok.mpr ⟨fits, meant⟩]
    rfl

-- A member that was taken made sense, also where only its shape was looked at.
theorem member_sensible {depth : Nat} {d d' : Draft} {m : List Piece × Source}
    (taken : d.memberOutcome depth m = .ok d') :
    ∃ key j, Sense.exact.text m.1 = some key ∧ m.2.json? .exact = some j ∧ m.2.depth ≤ depth := by
  obtain ⟨key, named, taken'⟩ := except_bind_eq_ok.mp taken
  obtain ⟨kind, _, ended⟩ := except_bind_eq_ok.mp taken'
  refine ⟨key, ?_⟩
  cases kind with
  | true =>
      obtain ⟨k, judged, _⟩ := except_map_eq_ok.mp ended
      obtain ⟨scalar, meant⟩ := named_sensible judged
      exact ⟨_, read_text_eq_ok.mp named, meant, scalar ▸ Nat.zero_le depth⟩
  | false =>
      obtain ⟨j, read, _⟩ := except_map_eq_ok.mp ended
      obtain ⟨fits, meant⟩ := Source.outcome_eq_ok.mp read
      exact ⟨j, read_text_eq_ok.mp named, meant, fits⟩

theorem members_sensible {depth : Nat} {d d' : Draft} {members : List (List Piece × Source)}
    (taken : members.foldlM (memberOutcome depth) d = .ok d') :
    ∃ js, Source.members? .exact members = some js ∧ Source.membersDepth members ≤ depth := by
  induction members generalizing d with
  | nil => exact ⟨[], rfl, Nat.zero_le depth⟩
  | cons m rest ih =>
      rw [List.foldlM_cons] at taken
      obtain ⟨d'', first, taken'⟩ := except_bind_eq_ok.mp taken
      obtain ⟨key, j, named, meant, fits⟩ := member_sensible first
      obtain ⟨js, known, fits'⟩ := ih taken'
      refine ⟨(key, j) :: js, ?_, Nat.max_le.mpr ⟨fits, fits'⟩⟩
      rw [Source.members?, named, meant, known]
      rfl

end Draft

def outcome : Nat → Source → Except ReadError ClientFailure
  | 0, .array _ => .error (.malformed .recursionLimit)
  | 0, .object _ => .error (.malformed .recursionLimit)
  | _ + 1, .array [] => .error (.mismatch (.missingField "kind"))
  | depth + 1, .array (first :: rest) => do
    let kind ← first.judged Kind.ofShape
    let elements ← rest.mapM (Source.outcome .exact depth)
    mismatched (ofElements kind elements)
  | depth + 1, .object members => do
    let draft ← members.foldlM (Draft.memberOutcome depth) Draft.empty
    mismatched draft.finish
  | _, v => v.judged fun shape => .error (.wrongType shape form)

theorem outcome_scalar {v : Source} (scalar : v.depth = 0) (depth : Nat) :
    outcome depth v = v.judged fun shape => .error (.wrongType shape form) := by
  cases v with
  | array elements => cases scalar
  | object members => cases scalar
  | null => cases depth <;> rfl
  | bool value => cases depth <;> rfl
  | numeral parts => cases depth <;> rfl
  | text pieces => cases depth <;> rfl

theorem of_scalar {v : Source} (scalar : v.depth = 0) {j : Json}
    (meant : v.json? .exact = some j) : ofJson j = .error (.wrongType j.shape form) := by
  rcases Source.scalar_shape .exact scalar with
    ⟨_, senseless⟩ | ⟨shape, j', _, whole, meant'⟩
  · rw [meant] at senseless
    cases senseless
  · rw [meant] at meant'
    cases meant'
    cases shape <;> cases whole <;> rfl

theorem outcome_sense {depth : Nat} {v : Source} {j : Json} (meant : v.json? .exact = some j)
    (fits : v.depth ≤ depth) : outcome depth v = mismatched (ofJson j) := by
  by_cases scalar : v.depth = 0
  · rw [outcome_scalar scalar, Source.judged_of_json meant, of_scalar scalar meant]
  · cases v with
    | array elements =>
        obtain ⟨js, known, rfl⟩ := Option.map_eq_some_iff.mp meant
        cases depth with
        | zero => cases fits
        | succ depth =>
            have fits' := Nat.le_of_succ_le_succ fits
            cases elements with
            | nil =>
                cases known
                rfl
            | cons first rest =>
                have fits'' := Nat.max_le.mp fits'
                simp only [Source.elements?, Option.bind_eq_bind, Option.bind_eq_some_iff] at known
                obtain ⟨j, meant', js', known', same⟩ := known
                cases same
                rw [outcome, Source.elements_outcome_eq_ok.mpr ⟨fits''.2, known'⟩,
                  Source.judged_of_json meant', ofJson, tag_of_shape]
                cases Kind.ofShape j.shape <;> rfl
    | object members =>
        obtain ⟨js, known, rfl⟩ := Option.map_eq_some_iff.mp meant
        cases depth with
        | zero => cases fits
        | succ depth =>
            rw [outcome, fold_sense
              (fun d _ _ _ named meant fits => d.member_sense named meant fits)
              known (Nat.le_of_succ_le_succ fits), ofJson]
            cases js.foldlM Draft.take Draft.empty <;> rfl
    | null => exact absurd rfl scalar
    | bool value => exact absurd rfl scalar
    | numeral parts => exact absurd rfl scalar
    | text pieces => exact absurd rfl scalar

theorem outcome_sensible {depth : Nat} {v : Source} {e : ClientFailure}
    (good : outcome depth v = .ok e) : ∃ j, v.json? .exact = some j ∧ v.depth ≤ depth := by
  by_cases scalar : v.depth = 0
  · rw [outcome_scalar scalar] at good
    obtain ⟨shape, _, known⟩ := except_bind_eq_ok.mp good
    cases known
  · cases v with
    | array elements =>
        cases depth with
        | zero => cases good
        | succ depth =>
            cases elements with
            | nil => cases good
            | cons first rest =>
                obtain ⟨k, judged, good'⟩ := except_bind_eq_ok.mp good
                obtain ⟨js, read, _⟩ := except_bind_eq_ok.mp good'
                obtain ⟨scalar', meant⟩ := named_sensible judged
                obtain ⟨fits, known⟩ := Source.elements_outcome_eq_ok.mp read
                refine ⟨.array (.text k.name :: js), ?_,
                  Nat.succ_le_succ (Nat.max_le.mpr ⟨?_, fits⟩)⟩
                · rw [Source.json?, Source.elements?, meant, known]
                  rfl
                · exact scalar' ▸ Nat.zero_le depth
    | object members =>
        cases depth with
        | zero => cases good
        | succ depth =>
            obtain ⟨d, folded, _⟩ := except_bind_eq_ok.mp good
            obtain ⟨js, known, fits⟩ := Draft.members_sensible folded
            exact ⟨.object js, by rw [Source.json?, known]; rfl, Nat.succ_le_succ fits⟩
    | null => exact absurd rfl scalar
    | bool value => exact absurd rfl scalar
    | numeral parts => exact absurd rfl scalar
    | text pieces => exact absurd rfl scalar

theorem outcome_ok {depth : Nat} {v : Source} {e : ClientFailure} :
    outcome depth v = .ok e ↔
      ∃ j, v.json? .exact = some j ∧ v.depth ≤ depth ∧ ofJson j = .ok e := by
  constructor
  · intro good
    obtain ⟨j, meant, fits⟩ := outcome_sensible good
    rw [outcome_sense meant fits, mismatched_eq_ok] at good
    exact ⟨j, meant, fits, good⟩
  · rintro ⟨j, meant, fits, good⟩
    rw [outcome_sense meant fits, good]
    rfl

def elementsBehind (depth : Nat) : Reader (List Json) := do
  if ← more true ']' then run true ']' (element (value .exact depth)) [] else pure []

theorem read_elements_eq (depth : Nat) :
    readElements depth = (do
      if ← closes ']' then refuse (.missingField "kind") else
        let kind ← Kind.readName
        let elements ← elementsBehind depth
        judge (ofElements kind elements.reverse)) := by
  rw [readElements, read_tag]
  congr 1
  funext closed
  cases closed with
  | true => rfl
  | false =>
      simp only [Bool.false_eq_true, if_false]
      congr 1
      funext kind cs
      simp only [elementsBehind, bind_run]
      cases more true ']' cs with
      | error e => rfl
      | ok goes =>
          obtain ⟨goes, rest⟩ := goes
          cases goes <;> rfl

theorem elements_behind_close {blanks : List Char} (blank : Blank blanks) (depth : Nat)
    (rest : List Char) : elementsBehind depth (blanks ++ ']' :: rest) = .ok ([], rest) := by
  rw [elementsBehind, bind_run_ok (more_close blank true (.inl rfl) rest)]
  rfl

theorem elements_behind_comma {blanks : List Char} (blank : Blank blanks) (depth : Nat)
    {elements : List Source} {ws : List Char}
    (separated : Separated Source.Written elements ws) (rest : List Char) :
    elementsBehind depth (blanks ++ ',' :: (ws ++ ']' :: rest)) =
      ((elements.mapM (Source.outcome .exact depth)).map List.reverse).map (·, rest) := by
  have collected := run_forward true (element_reads (value_reads exact_obeys depth)) written_fronted
    (.inl rfl) separated [] rest
  have foreseen := foresee_separated written_fronted (.inl rfl) separated (']' :: rest)
  rw [fold_collect] at collected
  rw [elementsBehind, bind_run_ok (more_comma blank true foreseen)]
  refine collected.trans ?_
  cases elements.mapM (Source.outcome .exact depth) with
  | error e => rfl
  | ok js => simp [Except.map]

theorem elements_behind_ok {depth : Nat} {cs rest : List Char} {js : List Json}
    (ran : elementsBehind depth cs = .ok (js, rest)) :
    ∃ blanks, Blank blanks ∧ ((cs = blanks ++ ']' :: rest) ∨
      ∃ elements ws, cs = blanks ++ ',' :: (ws ++ ']' :: rest) ∧
        Separated Source.Written elements ws) := by
  obtain ⟨goes, _, taken, went⟩ := bind_eq_ok.mp ran
  obtain ⟨blanks, blank, rfl⟩ := more_ok taken
  refine ⟨blanks, blank, ?_⟩
  cases goes with
  | true =>
      obtain ⟨elements, ws, rfl, separated, _⟩ :=
        run_backward (element_reads (value_reads exact_obeys depth)) went
      exact .inr ⟨elements, ws, rfl, separated⟩
  | false =>
      obtain ⟨_, rfl⟩ := pure_eq_ok.mp went
      exact .inl rfl

theorem elements_forward {depth : Nat} {elements : List Source} {w : List Char}
    (listed : Listed Source.Written elements w) (rest : List Char) :
    readElements depth (w ++ ']' :: rest) =
      (outcome (depth + 1) (.array elements)).map (·, rest) := by
  rw [read_elements_eq]
  cases listed with
  | empty blank =>
      rw [bind_run_ok (closes_close blank (.inl rfl) rest)]
      rfl
  | items separated =>
      obtain ⟨ws, separated, looked⟩ :=
        closes_separated written_fronted (.inl rfl) separated rest
      rw [bind_run_ok looked, if_neg (by decide)]
      cases separated with
      | @last v before w after blank written blank' =>
          have stops : Stops (after ++ ']' :: rest) :=
            stops_blank blank' (stops_cons rfl rest)
          simp only [List.append_assoc]
          rw [bind_run_map (read_name_reads.forward blank written stops), outcome, except_map_bind]
          congr 1
          funext kind
          rw [bind_run_ok (elements_behind_close blank' depth rest)]
          exact judge_run _ rest
      | @cons v vs before w after ws blank written blank' others =>
          have stops : Stops (after ++ ',' :: (ws ++ ']' :: rest)) :=
            stops_blank blank' (stops_cons rfl _)
          simp only [List.append_assoc, List.cons_append]
          rw [bind_run_map (read_name_reads.forward blank written stops), outcome, except_map_bind]
          congr 1
          funext kind
          rw [bind_run_map (elements_behind_comma blank' depth others rest), except_map_bind]
          cases vs.mapM (Source.outcome .exact depth) with
          | error e => rfl
          | ok js =>
              change judge (ofElements kind js.reverse.reverse) rest = _
              rw [List.reverse_reverse]
              exact judge_run _ rest

theorem elements_listed {depth : Nat} {cs rest : List Char} {e : ClientFailure}
    (ran : readElements depth cs = .ok (e, rest)) :
    ∃ elements w, cs = w ++ ']' :: rest ∧ Listed Source.Written elements w := by
  rw [read_elements_eq] at ran
  obtain ⟨closed, _, looked, went⟩ := bind_eq_ok.mp ran
  obtain ⟨before, blank, rfl⟩ := closes_ok looked
  cases closed with
  | true => cases went
  | false =>
      obtain ⟨kind, _, read, went'⟩ := bind_eq_ok.mp went
      obtain ⟨before', v, w, rfl, blank', written, _⟩ := read_name_reads.backward read
      obtain ⟨js, _, taken, ended⟩ := bind_eq_ok.mp went'
      obtain ⟨_, rfl⟩ := judge_eq_ok.mp ended
      obtain ⟨blanks, blank'', rfl | ⟨vs, ws, rfl, separated⟩⟩ := elements_behind_ok taken
      · exact ⟨[v], before ++ (before' ++ (w ++ blanks)), by simp,
          .items (separated_blank blank (.last blank' written blank''))⟩
      · exact ⟨v :: vs, before ++ (before' ++ (w ++ (blanks ++ ',' :: ws))), by simp,
          .items (separated_blank blank (.cons blank' written blank'' separated))⟩

theorem elements_enclose (depth : Nat) :
    Encloses (readElements depth) ']' Source.Written fun es => outcome (depth + 1) (.array es) :=
  ⟨elements_forward, elements_listed⟩

theorem members_enclose (depth : Nat) :
    Encloses (do
      let draft ← items true '}' (readMember depth) Draft.empty
      judge draft.finish) '}' (Keyed Source.Written)
      fun members => outcome (depth + 1) (.object members) :=
  items_encloses true (Draft.member_reads depth) (keyed_fronted _) (.inr rfl) Draft.empty
    Draft.finish

theorem read_at_zero : readAt 0 =
    byShape (fail (.malformed .recursionLimit)) (fail (.malformed .recursionLimit)) form := by
  rw [readAt, byShape]
  congr 1
  funext shape
  cases shape <;> rfl

theorem read_at_succ (depth : Nat) :
    readAt (depth + 1) = byShape (readElements depth) (do
      let draft ← items true '}' (readMember depth) Draft.empty
      judge draft.finish) form := by
  rw [readAt, byShape]
  congr 1
  funext shape
  cases shape <;> rfl

theorem outcome_zero : outcome 0 =
    Source.byShape (fun _ => .error (.malformed .recursionLimit))
      (fun _ => .error (.malformed .recursionLimit)) form := by
  funext v
  cases v <;> rfl

theorem outcome_succ (depth : Nat) : outcome (depth + 1) =
    Source.byShape (fun es => outcome (depth + 1) (.array es))
      (fun members => outcome (depth + 1) (.object members)) form := by
  funext v
  cases v <;> rfl

theorem read_reads (depth : Nat) : Reads (readAt depth) Source.Written (outcome depth) := by
  cases depth with
  | zero =>
      rw [read_at_zero, outcome_zero]
      exact by_shape_reads (fail_encloses _ _ _) (fail_encloses _ _ _) form
  | succ depth =>
      rw [read_at_succ, outcome_succ]
      exact by_shape_reads (elements_enclose depth) (members_enclose depth) form

def listElements : Reader (List ClientFailure) := do
  let failures ← items true ']' (fun read => do
    let failure ← readAt (nesting - 1)
    return failure :: read) []
  judge (.ok failures.reverse)

theorem list_elements_enclose :
    Encloses listElements ']' Source.Written fun es => es.mapM (outcome (nesting - 1)) := by
  have enclosed := items_encloses true
    (fun read => collect_reads (read_reads (nesting - 1)) (· :: read)) written_fronted (.inl rfl) []
    fun failures => .ok failures.reverse
  have same : (fun es : List Source =>
      es.foldlM (fun read e => (outcome (nesting - 1) e).map (· :: read)) [] >>= fun failures =>
        mismatched (.ok failures.reverse)) = fun es => es.mapM (outcome (nesting - 1)) := by
    funext es
    rw [fold_collect]
    cases es.mapM (outcome (nesting - 1)) with
    | error e => rfl
    | ok failures => simp [Except.map, bind, Except.bind, mismatched]
  rw [← same]
  exact enclosed

theorem read_list_eq :
    readList = byShape listElements (refuse (.wrongType .object "a sequence")) "a sequence" := by
  rw [readList, byShape]
  congr 1
  funext shape
  cases shape <;> rfl

def listOutcome : Source → Except ReadError (List ClientFailure) :=
  Source.byShape (fun es => es.mapM (outcome (nesting - 1)))
    (fun _ => .error (.mismatch (.wrongType .object "a sequence"))) "a sequence"

theorem list_reads : Reads readList Source.Written listOutcome := by
  rw [read_list_eq]
  exact by_shape_reads list_elements_enclose (fail_encloses _ _ _) "a sequence"

end ClientFailure

end MqttFailure
