import MqttFailure.Proofs.Wire.Acceptance
set_option autoImplicit false

namespace MqttFailure

open Json
open Json.Reader

variable {α : Type}

namespace Json

theorem shape_of_whole {shape : Shape} {j : Json} (whole : shape.json? = some j) :
    j.shape = shape := by
  cases shape <;> cases whole <;> rfl

def Plain (judge : Shape → Except Mismatch α) : Prop :=
  ∀ shape a, judge shape = .ok a → shape ≠ .null ∧ ∃ j, shape.json? = some j

theorem text_plain : Plain Shape.asText := by
  intro shape s judged
  have same := as_text_ok.mp judged
  subst same
  exact ⟨by simp, .text s, rfl⟩

theorem code_plain : Plain Shape.asCode := by
  intro shape c judged
  have same := as_code_ok.mp judged
  subst same
  exact ⟨by simp, .number (.integer c.toInt), rfl⟩

theorem fill_plain (f : Fields) (field : Field) : Plain (f.fill field) := by
  intro shape f' filled
  cases field with
  | message =>
      obtain ⟨s, judged, _⟩ := except_bind_eq_ok.mp filled
      exact text_plain shape s judged
  | code =>
      obtain ⟨c, judged, _⟩ := except_bind_eq_ok.mp filled
      exact code_plain shape c judged

namespace Source

-- What a source is taken for where nonsense in it goes unnoticed.
def glimpse (v : Source) : Json := (v.json? .exact).getD .null

theorem judged_glimpse {judge : Shape → Except Mismatch α} (plain : Plain judge) {v : Source}
    {a : α} : v.judged judge = .ok a ↔ judge v.glimpse.shape = .ok a := by
  constructor
  · intro judged
    obtain ⟨shape, shown, known⟩ := except_bind_eq_ok.mp judged
    have good := mismatched_eq_ok.mp known
    obtain ⟨_, j, whole⟩ := plain shape a good
    have meant := (json_of_shape (shown_eq_ok.mp shown) whole).2
    have same : v.glimpse = j := by simp [glimpse, meant]
    rw [same, shape_of_whole whole]
    exact good
  · intro good
    cases meant : v.json? .exact with
    | none =>
        have same : v.glimpse = .null := by simp [glimpse, meant]
        rw [same] at good
        exact absurd rfl (plain _ a good).1
    | some j =>
        have same : v.glimpse = j := by simp [glimpse, meant]
        rw [same] at good
        rw [judged_of_json meant, good]
        rfl

theorem glimpse_text {v : Source} {s : String} : v.glimpse = .text s ↔ v.Says s := by
  rw [says_iff, glimpse]
  cases v.json? .exact <;> simp

theorem glimpse_code {v : Source} {c : Int32} :
    v.glimpse = .number (.integer c.toInt) ↔ v.Counts c.toInt := by
  rw [counts_iff, glimpse]
  cases v.json? .exact <;> simp

def glimpsed (m : List Piece × Source) : Option (String × Json) :=
  (Sense.exact.text m.1).map (·, m.2.glimpse)

theorem glimpsed_keys {members : List (List Piece × Source)} :
    (∀ m ∈ members, (Sense.exact.text m.1).isSome) ↔ ∃ js, members.mapM glimpsed = some js := by
  induction members with
  | nil => simp
  | cons m rest ih =>
      rw [List.forall_mem_cons, ih, List.mapM_cons]
      cases named : Sense.exact.text m.1 with
      | none => simp [glimpsed, named]
      | some key => cases others : rest.mapM glimpsed <;> simp [glimpsed, named]

theorem under_glimpsed (key : String) {members : List (List Piece × Source)}
    {js : List (String × Json)} (known : members.mapM glimpsed = some js) :
    Json.under key js = (under key members).map glimpse := by
  induction members generalizing js with
  | nil =>
      cases known
      rfl
  | cons m rest ih =>
      obtain ⟨pieces, v⟩ := m
      simp only [List.mapM_cons, Option.bind_eq_bind, Option.bind_eq_some_iff, glimpsed,
        Option.map_eq_some_iff, Option.pure_def, Option.some.injEq] at known
      obtain ⟨_, ⟨key', named, rfl⟩, js', known', rfl⟩ := known
      by_cases here : key' = key
      · subst here
        have stays : under key' ((pieces, v) :: rest) = v :: under key' rest := by
          simp [under, named]
        rw [stays, under_same, ih known', List.map_cons]
      · have drops : under key ((pieces, v) :: rest) = under key rest := by
          simp [under, named, here]
        rw [drops, under_other here, ih known']

end Source

end Json

namespace Status

open Source (under glimpsed)

theorem member_glimpsed {f f' : Fields} {m : List Piece × Source} :
    memberOutcome f m = .ok f' ↔ ∃ j, glimpsed m = some j ∧ f.take j = .ok f' := by
  cases named : Sense.exact.text m.1 with
  | none =>
      simp [memberOutcome, keyedOutcome, glimpsed, Sense.readText, named, orMalformed, bind,
        Except.bind]
  | some key =>
      have same : glimpsed m = some (key, m.2.glimpse) := by simp [glimpsed, named]
      rw [same, memberOutcome, keyed_outcome_named named]
      simp only [Option.some.injEq, exists_eq_left', Fields.take]
      cases f.slot key with
      | error reason => simp [mismatched, bind, Except.bind]
      | ok slot =>
          cases slot with
          | none => simp [mismatched, behindOutcome, bind, Except.bind, pure, Except.pure]
          | some field => exact Source.judged_glimpse (fill_plain f field)

theorem fold_glimpsed {members : List (List Piece × Source)} {f f' : Fields} :
    members.foldlM memberOutcome f = .ok f' ↔
      ∃ js, members.mapM glimpsed = some js ∧ js.foldlM Fields.take f = .ok f' := by
  induction members generalizing f with
  | nil => simp [pure, Except.pure]
  | cons m rest ih =>
      rw [List.foldlM_cons, except_bind_eq_ok]
      constructor
      · rintro ⟨f₁, first, others⟩
        obtain ⟨j, seen, taken⟩ := member_glimpsed.mp first
        obtain ⟨js, known, folded⟩ := ih.mp others
        refine ⟨j :: js, by simp [List.mapM_cons, seen, known], ?_⟩
        rw [List.foldlM_cons]
        exact except_bind_eq_ok.mpr ⟨f₁, taken, folded⟩
      · rintro ⟨js, known, folded⟩
        simp only [List.mapM_cons, Option.bind_eq_bind, Option.bind_eq_some_iff, Option.pure_def,
          Option.some.injEq] at known
        obtain ⟨j, seen, js', known', rfl⟩ := known
        rw [List.foldlM_cons] at folded
        obtain ⟨f₁, taken, folded'⟩ := except_bind_eq_ok.mp folded
        exact ⟨f₁, member_glimpsed.mpr ⟨j, seen, taken⟩, ih.mpr ⟨js', known', folded'⟩⟩

inductive Accepted (s : Status) : Source → Prop where
  | object {members : List (List Piece × Source)} {message code : Source} :
      under "message" members = [message] → message.Says s.message →
      under "code" members = [code] → code.Counts s.code.toInt →
      (∀ m ∈ members, (Sense.exact.text m.1).isSome) → Accepted s (.object members)
  | array {message code : Source} :
      message.Says s.message → code.Counts s.code.toInt → Accepted s (.array [message, code])

theorem accepted_object {members : List (List Piece × Source)} {s : Status} :
    Accepted s (.object members) ↔ membersOutcome members = .ok s := by
  have judged {js : List (String × Json)} (known : members.mapM glimpsed = some js) :
      Status.ofMembers js = .ok s ↔
        (∃ v, under "message" members = [v] ∧ v.Says s.message) ∧
          ∃ v, under "code" members = [v] ∧ v.Counts s.code.toInt := by
    simp only [of_members_ok, Source.under_glimpsed _ known, List.map_eq_singleton_iff,
      Source.glimpse_text, Source.glimpse_code]
  rw [membersOutcome, except_bind_eq_ok]
  constructor
  · intro accepted
    cases accepted with
    | object message said code counted keys =>
        obtain ⟨js, known⟩ := Source.glimpsed_keys.mp keys
        have good := (judged known).mpr ⟨⟨_, message, said⟩, ⟨_, code, counted⟩⟩
        rw [of_members_eq] at good
        obtain ⟨f, folded, finished⟩ := except_bind_eq_ok.mp good
        exact ⟨f, fold_glimpsed.mpr ⟨js, known, folded⟩, mismatched_eq_ok.mpr finished⟩
  · rintro ⟨f, folded, finished⟩
    obtain ⟨js, known, taken⟩ := fold_glimpsed.mp folded
    have good : Status.ofMembers js = .ok s := by
      rw [of_members_eq]
      exact except_bind_eq_ok.mpr ⟨f, taken, mismatched_eq_ok.mp finished⟩
    obtain ⟨⟨_, message, said⟩, ⟨_, code, counted⟩⟩ := (judged known).mp good
    exact .object message said code counted (Source.glimpsed_keys.mpr ⟨js, known⟩)

theorem judged_text {v : Source} {s : String} : v.judged Shape.asText = .ok s ↔ v.Says s := by
  rw [Source.judged_glimpse text_plain, as_text_ok, shape_text, Source.glimpse_text]

theorem judged_code {v : Source} {c : Int32} :
    v.judged Shape.asCode = .ok c ↔ v.Counts c.toInt := by
  rw [Source.judged_glimpse code_plain, as_code_ok, shape_number, Source.glimpse_code]

theorem accepted_array {record : String} {elements : List Source} {s : Status} :
    Accepted s (.array elements) ↔ elementsOutcome record elements = .ok s := by
  constructor
  · intro accepted
    cases accepted with
    | array said counted =>
        exact except_bind_eq_ok.mpr ⟨s.message, judged_text.mpr said,
          except_bind_eq_ok.mpr ⟨s.code, judged_code.mpr counted, rfl⟩⟩
  · intro good
    cases elements with
    | nil => cases good
    | cons first others =>
        obtain ⟨message, text, good'⟩ := except_bind_eq_ok.mp good
        cases others with
        | nil => cases good'
        | cons second rest =>
            obtain ⟨code, number, ended⟩ := except_bind_eq_ok.mp good'
            cases rest with
            | nil =>
                cases ended
                exact .array (judged_text.mp text) (judged_code.mp number)
            | cons third rest => cases ended

theorem outcome_accepted {record : String} {v : Source} {s : Status} :
    outcome record v = .ok s ↔ Accepted s v := by
  by_cases scalar : v.depth = 0
  · rw [outcome, Source.by_shape_scalar _ _ _ scalar]
    constructor
    · intro good
      obtain ⟨shape, _, known⟩ := except_bind_eq_ok.mp good
      cases known
    · intro accepted
      cases accepted <;> cases scalar
  · cases v with
    | array elements => exact accepted_array.symm
    | object members => exact accepted_object.symm
    | null => exact absurd rfl scalar
    | bool value => exact absurd rfl scalar
    | numeral parts => exact absurd rfl scalar
    | text pieces => exact absurd rfl scalar

theorem read_all_ok {β : Type} {f : Status → β} (one : Function.Injective f) {record t : String}
    {s : Status} :
    readAll (do return f (← read record)) t = .ok (f s) ↔
      ∃ v : Source, v.Fills t.toList ∧ Accepted s v := by
  rw [read_all_eq_ok (collect_reads (read_reads record) f)]
  simp only [except_map_eq_ok, one.eq_iff, exists_eq_right, outcome_accepted]

theorem accepted_of_client {members : List (List Piece × Source)} {e : ClientFailure}
    (accepted : ClientFailure.Accepted e (.object members)) :
    Accepted e.status (.object members) := by
  cases accepted with
  | object _ _ message said code counted sensible _ =>
      exact .object message said code counted fun m found => (sensible m found).1

end Status

theorem ProtocolFailure.mk_injective : Function.Injective ProtocolFailure.mk := by
  intro s s' same
  cases same
  rfl

theorem ControlFailure.mk_injective : Function.Injective ControlFailure.mk := by
  intro s s' same
  cases same
  rfl

/-- The same texts hold a protocol and a control failure, and an object that holds a client failure
is one of them. -/
theorem record_decode_ok_iff :
    (∀ (t : String) (e : ProtocolFailure),
      ProtocolFailure.decode t = .ok e ↔
        ∃ v : Source, v.Fills t.toList ∧ Status.Accepted e.toStatus v) ∧
    (∀ (t : String) (e : ControlFailure),
      ControlFailure.decode t = .ok e ↔
        ∃ v : Source, v.Fills t.toList ∧ Status.Accepted e.toStatus v) ∧
    (∀ (t : String) (members : List (List Piece × Source)) (e : ClientFailure),
      (Source.object members).Fills t.toList → ClientFailure.decode t = .ok e →
        ProtocolFailure.decode t = .ok ⟨e.status⟩ ∧ ControlFailure.decode t = .ok ⟨e.status⟩) := by
  have protocol (t : String) (e : ProtocolFailure) :
      ProtocolFailure.decode t = .ok e ↔
        ∃ v : Source, v.Fills t.toList ∧ Status.Accepted e.toStatus v :=
    Status.read_all_ok ProtocolFailure.mk_injective
  have control (t : String) (e : ControlFailure) :
      ControlFailure.decode t = .ok e ↔
        ∃ v : Source, v.Fills t.toList ∧ Status.Accepted e.toStatus v :=
    Status.read_all_ok ControlFailure.mk_injective
  refine ⟨protocol, control, ?_⟩
  intro t members e fills decoded
  rw [ClientFailure.decode, ClientFailure.read,
    read_all_fills (ClientFailure.read_reads ClientFailure.nesting) fills,
    ClientFailure.outcome_accepted] at decoded
  have accepted := Status.accepted_of_client decoded
  exact ⟨(protocol t ⟨e.status⟩).mpr ⟨_, fills, accepted⟩,
    (control t ⟨e.status⟩).mpr ⟨_, fills, accepted⟩⟩

theorem client_object_holds_records :
    ClientFailure.decode "\x7b\"x\":[],\"kind\":\"other\",\"code\":-5,\"message\":\"m\"\x7d" =
        .ok (.other ⟨"m", -5⟩) ∧
      ProtocolFailure.decode "\x7b\"x\":[],\"kind\":\"other\",\"code\":-5,\"message\":\"m\"\x7d" =
        .ok ⟨⟨"m", -5⟩⟩ ∧
      ControlFailure.decode "\x7b\"x\":[],\"kind\":\"other\",\"code\":-5,\"message\":\"m\"\x7d" =
        .ok ⟨⟨"m", -5⟩⟩ := by
  have unknown := Keyed.mk (plain_quoted ['x'] (by simp)) blank_nil blank_nil
    (Source.Written.array (.empty blank_nil))
  have kind := Keyed.mk (plain_quoted ['k', 'i', 'n', 'd'] (by simp)) blank_nil blank_nil
    (Source.Written.text (plain_quoted ['o', 't', 'h', 'e', 'r'] (by simp)))
  have five : Numeral.Written ⟨true, ['5'], [], none⟩ ['-', '5'] :=
    @Numeral.Written.mk (some '-') ['5'] _ _ _ _ (by simp) ⟨by decide, by simp⟩ (by decide)
      .absent .absent
  have code := Keyed.mk (plain_quoted ['c', 'o', 'd', 'e'] (by simp)) blank_nil blank_nil
    (Source.Written.numeral five)
  have message := Keyed.mk (plain_quoted ['m', 'e', 's', 's', 'a', 'g', 'e'] (by simp)) blank_nil
    blank_nil (Source.Written.text (plain_quoted ['m'] (by simp)))
  have fills := Source.Fills.mk blank_nil
    (.object (.items (.cons blank_nil unknown blank_nil (.cons blank_nil kind blank_nil
      (.cons blank_nil code blank_nil (.last blank_nil message blank_nil)))))) blank_nil
  have accepted : ClientFailure.Accepted (.other ⟨"m", -5⟩) (.object
      [(['x'].map .char, .array []),
        (['k', 'i', 'n', 'd'].map .char, .text (['o', 't', 'h', 'e', 'r'].map .char)),
        (['c', 'o', 'd', 'e'].map .char, .numeral ⟨true, ['5'], [], none⟩),
        (['m', 'e', 's', 's', 'a', 'g', 'e'].map .char, .text (['m'].map .char))]) :=
    .object rfl (.text rfl) rfl (.text rfl) rfl (.numeral ⟨rfl, by decide, by decide⟩)
      (Source.members_sensible.mpr ⟨_, rfl⟩) (by decide)
  have decoded : ClientFailure.decode
      "\x7b\"x\":[],\"kind\":\"other\",\"code\":-5,\"message\":\"m\"\x7d" =
        .ok (.other ⟨"m", -5⟩) :=
    (read_all_fills (ClientFailure.read_reads ClientFailure.nesting) fills).trans
      (ClientFailure.outcome_accepted.mpr accepted)
  exact ⟨decoded, record_decode_ok_iff.2.2 _ _ _ fills decoded⟩

end MqttFailure
