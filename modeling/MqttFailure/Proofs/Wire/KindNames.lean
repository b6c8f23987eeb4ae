import MqttFailure.Proofs.Json.Compact
import MqttFailure.Proofs.Wire.Acceptance
import MqttFailure.Proofs.Wire.Names
import MqttFailure.Proofs.Wire.Precedence
set_option autoImplicit false

namespace MqttFailure

open Json
open Json.Reader

namespace Kind

variable {k : Kind} {s : String}

theorem unknown_message (s : String) :
    Mismatch.message (.unknownName s (all.map name)) =
      "unknown variant `" ++ s ++
        "`, expected one of `protocol`, `control`, `transport`, `configuration`, `other`" := by
  have known : ", ".intercalate ((all.map name).map Mismatch.ticked) =
      "`protocol`, `control`, `transport`, `configuration`, `other`" := by decide +kernel
  have spliced : "unknown variant " ++ ("`" ++ s ++ "`") ++ ", expected one of " ++
      "`protocol`, `control`, `transport`, `configuration`, `other`" =
        "unknown variant `" ++ s ++
          "`, expected one of `protocol`, `control`, `transport`, `configuration`, `other`" := by
    simp [← String.toList_inj]
  rw [← known] at spliced
  exact spliced

inductive Accepted (k : Kind) : Source → Prop where
  | string {pieces : List Piece} :
      Sense.exact.text pieces = some k.name → Accepted k (.text pieces)
  | member {key : List Piece} :
      Sense.exact.text key = some k.name → Accepted k (.object [(key, .null)])

theorem judged_unit {v : Source} {u : Unit} : v.judged unit = .ok u ↔ v = .null := by
  constructor
  · intro judged
    obtain ⟨shape, shown, known⟩ := except_bind_eq_ok.mp judged
    cases shape with
    | null =>
      obtain ⟨_, meant⟩ := Source.json_of_shape (Source.shown_eq_ok.mp shown) rfl
      cases Source.means_of_json meant
      rfl
    | _ => cases known
  · rintro rfl
    rfl

theorem member_ok {m : List Piece × Source} :
    memberOutcome m = .ok k ↔ Sense.exact.text m.1 = some k.name ∧ m.2 = .null := by
  cases text : Sense.exact.text m.1 with
  | none =>
      simp [memberOutcome, keyedOutcome, Sense.readText, text, orMalformed, bind, Except.bind]
  | some key =>
      rw [memberOutcome, keyed_outcome_named text, Option.some.injEq, except_bind_eq_ok]
      simp only [mismatched_eq_ok, named_ok, except_map_eq_ok, judged_unit]
      constructor
      · rintro ⟨_, same, _, null, rfl⟩
        exact ⟨same.symm, null⟩
      · rintro ⟨same, null⟩
        exact ⟨k, same.symm, (), null, rfl⟩

theorem outcome_accepted (release : Release) {v : Source} :
    outcome release v = .ok k ↔ Accepted k v := by
  constructor
  · intro good
    cases v with
    | text pieces =>
        obtain ⟨name, text, judged⟩ := except_bind_eq_ok.mp good
        have same := named_ok.mp (mismatched_eq_ok.mp judged)
        exact .string (same ▸ read_text_eq_ok.mp text)
    | object members =>
        cases members with
        | nil => cases good
        | cons m others =>
            obtain ⟨k', first, ended⟩ := except_bind_eq_ok.mp good
            cases others with
            | nil =>
                cases ended
                obtain ⟨key, v⟩ := m
                obtain ⟨text, rfl⟩ := member_ok.mp first
                exact .member text
            | cons m' rest => cases ended
    | null => cases good
    | bool value => cases good
    | numeral parts => cases good
    | array elements => cases good
  · intro accepted
    cases accepted with
    | string text =>
        exact except_bind_eq_ok.mpr ⟨k.name, read_text_eq_ok.mpr text,
          mismatched_eq_ok.mpr (named_ok.mpr rfl)⟩
    | member text => exact except_bind_eq_ok.mpr ⟨k, member_ok.mpr ⟨text, rfl⟩, rfl⟩

theorem decode_ok_iff (release : Release) {t : String} :
    decodeIn release t = .ok k ↔ ∃ v : Source, v.Fills t.toList ∧ Accepted k v := by
  rw [decodeIn, read_all_eq_ok (read_reads release)]
  simp only [outcome_accepted]

theorem decode_string (release : Release) {v : Source} {t : String} (fills : v.Fills t.toList)
    (said : v.Says s) : decodeIn release t = mismatched (named s) := by
  rw [decodeIn, read_all_fills (read_reads release) fills]
  cases said with
  | text known =>
      rw [outcome, read_text_eq_ok.mpr known]
      rfl

end Kind

def TaggedText (tag : Json) (s : Status) (t : String) : Prop :=
  ∃ js, ObjectText js t ∧ under "kind" js = [tag] ∧ under "message" js = [.text s.message] ∧
    under "code" js = [.number (.integer s.code.toInt)]

theorem tagged_text {tag : Json} (faithful : Faithful 126 tag) (s : Status) :
    TaggedText tag s (Json.object (("kind", tag) :: s.members)).compact := by
  have each : ∀ m ∈ ("kind", tag) :: s.members, Faithful 126 m.2 := by
    simp only [Status.members, List.forall_mem_cons]
    exact ⟨faithful, text_faithful _ _, integer_faithful (code_word _) _, nofun⟩
  obtain ⟨v, fills, meant, fits⟩ := (object_faithful each).fills
  refine ⟨("kind", tag) :: s.members, ?_, rfl, rfl, rfl⟩
  cases Source.means_of_json meant with
  | object known => exact ⟨_, known, fits, fills⟩

namespace ClientFailure

variable {s : Status} {t : String}

theorem decode_tag {tag : Json} (tagged : TaggedText tag s t) :
    decode t = mismatched ((Kind.ofShape tag.shape).map fun k => ofKind k s) := by
  obtain ⟨js, object, kind, message, code⟩ := tagged
  rw [client_verdict object, ← of_object_verdict, of_object_once kind,
    Status.of_members_ok.mpr ⟨message, code⟩]
  cases Kind.ofShape tag.shape <;> rfl

theorem decode_tag_refused {tag : Json} (tagged : TaggedText tag s t)
    (other : ∀ name, tag ≠ .text name) :
    decode t = .error (.mismatch (.wrongType tag.shape "variant identifier")) := by
  rw [decode_tag tagged]
  cases tag with
  | text name => exact absurd rfl (other name)
  | null => rfl
  | bool value => rfl
  | number value => rfl
  | array elements => rfl
  | object members => rfl

def tags : Source → List Source
  | .object members => Source.under "kind" members
  | .array (first :: _) => [first]
  | _ => []

theorem accepted_tag {v : Source} {e : ClientFailure} (accepted : Accepted e v) :
    ∃ pieces, tags v = [.text pieces] ∧ Sense.exact.text pieces = some e.kind.name := by
  cases accepted with
  | object kind named _ _ _ _ _ _ =>
      cases named with
      | text known => exact ⟨_, kind, known⟩
  | array named _ _ =>
      cases named with
      | text known => exact ⟨_, rfl, known⟩

end ClientFailure

structure NameAnswered (name : String) (s : Status) (alone : Except ReadError Kind)
    (tagged : Except ReadError ClientFailure) : Prop where
  kind : ∀ k, alone = .ok k ↔ k.name = name
  tag : ∀ k, (∃ e, tagged = .ok e ∧ e.kind = k) ↔ k.name = name
  status : ∀ e, tagged = .ok e → e.status = s
  unknown : (∀ k : Kind, k.name ≠ name) →
    ∃ reason, alone = .error (.mismatch reason) ∧ tagged = .error (.mismatch reason) ∧
      reason.message = "unknown variant `" ++ name ++
        "`, expected one of `protocol`, `control`, `transport`, `configuration`, `other`"

theorem named_answered (name : String) (s : Status) :
    NameAnswered name s (mismatched (Kind.named name))
      (mismatched ((Kind.named name).map fun k => ClientFailure.ofKind k s)) where
  kind := by
    intro k
    rw [mismatched_eq_ok, Kind.named_ok]
  tag := by
    intro k
    simp only [mismatched_eq_ok, except_map_eq_ok, ← @Kind.named_ok _ k]
    constructor
    · rintro ⟨_, ⟨k', known, rfl⟩, rfl⟩
      rwa [ClientFailure.kind_of_kind]
    · intro known
      exact ⟨_, ⟨k, known, rfl⟩, ClientFailure.kind_of_kind k s⟩
  status := by
    intro e good
    obtain ⟨k, _, rfl⟩ := except_map_eq_ok.mp (mismatched_eq_ok.mp good)
    exact ClientFailure.status_of_kind k s
  unknown := by
    intro unknown
    rw [Kind.named_unknown unknown]
    exact ⟨_, rfl, rfl, Kind.unknown_message name⟩

/-- A string is read as a kind exactly when an object with it as its kind is read as a failure of
that kind, and is otherwise refused by both with one message. Only by itself a kind has a second
notation, as an object. -/
theorem kind_names_agree :
    (∀ k : Kind, k.name = snakeCase k.title ∧ k.name = snakeCase (ClientFailure.variant k)) ∧
    (∀ (release : Release) (name : String) (s : Status) (v : Source) (t u : String),
      v.Says name → v.Fills t.toList → TaggedText (.text name) s u →
        NameAnswered name s (Kind.decodeIn release t) (ClientFailure.decode u)) ∧
    (∀ (release : Release) (t : String) (k : Kind),
      Kind.decodeIn release t = .ok k ↔ ∃ v : Source, v.Fills t.toList ∧ Kind.Accepted k v) ∧
    (∀ (v : Source) (u : String) (e : ClientFailure), v.Fills u.toList →
      ClientFailure.decode u = .ok e →
        ∃ pieces, ClientFailure.tags v = [.text pieces] ∧
          Sense.exact.text pieces = some e.kind.name) ∧
    ∀ (tag : Json) (s : Status) (u : String), TaggedText tag s u → (∀ name, tag ≠ .text name) →
      ClientFailure.decode u = .error (.mismatch (.wrongType tag.shape "variant identifier")) := by
  have named (k : Kind) :
      k.name = snakeCase k.title ∧ k.name = snakeCase (ClientFailure.variant k) :=
    ⟨(congrFun Kind.wire_name k).symm, (congrFun ClientFailure.tag_eq k).symm⟩
  refine ⟨named, ?_, fun release t k => Kind.decode_ok_iff release, ?_,
    fun tag s u => ClientFailure.decode_tag_refused⟩
  · intro release name s v t u said fills tagged
    rw [Kind.decode_string release fills said, ClientFailure.decode_tag tagged]
    exact named_answered name s
  · intro v u e fills decoded
    rw [ClientFailure.decode, ClientFailure.read,
      read_all_fills (ClientFailure.read_reads ClientFailure.nesting) fills,
      ClientFailure.outcome_accepted] at decoded
    exact ClientFailure.accepted_tag decoded

theorem second_notation_only_alone :
    Kind.decode "\x7b\"control\":null\x7d" = .ok .control ∧
      ClientFailure.decode
          "\x7b\"kind\":\x7b\"control\":null\x7d,\"message\":\"m\",\"code\":4\x7d" =
        .error (.mismatch (.wrongType .object "variant identifier")) ∧
      (∃ reason, Kind.decode "\"mqtt\"" = .error (.mismatch reason) ∧
        ClientFailure.decode "\x7b\"kind\":\"mqtt\",\"message\":\"m\",\"code\":4\x7d" =
          .error (.mismatch reason) ∧
        reason.message = "unknown variant `" ++ "mqtt" ++
          "`, expected one of `protocol`, `control`, `transport`, `configuration`, `other`") ∧
      ∃ members pieces, (Source.object members).Fills
          "\x7b\"kind\":\"control\",\"message\":\"m\",\"code\":4\x7d".toList ∧
        Source.under "kind" members = [.text pieces] ∧
        Sense.exact.text pieces = some "control" := by
  obtain ⟨_, agree, accepts, plain, refuses⟩ := kind_names_agree
  have single : Faithful 126 (.object [("control", .null)]) :=
    object_faithful (List.forall_mem_singleton.mpr ⟨.null, .null, rfl, Nat.zero_le 125⟩)
  have keyed := Source.Fills.mk blank_nil (.object (.items (.last blank_nil
    (.mk (plain_quoted ['c', 'o', 'n', 't', 'r', 'o', 'l'] (by simp)) blank_nil blank_nil .null)
    blank_nil))) blank_nil
  have control := Source.Fills.mk blank_nil
    (.text (plain_quoted ['c', 'o', 'n', 't', 'r', 'o', 'l'] (by simp))) blank_nil
  have mqtt := Source.Fills.mk blank_nil
    (.text (plain_quoted ['m', 'q', 't', 't'] (by simp))) blank_nil
  -- The texts are those that the objects are written as.
  have nested := tagged_text single ⟨"m", 4⟩
  have unknown := tagged_text (text_faithful "mqtt" 126) ⟨"m", 4⟩
  have known := tagged_text (text_faithful "control" 126) ⟨"m", 4⟩
  rw [show Json.compact _ =
    "\x7b\"kind\":\x7b\"control\":null\x7d,\"message\":\"m\",\"code\":4\x7d" by decide +kernel]
    at nested
  rw [show Json.compact _ =
    "\x7b\"kind\":\"mqtt\",\"message\":\"m\",\"code\":4\x7d" by decide +kernel] at unknown
  rw [show Json.compact _ =
    "\x7b\"kind\":\"control\",\"message\":\"m\",\"code\":4\x7d" by decide +kernel] at known
  refine ⟨(accepts .newer _ _).mpr ⟨_, keyed, .member rfl⟩, refuses _ _ _ nested nofun, ?_, ?_⟩
  · refine (agree .newer "mqtt" _ _ "\"mqtt\"" _ (.text rfl) mqtt unknown).unknown ?_
    intro k
    cases k <;> decide
  · obtain ⟨e, decoded, kind⟩ :=
      ((agree .newer "control" _ _ "\"control\"" _ (.text rfl) control known).tag .control).mpr rfl
    obtain ⟨_, ⟨members, _, _, fills⟩, _⟩ := known
    obtain ⟨pieces, only, name⟩ := plain _ _ e fills decoded
    rw [kind] at name
    exact ⟨members, pieces, fills, only, name⟩

end MqttFailure
