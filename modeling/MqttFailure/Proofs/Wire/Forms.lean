import MqttFailure.Proofs.Json.Parts
import MqttFailure.Proofs.Wire.Texts
set_option autoImplicit false

namespace MqttFailure

open Json
open Json.Reader

theorem Json.Source.judged_map {α β : Type} (judge : Shape → Except Mismatch α) (f : α → β)
    (v : Source) :
    (v.judged fun shape => do return f (← judge shape)) = (v.judged judge).map f := by
  rw [judged, judged]
  cases v.shown .exact with
  | error e => rfl
  | ok shape =>
      change mismatched (judge shape >>= fun a => pure (f a)) = (mismatched (judge shape)).map f
      cases judge shape <;> rfl

theorem Field.of_key_name (field : Field) : Field.ofKey? field.name = some field := by
  cases field <;> rfl

namespace Status

variable {message code : List Piece}

theorem member_at {f : Fields} {field : Field} {pieces : List Piece} (v : Source)
    (named : Sense.exact.text pieces = some field.name) (free : f.has field = false) :
    memberOutcome f (pieces, v) = v.judged (f.fill field) := by
  have slot : f.slot field.name = .ok (some field) := by
    rw [Fields.slot, field.of_key_name]
    simp only [free]
    rfl
  rw [memberOutcome, keyed_outcome_named named, slot]
  rfl

theorem message_first (v : Source) (named : Sense.exact.text message = some "message") :
    memberOutcome Fields.none (message, v) =
      (v.judged Shape.asText).map fun text => ⟨some text, none⟩ :=
  (@member_at _ .message _ v named rfl).trans (v.judged_map _ _)

theorem code_second (text : String) (v : Source) (named : Sense.exact.text code = some "code") :
    memberOutcome ⟨some text, none⟩ (code, v) =
      (v.judged Shape.asCode).map fun number => ⟨some text, some number⟩ :=
  (@member_at _ .code _ v named rfl).trans (v.judged_map _ _)

theorem members_outcome_two (record : String) (m c : Source)
    (messageKey : Sense.exact.text message = some "message")
    (codeKey : Sense.exact.text code = some "code") :
    membersOutcome [(message, m), (code, c)] = elementsOutcome record [m, c] := by
  rw [membersOutcome, List.foldlM_cons, message_first m messageKey, elementsOutcome]
  cases m.judged Shape.asText with
  | error e => rfl
  | ok text =>
      change ([(code, c)].foldlM memberOutcome ⟨some text, none⟩ >>= fun fields =>
        mismatched fields.finish) = secondOutcome record text [c]
      rw [List.foldlM_cons, code_second text c codeKey, secondOutcome]
      cases c.judged Shape.asCode <;> rfl

theorem read_all_two {α : Type} (f : Status → α) (record : String) {m c t u : String}
    (messageKey : Sense.exact.text message = some "message")
    (codeKey : Sense.exact.text code = some "code")
    (values : ∀ part ∈ [m, c], ∃ depth, Nested depth part) (list : ListOf [m, c] t.toList)
    (object : ObjectOf [(message, m), (code, c)] u.toList) :
    readAll (do return f (← read record)) t = readAll (do return f (← read record)) u := by
  obtain ⟨source, fills⟩ := sources_exist values
  have reads := collect_reads (read_reads record) f
  rw [read_all_fills reads (list.fills fills),
    read_all_fills reads (object.fills fills)]
  exact congrArg (Except.map f)
    (members_outcome_two record (source m) (source c) messageKey codeKey).symm

theorem of_members_two (record : String) (m c : Json) :
    ofMembers [("message", m), ("code", c)] = ofElements record [m, c] := by
  rw [of_members_eq, List.foldlM_cons, Fields.take_message, ofElements]
  cases m.shape.asText with
  | error reason => rfl
  | ok text =>
      change ([("code", c)].foldlM Fields.take ⟨some text, none⟩ >>= Fields.finish) = _
      rw [List.foldlM_cons, Fields.take_code]
      cases c.shape.asCode <;> rfl

end Status

namespace ClientFailure

namespace Draft

variable {depth : Nat} {pieces : List Piece}

theorem member_kind {d : Draft} (free : d.kind = none) (v : Source)
    (named : Sense.exact.text pieces = some "kind") :
    d.memberOutcome depth (pieces, v) =
      (v.judged Kind.ofShape).map fun k => { d with kind := some k } := by
  have spotted : d.spot "kind" = .ok true := by
    rw [spot, if_pos rfl, claimKind, free]
    rfl
  rw [memberOutcome, keyed_outcome_named named, spotted]
  rfl

theorem member_other (d : Draft) {name : String} (other : name ≠ "kind") (v : Source)
    (named : Sense.exact.text pieces = some name) :
    d.memberOutcome depth (pieces, v) =
      (v.outcome .exact depth).map fun j => { d with members := (name, j) :: d.members } := by
  have spotted : d.spot name = .ok false := if_neg other
  rw [memberOutcome, keyed_outcome_named named, spotted]
  rfl

end Draft

variable {kind message code : List Piece}

theorem outcome_three (depth : Nat) (k m c : Source)
    (kindKey : Sense.exact.text kind = some "kind")
    (messageKey : Sense.exact.text message = some "message")
    (codeKey : Sense.exact.text code = some "code") :
    outcome (depth + 1) (.object [(kind, k), (message, m), (code, c)]) =
      outcome (depth + 1) (.array [k, m, c]) := by
  rw [outcome, outcome, List.foldlM_cons, Draft.member_kind rfl k kindKey]
  cases k.judged Kind.ofShape with
  | error e => rfl
  | ok judged =>
      change ([(message, m), (code, c)].foldlM (Draft.memberOutcome depth) ⟨some judged, []⟩ >>=
        fun draft => mismatched draft.finish) = ([m, c].mapM (Source.outcome .exact depth) >>=
          fun elements => mismatched (ofElements judged elements))
      rw [List.foldlM_cons, List.mapM_cons, Draft.member_other _ (by decide) m messageKey]
      cases m.outcome .exact depth with
      | error e => rfl
      | ok first =>
          change ([(code, c)].foldlM (Draft.memberOutcome depth) ⟨some judged, [("message", first)]⟩
            >>= fun draft => mismatched draft.finish) = _
          rw [List.foldlM_cons, List.mapM_cons, Draft.member_other _ (by decide) c codeKey]
          cases c.outcome .exact depth with
          | error e => rfl
          | ok second =>
              change mismatched ((Status.ofMembers [("message", first), ("code", second)]).map _) =
                mismatched ((Status.ofElements judged.record [first, second]).map _)
              rw [Status.of_members_two judged.record]

theorem decode_three {k m c t u : String}
    (kindKey : Sense.exact.text kind = some "kind")
    (messageKey : Sense.exact.text message = some "message")
    (codeKey : Sense.exact.text code = some "code")
    (values : ∀ part ∈ [k, m, c], ∃ depth, Nested depth part) (list : ListOf [k, m, c] t.toList)
    (object : ObjectOf [(kind, k), (message, m), (code, c)] u.toList) : decode t = decode u := by
  obtain ⟨source, fills⟩ := sources_exist values
  rw [decode, decode, read, read_all_fills (read_reads nesting) (list.fills fills),
    read_all_fills (read_reads nesting) (object.fills fills)]
  exact (outcome_three 126 (source k) (source m) (source c) kindKey messageKey codeKey).symm

end ClientFailure

/-- A list of the parts is read as the object that has them in the same order, or refused for the
same reason, whatever values they are. -/
theorem positional_as_keyed {kind message code : List Piece} {m c : String}
    (kindKey : Sense.exact.text kind = some "kind")
    (messageKey : Sense.exact.text message = some "message")
    (codeKey : Sense.exact.text code = some "code")
    (values : ∀ part ∈ [m, c], ∃ depth, Nested depth part) :
    (∀ k t u : String, (∃ depth, Nested depth k) → ListOf [k, m, c] t.toList →
      ObjectOf [(kind, k), (message, m), (code, c)] u.toList →
        ClientFailure.decode t = ClientFailure.decode u) ∧
    ∀ t u : String, ListOf [m, c] t.toList → ObjectOf [(message, m), (code, c)] u.toList →
      ProtocolFailure.decode t = ProtocolFailure.decode u ∧
        ControlFailure.decode t = ControlFailure.decode u := by
  constructor
  · intro k t u value list object
    exact ClientFailure.decode_three kindKey messageKey codeKey
      (List.forall_mem_cons.mpr ⟨value, values⟩) list object
  · intro t u list object
    exact ⟨Status.read_all_two ProtocolFailure.mk Kind.protocol.record messageKey codeKey values
        list object,
      Status.read_all_two ControlFailure.mk Kind.control.record messageKey codeKey values
        list object⟩

theorem text_for_code_refused :
    ClientFailure.decode "[\"other\", \"m\",\"1\"]" =
        ClientFailure.decode
          "\x7b\"kind\":\"other\",\"message\": \"m\",\"code\":\"1\"\x7d" ∧
      ProtocolFailure.decode "[ \"m\",\"1\"]" =
        ProtocolFailure.decode "\x7b\"message\": \"m\",\"code\":\"1\"\x7d" ∧
      ControlFailure.decode "[ \"m\",\"1\"]" =
        ControlFailure.decode "\x7b\"message\": \"m\",\"code\":\"1\"\x7d" := by
  have space : Blank [' '] := List.forall_mem_singleton.mpr rfl
  have message := plain_quoted ['m', 'e', 's', 's', 'a', 'g', 'e'] (by simp)
  have code := plain_quoted ['c', 'o', 'd', 'e'] (by simp)
  have k : ∃ depth, Nested depth "\"other\"" :=
    ⟨0, .text (['o', 't', 'h', 'e', 'r'].map .char),
      .mk blank_nil (.text (plain_quoted ['o', 't', 'h', 'e', 'r'] (by simp))) blank_nil, rfl⟩
  have m : ∃ depth, Nested depth " \"m\"" :=
    ⟨0, .text [.char 'm'], .mk space (.text (plain_quoted ['m'] (by simp))) blank_nil, rfl⟩
  have c : ∃ depth, Nested depth "\"1\"" :=
    ⟨0, .text [.char '1'], .mk blank_nil (.text (plain_quoted ['1'] (by simp))) blank_nil, rfl⟩
  have values : ∀ part ∈ [" \"m\"", "\"1\""], ∃ depth, Nested depth part :=
    List.forall_mem_cons.mpr ⟨m, List.forall_mem_singleton.mpr c⟩
  have agree := @positional_as_keyed (['k', 'i', 'n', 'd'].map .char)
    (['m', 'e', 's', 's', 'a', 'g', 'e'].map .char) (['c', 'o', 'd', 'e'].map .char)
    " \"m\"" "\"1\"" rfl rfl rfl values
  constructor
  · exact agree.1 "\"other\"" _ _ k
      (.mk blank_nil (.items (.cons blank_nil rfl blank_nil (.cons blank_nil rfl blank_nil
        (.last blank_nil rfl blank_nil)))) blank_nil)
      (.mk blank_nil (.items (.cons blank_nil
        (.mk (plain_quoted ['k', 'i', 'n', 'd'] (by simp)) blank_nil blank_nil rfl) blank_nil
        (.cons blank_nil (.mk message blank_nil blank_nil rfl) blank_nil
          (.last blank_nil (.mk code blank_nil blank_nil rfl) blank_nil)))) blank_nil)
  · exact agree.2 _ _
      (.mk blank_nil (.items (.cons blank_nil rfl blank_nil (.last blank_nil rfl blank_nil)))
        blank_nil)
      (.mk blank_nil (.items (.cons blank_nil (.mk message blank_nil blank_nil rfl) blank_nil
        (.last blank_nil (.mk code blank_nil blank_nil rfl) blank_nil))) blank_nil)

end MqttFailure
