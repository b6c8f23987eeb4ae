import MqttFailure.Proofs.Json.CutItems
import MqttFailure.Proofs.Wire.Names
import MqttFailure.Proofs.Wire.RoundTrip
set_option autoImplicit false

namespace MqttFailure

open Json
open Json.Reader

variable {β : Type}

theorem judged_text_needs (judgement : Shape → Except Mismatch β) (s : String) :
    Needs (do
      let shape ← head .exact
      judge (judgement shape)) (string s) :=
  bind_needs (head_text_needs s)

theorem judged_integer_hungry {judgement : Shape → Except Mismatch β} {n : Int}
    (word : Numeral.Word n)
    (good : ∀ m, min 0 n ≤ m → m ≤ max 0 n →
      ∃ b, judgement (.number (.integer m)) = .ok b) :
    Hungry (do
      let shape ← head .exact
      judge (judgement shape)) (toString n).toList := by
  intro p inside proper
  rcases head_integer_cut word inside proper with ended | ⟨m, taken, low, high⟩
  · exact .inl (ended.bind _)
  · obtain ⟨b, judged⟩ := good m low high
    refine .inr ⟨b, (bind_run_ok taken).trans ?_⟩
    rw [judged]
    rfl

theorem value_text_needs (depth : Nat) (s : String) : Needs (value .exact depth) (string s) := by
  obtain ⟨inner, same⟩ := value_over .exact depth
  rw [same]
  exact bind_needs (head_text_needs s)

theorem value_integer_hungry (depth : Nat) {n : Int} (word : Numeral.Word n) :
    Hungry (value .exact depth) (toString n).toList := by
  obtain ⟨inner, same⟩ := value_over .exact depth
  rw [same]
  intro p inside proper
  rcases head_integer_cut word inside proper with ended | ⟨m, taken, _, _⟩
  · exact .inl (ended.bind _)
  · exact .inr ⟨_, value_over_scalar rfl taken⟩

namespace Kind

theorem read_needs (k : Kind) (release : Release) : Needs (readIn release) (string k.name) := by
  intro p inside proper
  rcases prefix_cons inside proper with rfl | ⟨q, rfl, inside, proper⟩
  · exact ⟨.value, rfl⟩
  · have opened : readIn release ('"' :: q) = readQuoted q := read_opening release blank_nil rfl q
    rw [opened]
    exact (string_body_needs k.name q inside proper).bind _

end Kind

namespace Status

theorem as_code_between (c : Int32) {m : Int} (low : min 0 c.toInt ≤ m)
    (high : m ≤ max 0 c.toInt) : Shape.asCode (.number (.integer m)) = .ok (Int32.ofInt m) := by
  have least := c.le_toInt
  have most := c.toInt_lt
  rw [Shape.asCode, if_pos (by omega)]

theorem member_takes {f f' : Fields} {key : String} {j : Json} (faithful : Faithful 0 j)
    (taken : f.take (key, j) = .ok f') :
    Takes (readMember f) (string key ++ ':' :: compactChars j) f' := by
  refine takes_keyed (member_reads f) faithful ?_
  intro m named meant _
  rw [member_sense f named meant, taken]
  rfl

theorem message_hungry (s : String) :
    Hungry (readMember Fields.none) (string "message" ++ ':' :: compactChars (.text s)) := by
  have slot : Fields.none.slot "message" = .ok (some .message) := rfl
  exact keyed_hungry slot (judged_text_needs (Fields.none.fill .message) s).hungry

theorem code_hungry (message : String) (c : Int32) :
    Hungry (readMember ⟨some message, none⟩)
      (string "code" ++ ':' :: compactChars (.number (.integer c.toInt))) := by
  have slot : (Fields.mk (some message) none).slot "code" = .ok (some .code) := rfl
  refine keyed_hungry slot (judged_integer_hungry (code_word c) ?_)
  intro m low high
  refine ⟨⟨some message, some (Int32.ofInt m)⟩, ?_⟩
  rw [Fields.fill, as_code_between c low high]
  rfl

theorem members_sequence (s : Status) :
    Sequence readMember '"' Fields.none (compactMembers s.members) := by
  have message : Takes (readMember Fields.none)
      (string "message" ++ ':' :: compactChars (.text s.message)) ⟨some s.message, none⟩ :=
    member_takes (text_faithful s.message 0) rfl
  have code : Takes (readMember ⟨some s.message, none⟩)
      (string "code" ++ ':' :: compactChars (.number (.integer s.code.toInt)))
      ⟨some s.message, some s.code⟩ := by
    refine member_takes (integer_faithful (code_word s.code) 0) ?_
    have judged : Shape.asCode (.number (.integer s.code.toInt)) = .ok s.code := as_code_ok.mpr rfl
    rw [Fields.take_code]
    change (Shape.asCode (.number (.integer s.code.toInt))).map _ = _
    rw [judged]
    rfl
  have sequence : Sequence readMember '"' Fields.none _ :=
    .cons rfl message (message_hungry s.message) (.last rfl code (code_hungry s.message s.code))
  rw [List.append_assoc] at sequence
  exact sequence

theorem read_needs (record : String) (s : Status) :
    Needs (read record) (compactChars s.toJson) :=
  by_shape_object_needs (bind_needs (items_needs s.members_sequence rfl (by decide)))

end Status

namespace ClientFailure

namespace Draft

theorem member_takes {depth : Nat} {d d' : Draft} {key : String} {j : Json}
    (faithful : Faithful 0 j) (taken : d.take (key, j) = .ok d') :
    Takes (readMember depth d) (string key ++ ':' :: compactChars j) d' := by
  refine takes_keyed (member_reads depth d) faithful ?_
  intro m named meant fits
  rw [member_sense d named meant (Nat.le_trans fits (Nat.zero_le depth)), taken]
  rfl

theorem kind_hungry (depth : Nat) (k : Kind) :
    Hungry (readMember depth Draft.empty)
      (string "kind" ++ ':' :: compactChars (.text k.name)) := by
  have spot : Draft.empty.spot "kind" = .ok true := rfl
  rw [read_member_eq]
  exact keyed_hungry spot (bind_needs (judged_text_needs Kind.ofShape k.name)).hungry

theorem other_hungry {depth : Nat} (d : Draft) {key : String} (other : key ≠ "kind") {j : Json}
    (hungry : Hungry (value .exact depth) (compactChars j)) :
    Hungry (readMember depth d) (string key ++ ':' :: compactChars j) := by
  have spot : d.spot key = .ok false := if_neg other
  rw [read_member_eq]
  refine keyed_hungry spot ?_
  intro p inside proper
  rcases hungry p inside proper with ended | ⟨v, taken⟩
  · exact .inl (ended.bind _)
  · exact .inr ⟨_, bind_run_ok taken⟩

end Draft

theorem members_sequence (depth : Nat) (e : ClientFailure) :
    Sequence (readMember depth) '"' Draft.empty
      (compactMembers (("kind", .text e.kind.name) :: e.status.members)) := by
  have kind : Takes (readMember depth Draft.empty)
      (string "kind" ++ ':' :: compactChars (.text e.kind.name)) ⟨some e.kind, []⟩ := by
    have judged : Kind.ofShape (.text e.kind.name) = .ok e.kind := Kind.of_shape_ok.mpr rfl
    refine Draft.member_takes (text_faithful e.kind.name 0) ?_
    rw [Draft.take_kind]
    change (Kind.ofShape (.text e.kind.name)).map _ = _
    rw [judged]
    rfl
  have message : Takes (readMember depth ⟨some e.kind, []⟩)
      (string "message" ++ ':' :: compactChars (.text e.message))
      ⟨some e.kind, [("message", .text e.message)]⟩ :=
    Draft.member_takes (text_faithful e.message 0) (Draft.take_other _ (by decide) _)
  have code : Takes (readMember depth ⟨some e.kind, [("message", .text e.message)]⟩)
      (string "code" ++ ':' :: compactChars (.number (.integer e.code.toInt)))
      ⟨some e.kind, [("code", .number (.integer e.code.toInt)), ("message", .text e.message)]⟩ :=
    Draft.member_takes (integer_faithful (code_word e.code) 0)
      (Draft.take_other _ (by decide) _)
  have last : Sequence (readMember depth) '"' _ _ := .last rfl code
    (Draft.other_hungry _ (by decide) (value_integer_hungry depth (code_word e.code)))
  have others := Sequence.cons rfl message
    (Draft.other_hungry _ (by decide) (value_text_needs depth e.message).hungry) last
  have sequence := Sequence.cons rfl kind (Draft.kind_hungry depth e.kind) others
  rw [List.append_assoc, List.append_assoc] at sequence
  exact sequence

theorem read_needs (depth : Nat) (e : ClientFailure) :
    Needs (readAt (depth + 1)) (compactChars e.toJson) := by
  rw [read_at_succ, to_json_eq]
  exact by_shape_object_needs (bind_needs (items_needs (e.members_sequence depth) rfl (by decide)))

theorem read_takes (depth : Nat) (e : ClientFailure) :
    Takes (readAt (depth + 1)) (compactChars e.toJson) e := by
  obtain ⟨v, written, known⟩ := e.own_outcome depth
  intro rest stops
  exact (read_reads (depth + 1)).forward_ok blank_nil written stops known

def listItem (read : List ClientFailure) : Reader (List ClientFailure) := do
  let failure ← readAt (nesting - 1)
  return failure :: read

theorem list_sequence (e : ClientFailure) (es read : List ClientFailure) :
    Sequence listItem '{' read (compactElements ((e :: es).map toJson)) := by
  have takes (e : ClientFailure) (read : List ClientFailure) :
      Takes (listItem read) (compactChars e.toJson) (e :: read) :=
    fun rest stops => bind_run_ok (e.read_takes _ rest stops)
  have hungry (e : ClientFailure) (read : List ClientFailure) :
      Hungry (listItem read) (compactChars e.toJson) :=
    (bind_needs (e.read_needs _)).hungry
  induction es generalizing e read with
  | nil => exact .last rfl (takes e read) (hungry e read)
  | cons e' es ih => exact .cons rfl (takes e read) (hungry e read) (ih e' (e :: read))

theorem list_needs (es : List ClientFailure) :
    Needs readList (compactChars (.array (es.map toJson))) := by
  rw [read_list_eq]
  refine by_shape_array_needs (bind_needs ?_)
  cases es with
  | nil =>
      intro p inside proper
      rcases prefix_cons inside proper with rfl | ⟨q, rfl, inside, proper⟩
      · exact ⟨.list, rfl⟩
      · exact absurd (List.prefix_nil.mp inside) proper
  | cons e es =>
      exact items_needs (list_sequence e es []) rfl (by decide)

end ClientFailure

def CutNoticed {α : Type} (encode : α → String) (decode : String → Except ReadError α) : Prop :=
  ∀ (a : α) (p s : String), p ++ s = encode a → s ≠ "" →
    ∃ place, decode p = .error (.truncated place)

theorem read_all_noticed {α : Type} {toJson : α → Json} {reader : Reader α}
    (needs : ∀ a, Needs reader (compactChars (toJson a))) :
    CutNoticed (fun a => (toJson a).compact) (readAll reader) := by
  intro a p s cut some
  refine read_all_needs ?_ cut some
  have whole : (toJson a).compact.toList = compactChars (toJson a) := String.toList_ofList
  rw [whole]
  exact needs a

/-- Whatever is written, text that stops before its end is reported as ending too early: it is never
accepted, and never called malformed or a mismatch. -/
theorem cuts_noticed :
    (∀ release, CutNoticed Kind.encode (Kind.decodeIn release)) ∧
      CutNoticed ProtocolFailure.encode ProtocolFailure.decode ∧
      CutNoticed ControlFailure.encode ControlFailure.decode ∧
      CutNoticed ClientFailure.encode ClientFailure.decode ∧
      CutNoticed ClientFailure.encodeList ClientFailure.decodeList := by
  refine ⟨?_, ?_, ?_, ?_, ?_⟩
  · intro release
    refine read_all_noticed fun k => ?_
    rw [Kind.to_json_eq]
    exact k.read_needs release
  · exact read_all_noticed fun e => bind_needs (Status.read_needs _ e.toStatus)
  · exact read_all_noticed fun e => bind_needs (Status.read_needs _ e.toStatus)
  · exact read_all_noticed (ClientFailure.read_needs _)
  · exact read_all_noticed ClientFailure.list_needs

theorem cut_code_noticed :
    ∃ place, ProtocolFailure.decode "\x7b\"message\":\"\\\"\",\"code\":-1" =
      .error (.truncated place) := by
  have cut : "\x7b\"message\":\"\\\"\",\"code\":-1" ++ "2\x7d" =
      ProtocolFailure.encode ⟨⟨"\"", -12⟩⟩ := by decide
  exact cuts_noticed.2.1 ⟨⟨"\"", -12⟩⟩ _ "2\x7d" cut (by decide)

end MqttFailure
