import MqttFailure.Proofs.Json.Compact
import MqttFailure.Proofs.Wire.Names
import MqttFailure.Proofs.Wire.Texts
set_option autoImplicit false

namespace MqttFailure

open Json
open Json.Reader

-- The same value as a map without an order of its own may give it back: the
-- elements of arrays stay in place, and the members of an object come in any
-- order.
inductive Json.Rearranged : Json → Json → Prop where
  | object {members members' : List (String × Json)} :
      members.Perm members' → Rearranged (.object members) (.object members')
  | empty : Rearranged (.array []) (.array [])
  | element {v v' : Json} {vs vs' : List Json} :
      Rearranged v v' → Rearranged (.array vs) (.array vs') →
      Rearranged (.array (v :: vs)) (.array (v' :: vs'))

namespace Status

theorem member_faithful (s : Status) : ∀ m ∈ s.members, Faithful 0 m.2 := by
  intro m found
  simp only [members, List.mem_cons, List.not_mem_nil, or_false] at found
  rcases found with rfl | rfl
  · exact text_faithful s.message 0
  · exact integer_faithful (code_word s.code) 0

theorem under_members (s : Status) :
    under "message" s.members = [.text s.message] ∧
      under "code" s.members = [.number (.integer s.code.toInt)] := by
  rw [members, under_same, under_other (by decide), under_other (by decide), under_same]
  exact ⟨rfl, rfl⟩

theorem to_json_faithful (s : Status) : Faithful 1 s.toJson := object_faithful s.member_faithful

theorem read_all_compact {α : Type} (f : Status → α) (record : String) (s : Status) :
    readAll (do return f (← read record)) s.toJson.compact = .ok (f s) := by
  obtain ⟨v, fills, meant, _⟩ := s.to_json_faithful.fills
  cases Source.means_of_json meant with
  | object known =>
      rw [read_all_object f record known fills, of_members_ok.mpr s.under_members]
      rfl

theorem of_json_rearranged (record : String) {s : Status} {v : Json}
    (rearranged : Rearranged s.toJson v) : ofJson record v = .ok s := by
  cases rearranged with
  | object perm =>
      have own := s.under_members
      exact of_members_ok.mpr ⟨under_perm perm own.1, under_perm perm own.2⟩

end Status

namespace Kind

theorem named_name (k : Kind) : named k.name = .ok k := named_ok.mpr rfl

theorem decode_own_name (k : Kind) (release : Release) :
    decodeIn release k.encode = .ok k := by
  obtain ⟨v, fills, meant, _⟩ := (text_faithful k.name 0).fills
  rw [decodeIn, encode, to_json_eq, read_all_fills (read_reads release) fills]
  cases Source.means_of_json meant with
  | text known =>
      rw [outcome, read_text_eq_ok.mpr known]
      exact congrArg mismatched k.named_name

end Kind

namespace ClientFailure

theorem member_faithful (e : ClientFailure) :
    ∀ m ∈ ("kind", .text e.kind.name) :: e.status.members, Faithful 0 m.2 := by
  rw [List.forall_mem_cons]
  exact ⟨text_faithful e.kind.name 0, e.status.member_faithful⟩

theorem to_json_faithful (e : ClientFailure) : Faithful 1 e.toJson := by
  rw [to_json_eq]
  exact object_faithful e.member_faithful

theorem under_members (e : ClientFailure) :
    under "kind" (("kind", .text e.kind.name) :: e.status.members) = [.text e.kind.name] ∧
      under "message" (("kind", .text e.kind.name) :: e.status.members) = [.text e.message] ∧
      under "code" (("kind", .text e.kind.name) :: e.status.members) =
        [.number (.integer e.code.toInt)] := by
  rw [under_other (by decide : "kind" ≠ "message"), under_other (by decide : "kind" ≠ "code")]
  refine ⟨?_, e.status.under_members⟩
  rw [under_same, Status.members, under_other (by decide), under_other (by decide)]
  rfl

theorem of_json_rearranged {e : ClientFailure} {v : Json} (rearranged : Rearranged e.toJson v) :
    ofJson v = .ok e := by
  rw [to_json_eq] at rearranged
  cases rearranged with
  | object perm =>
      obtain ⟨kind, message, code⟩ := e.under_members
      exact of_object_ok.mpr ⟨under_perm perm kind, under_perm perm message, under_perm perm code⟩

theorem of_own_json (e : ClientFailure) : ofJson e.toJson = .ok e :=
  of_json_rearranged (.object (.refl _))

theorem own_outcome (depth : Nat) (e : ClientFailure) :
    ∃ v : Source, v.Written (compactChars e.toJson) ∧ outcome (depth + 1) v = .ok e := by
  obtain ⟨v, written, meant, fits⟩ := e.to_json_faithful
  have shallow : v.depth ≤ depth + 1 := Nat.le_trans fits (Nat.succ_le_succ (Nat.zero_le depth))
  refine ⟨v, written, ?_⟩
  rw [outcome_sense meant shallow, of_own_json]
  rfl

theorem decode_own_text (e : ClientFailure) : decode e.encode = .ok e := by
  obtain ⟨v, written, known⟩ := e.own_outcome (nesting - 1)
  exact (read_all_fills (read_reads nesting) (written_fills written)).trans known

theorem list_rearranged {es : List ClientFailure} {v : Json}
    (rearranged : Rearranged (.array (es.map toJson)) v) : listOfJson v = .ok es := by
  induction es generalizing v with
  | nil =>
      cases rearranged
      rfl
  | cons e rest ih =>
      cases rearranged with
      | @element _ v' _ vs' first others =>
          have read : vs'.mapM ofJson = .ok rest := ih others
          rw [listOfJson, List.mapM_cons, of_json_rearranged first, read]
          rfl

theorem list_own_json (es : List ClientFailure) : (es.map toJson).mapM ofJson = .ok es := by
  induction es with
  | nil => rfl
  | cons e rest ih =>
      rw [List.map_cons, List.mapM_cons, of_own_json, ih]
      rfl

theorem outcomes_sense {depth : Nat} {vs : List Source} {js : List Json}
    (known : Source.elements? .exact vs = some js) (fits : Source.elementsDepth vs ≤ depth) :
    vs.mapM (outcome depth) = mismatched (js.mapM ofJson) := by
  induction vs generalizing js with
  | nil =>
      cases known
      rfl
  | cons v rest ih =>
      have fits' := Nat.max_le.mp fits
      simp only [Source.elements?, Option.bind_eq_bind, Option.bind_eq_some_iff] at known
      obtain ⟨j, meant, js', known', same⟩ := known
      cases same
      rw [List.mapM_cons, List.mapM_cons, outcome_sense meant fits'.1, ih known' fits'.2]
      cases ofJson j with
      | error reason => rfl
      | ok e => cases js'.mapM ofJson <;> rfl

theorem decode_own_list (es : List ClientFailure) : decodeList (encodeList es) = .ok es := by
  have each : ∀ j ∈ es.map toJson, Faithful 1 j := by
    intro j found
    obtain ⟨e, _, rfl⟩ := List.mem_map.mp found
    exact e.to_json_faithful
  obtain ⟨v, fills, meant, fits⟩ := (array_faithful each).fills
  cases Source.means_of_json meant with
  | @array elements _ known =>
      have shallow : Source.elementsDepth elements ≤ nesting - 1 :=
        Nat.le_trans (Nat.le_of_succ_le_succ fits) (by decide)
      rw [decodeList, encodeList, read_all_fills list_reads fills]
      change elements.mapM (outcome (nesting - 1)) = _
      rw [outcomes_sense known shallow, list_own_json]
      rfl

end ClientFailure

/-- Failures, kinds and lists of failures are read back as what was written, from the text and from
the value in memory. -/
theorem written_read_back :
    (∀ e : ClientFailure, ClientFailure.decode e.encode = .ok e ∧
      ∀ v, Rearranged e.toJson v → ClientFailure.ofJson v = .ok e) ∧
    (∀ e : ProtocolFailure, ProtocolFailure.decode e.encode = .ok e ∧
      ∀ v, Rearranged e.toJson v → ProtocolFailure.ofJson v = .ok e) ∧
    (∀ e : ControlFailure, ControlFailure.decode e.encode = .ok e ∧
      ∀ v, Rearranged e.toJson v → ControlFailure.ofJson v = .ok e) ∧
    (∀ k : Kind, (∀ release, Kind.decodeIn release k.encode = .ok k) ∧
      Kind.ofJson k.toJson = .ok k) ∧
    (∀ es : List ClientFailure,
      ClientFailure.decodeList (ClientFailure.encodeList es) = .ok es ∧
        ∀ v, Rearranged (.array (es.map ClientFailure.toJson)) v →
          ClientFailure.listOfJson v = .ok es) := by
  refine ⟨?_, ?_, ?_, ?_, ?_⟩
  · intro e
    exact ⟨e.decode_own_text, fun v => ClientFailure.of_json_rearranged⟩
  · intro e
    refine ⟨Status.read_all_compact ProtocolFailure.mk _ e.toStatus, fun v rearranged => ?_⟩
    rw [ProtocolFailure.ofJson, Status.of_json_rearranged _ rearranged]
    rfl
  · intro e
    refine ⟨Status.read_all_compact ControlFailure.mk _ e.toStatus, fun v rearranged => ?_⟩
    rw [ControlFailure.ofJson, Status.of_json_rearranged _ rearranged]
    rfl
  · intro k
    refine ⟨k.decode_own_name, ?_⟩
    rw [Kind.to_json_eq]
    exact k.named_name
  · intro es
    exact ⟨ClientFailure.decode_own_list es, fun v => ClientFailure.list_rearranged⟩

theorem least_code_read_back :
    ClientFailure.ofJson (.object [("code", .number (.integer (-2147483648))),
      ("message", .text "\"\\"), ("kind", .text "transport")]) =
        .ok (.transport ⟨"\"\\", Int32.minValue⟩) :=
  (written_read_back.1 (.transport ⟨"\"\\", Int32.minValue⟩)).2 _
    (.object (List.reverse_perm _).symm)

end MqttFailure
