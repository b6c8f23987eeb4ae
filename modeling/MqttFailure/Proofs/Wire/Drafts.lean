import MqttFailure.Proofs.Wire.Members
set_option autoImplicit false

namespace MqttFailure.ClientFailure

open Json (Shape Mismatch)
open Json.Reader (except_bind_eq_ok)

namespace Draft

theorem take_kind (d : Draft) (v : Json) :
    d.take ("kind", v) =
      if d.kind.isSome then .error (.duplicateField "kind")
      else (Kind.ofShape v.shape).map fun k => { d with kind := some k } := by
  rw [take, if_pos rfl, claimKind]
  cases d.kind with
  | some k => rfl
  | none =>
      rw [← tag_of_shape]
      change (tagOfShape v.shape >>= fun k => pure { d with kind := some k }) = _
      cases tagOfShape v.shape <;> rfl

theorem take_other (d : Draft) {key : String} (other : key ≠ "kind") (v : Json) :
    d.take (key, v) = .ok { d with members := (key, v) :: d.members } := by
  rw [take, if_neg other]
  rfl

theorem fold_ok {members : List (String × Json)} {d d' : Draft} :
    members.foldlM take d = .ok d' ↔
      Lands Kind.ofShape d.kind (Json.under "kind" members) d'.kind ∧
        d'.members = (members.filter (·.1 ≠ "kind")).reverse ++ d.members := by
  induction members generalizing d with
  | nil =>
      rw [Json.under_nil, Lands.nil_iff]
      constructor
      · intro same
        cases same
        exact ⟨rfl, rfl⟩
      · rintro ⟨kind, others⟩
        exact congrArg Except.ok (congr (congrArg Draft.mk kind) others.symm)
  | cons m rest ih =>
      obtain ⟨key, v⟩ := m
      rw [List.foldlM_cons]
      by_cases kind : key = "kind"
      · subst kind
        rw [Json.under_same, take_kind, Lands.cons_iff]
        cases held : d.kind with
        | some k => simp [bind, Except.bind]
        | none =>
            cases judged : Kind.ofShape v.shape with
            | error reason => simp [bind, Except.bind, Except.map]
            | ok k => simpa [bind, Except.bind, Except.map] using @ih { d with kind := some k }
      · rw [take_other d kind, Json.under_other kind]
        simpa [bind, Except.bind, kind] using @ih { d with members := (key, v) :: d.members }

theorem finish_ok {d : Draft} {e : ClientFailure} :
    d.finish = .ok e ↔
      d.kind = some e.kind ∧ Status.ofMembers d.members.reverse = .ok e.status := by
  rw [finish]
  cases d.kind with
  | none => simp
  | some k =>
      simp only [Option.some.injEq]
      constructor
      · intro ran
        obtain ⟨s, read, ended⟩ := except_bind_eq_ok.mp ran
        cases ended
        rw [kind_of_kind, status_of_kind]
        exact ⟨rfl, read⟩
      · rintro ⟨rfl, read⟩
        exact except_bind_eq_ok.mpr ⟨e.status, read, congrArg Except.ok (of_kind_kind_status e)⟩

end Draft

theorem of_object_ok {members : List (String × Json)} {e : ClientFailure} :
    ofJson (.object members) = .ok e ↔
      Json.under "kind" members = [.text e.kind.name] ∧
        Json.under "message" members = [.text e.message] ∧
        Json.under "code" members = [.number (.integer e.code.toInt)] := by
  rw [ofJson, message, code, ← Json.under_without (by decide : "message" ≠ "kind"),
    ← Json.under_without (by decide : "code" ≠ "kind"), ← Status.of_members_ok]
  constructor
  · intro ran
    obtain ⟨d, folded, finished⟩ := except_bind_eq_ok.mp ran
    obtain ⟨kind, read⟩ := Draft.finish_ok.mp finished
    obtain ⟨lands, others⟩ := Draft.fold_ok.mp folded
    rw [kind] at lands
    obtain ⟨v, only, known⟩ := Lands.some_iff.mp lands
    rw [others, Draft.empty, List.append_nil, List.reverse_reverse] at read
    rw [only, Json.shape_text.mp (Kind.of_shape_ok.mp known)]
    exact ⟨rfl, read⟩
  · rintro ⟨kind, read⟩
    refine except_bind_eq_ok.mpr
      ⟨⟨some e.kind, (members.filter (·.1 ≠ "kind")).reverse⟩, ?_, ?_⟩
    · rw [Draft.fold_ok, kind]
      exact ⟨.filled (Kind.of_shape_ok.mpr rfl), (List.append_nil _).symm⟩
    · rw [Draft.finish_ok, List.reverse_reverse]
      exact ⟨rfl, read⟩

theorem of_elements_ok {k : Kind} {elements : List Json} {e : ClientFailure} :
    ofElements k elements = .ok e ↔
      k = e.kind ∧ elements = [.text e.message, .number (.integer e.code.toInt)] := by
  rw [ofElements]
  constructor
  · intro ran
    obtain ⟨s, read, ended⟩ := except_bind_eq_ok.mp ran
    cases ended
    rw [kind_of_kind, message, code, status_of_kind]
    refine ⟨rfl, ?_⟩
    cases elements with
    | nil => cases read
    | cons first rest =>
        cases rest with
        | nil =>
            obtain ⟨_, _, ended⟩ := except_bind_eq_ok.mp read
            cases ended
        | cons second rest =>
            obtain ⟨message, text, read'⟩ := except_bind_eq_ok.mp read
            obtain ⟨code, number, ended⟩ := except_bind_eq_ok.mp read'
            cases rest with
            | nil =>
                cases ended
                rw [Json.shape_text.mp (Json.as_text_ok.mp text),
                  Json.shape_number.mp (Json.as_code_ok.mp number)]
            | cons third rest => cases ended
  · rintro ⟨rfl, rfl⟩
    have number := Json.as_code_ok.mpr (rfl : Shape.number (.integer e.code.toInt) = _)
    refine except_bind_eq_ok.mpr ⟨e.status, ?_, congrArg Except.ok (of_kind_kind_status e)⟩
    exact except_bind_eq_ok.mpr ⟨e.message, rfl, except_bind_eq_ok.mpr ⟨e.code, number, rfl⟩⟩

theorem of_array_ok {elements : List Json} {e : ClientFailure} :
    ofJson (.array elements) = .ok e ↔
      elements =
        [.text e.kind.name, .text e.message, .number (.integer e.code.toInt)] := by
  cases elements with
  | nil => simp [ofJson]
  | cons first rest =>
      rw [ofJson]
      constructor
      · intro ran
        obtain ⟨k, known, read⟩ := except_bind_eq_ok.mp ran
        obtain ⟨rfl, rfl⟩ := of_elements_ok.mp read
        rw [Json.shape_text.mp (Kind.of_shape_ok.mp known)]
      · intro same
        obtain ⟨rfl, rfl⟩ := List.cons.inj same
        exact except_bind_eq_ok.mpr
          ⟨e.kind, Kind.of_shape_ok.mpr rfl, of_elements_ok.mpr ⟨rfl, rfl⟩⟩

namespace Draft

theorem fold_others {members : List (String × Json)} (others : ∀ m ∈ members, m.1 ≠ "kind")
    (d : Draft) :
    members.foldlM take d = .ok { d with members := members.reverse ++ d.members } := by
  rw [fold_ok]
  have none_named : Json.under "kind" members = [] := by
    rw [Json.under, List.map_eq_nil_iff, List.filter_eq_nil_iff]
    intro m found
    simpa using others m found
  have all_kept : members.filter (·.1 ≠ "kind") = members := by
    rw [List.filter_eq_self]
    intro m found
    simpa using others m found
  rw [none_named, all_kept]
  exact ⟨.kept, rfl⟩

end Draft

theorem of_object_named (k : Kind) {before after : List (String × Json)}
    (others : ∀ m ∈ before ++ after, m.1 ≠ "kind") :
    ofJson (.object (before ++ ("kind", .text k.name) :: after)) =
      (Status.ofMembers (before ++ after)).map (ofKind k) := by
  have named : Kind.ofShape (Json.shape (.text k.name)) = .ok k := Kind.of_shape_ok.mpr rfl
  have others_before : ∀ m ∈ before, m.1 ≠ "kind" :=
    fun m found => others m (List.mem_append_left after found)
  have others_after : ∀ m ∈ after, m.1 ≠ "kind" :=
    fun m found => others m (List.mem_append_right before found)
  have folded : (before ++ ("kind", Json.text k.name) :: after).foldlM Draft.take Draft.empty =
      .ok ⟨some k, (before ++ after).reverse⟩ := by
    rw [List.foldlM_append, Draft.fold_others others_before]
    change (_ >>= fun d => _) = _
    rw [except_bind_eq_ok]
    refine ⟨_, rfl, ?_⟩
    rw [List.foldlM_cons, Draft.take_kind, named]
    refine except_bind_eq_ok.mpr ⟨_, rfl, ?_⟩
    rw [Draft.fold_others others_after]
    simp [Draft.empty]
  rw [ofJson, folded]
  change Draft.finish ⟨some k, (before ++ after).reverse⟩ = _
  rw [Draft.finish, List.reverse_reverse]
  cases Status.ofMembers (before ++ after) <;> rfl

end MqttFailure.ClientFailure
