import MqttFailure.Proofs.Wire.Texts
set_option autoImplicit false

namespace MqttFailure

open Json
open Json.Reader

namespace Json.Source

variable {sense : Sense}

theorem members_append {before after : List (List Piece × Source)}
    {js js' : List (String × Json)} (known : members? sense before = some js)
    (known' : members? sense after = some js') :
    members? sense (before ++ after) = some (js ++ js') := by
  induction before generalizing js with
  | nil =>
      cases known
      exact known'
  | cons m rest ih =>
      obtain ⟨pieces, v⟩ := m
      simp only [members?, Option.bind_eq_bind, Option.bind_eq_some_iff] at known
      obtain ⟨key, named, j, meant, js'', known'', same⟩ := known
      cases same
      rw [List.cons_append, members?, named, meant, ih known'']
      rfl

theorem members_depth_append (before after : List (List Piece × Source)) :
    membersDepth (before ++ after) = max (membersDepth before) (membersDepth after) := by
  induction before with
  | nil => exact (Nat.zero_max _).symm
  | cons m rest ih => rw [List.cons_append, membersDepth, membersDepth, ih, Nat.max_assoc]

theorem members_keys {members : List (List Piece × Source)} {js : List (String × Json)}
    (known : members? sense members = some js) {key : String}
    (absent : ∀ m ∈ members, sense.text m.1 ≠ some key) : ∀ m ∈ js, m.1 ≠ key := by
  induction members generalizing js with
  | nil =>
      cases known
      exact nofun
  | cons m rest ih =>
      obtain ⟨pieces, v⟩ := m
      simp only [members?, Option.bind_eq_bind, Option.bind_eq_some_iff] at known
      obtain ⟨key', named, j, meant, js', known', same⟩ := known
      cases same
      rw [List.forall_mem_cons] at absent ⊢
      refine ⟨?_, ih known' absent.2⟩
      rintro rfl
      exact absent.1 named

end Json.Source

/-- A client failure of a kind is read as a protocol or control failure is, wherever among the other
members its kind stands: as the same status, or with the same fault. -/
theorem ClientFailure.decode_tagged (k : Kind) {before after : List (List Piece × Source)}
    {key name : List Piece} {t u : String} (tag : Sense.exact.text key = some "kind")
    (named : Sense.exact.text name = some k.name)
    (others : ∀ m ∈ before ++ after, Sense.exact.text m.1 ≠ some "kind")
    (sensible : Source.Sensible (before ++ after))
    (fits : (Source.object (before ++ after)).depth ≤ 127)
    (tagged : (Source.object (before ++ (key, .text name) :: after)).Fills t.toList)
    (bare : (Source.object (before ++ after)).Fills u.toList) :
    ClientFailure.decode t = (ProtocolFailure.decode u).map (fun p => ofKind k p.toStatus) ∧
      ClientFailure.decode t = (ControlFailure.decode u).map (fun c => ofKind k c.toStatus) := by
  obtain ⟨js, known⟩ := Source.members_sensible.mp fun m found =>
    sensible m (List.mem_append_left after found)
  obtain ⟨js', known'⟩ := Source.members_sensible.mp fun m found =>
    sensible m (List.mem_append_right before found)
  have whole := Source.members_append known known'
  have keys := Source.members_keys whole others
  have shallow : (Source.object (before ++ (key, .text name) :: after)).depth ≤ nesting := by
    have scalar : (Source.text name).depth = 0 := rfl
    rw [Source.depth, Source.members_depth_append] at fits
    rw [Source.depth, Source.members_depth_append, Source.membersDepth, scalar, nesting]
    omega
  have meant : (Source.object (before ++ (key, .text name) :: after)).json? .exact =
      some (.object (js ++ ("kind", .text k.name) :: js')) := by
    have tail : Source.members? .exact ((key, .text name) :: after) =
        some (("kind", .text k.name) :: js') := by
      rw [Source.members?, tag, Source.json?, named, known']
      rfl
    rw [Source.json?, Source.members_append known tail]
    rfl
  have client : decode t = mismatched ((Status.ofMembers (js ++ js')).map (ofKind k)) := by
    rw [decode, read, read_all_fills (read_reads nesting) tagged,
      outcome_sense meant shallow, of_object_named k keys]
  rw [client, ProtocolFailure.decode, ProtocolFailure.read,
    Status.read_all_object ProtocolFailure.mk _ whole bare, ControlFailure.decode,
    ControlFailure.read, Status.read_all_object ControlFailure.mk _ whole bare]
  cases Status.ofMembers (js ++ js') with
  | error reason => exact ⟨rfl, rfl⟩
  | ok s => exact ⟨rfl, rfl⟩

theorem tagged_code_without_message :
    ClientFailure.decode "\x7b \"code\":7,\"kind\":\"transport\"\x7d" =
        (ProtocolFailure.decode "\x7b \"code\":7\x7d").map (fun p => .transport p.toStatus) ∧
      ClientFailure.decode "\x7b \"code\":7,\"kind\":\"transport\"\x7d" =
        (ControlFailure.decode "\x7b \"code\":7\x7d").map (fun c => .transport c.toStatus) := by
  have space : Blank [' '] := by simp [Blank, isBlank]
  have seven : Numeral.Written ⟨false, ['7'], [], none⟩ ['7'] :=
    @Numeral.Written.mk none ['7'] _ _ _ _ (by simp) ⟨by decide, by simp⟩ (by decide)
      .absent .absent
  have code := Keyed.mk (plain_quoted ['c', 'o', 'd', 'e'] (by simp)) blank_nil blank_nil
    (Source.Written.numeral seven)
  have kind := Keyed.mk (plain_quoted ['k', 'i', 'n', 'd'] (by simp)) blank_nil blank_nil
    (Source.Written.text
      (plain_quoted ['t', 'r', 'a', 'n', 's', 'p', 'o', 'r', 't'] (by simp)))
  refine @ClientFailure.decode_tagged .transport [(_, _)] [] _ _ _ _ rfl rfl ?_ ?_ (by decide)
    (.mk blank_nil (.object (.items (.cons space code blank_nil
      (.last blank_nil kind blank_nil)))) blank_nil)
    (.mk blank_nil (.object (.items (.last space code blank_nil))) blank_nil)
  · intro m found
    rw [List.mem_singleton.mp found]
    decide
  · intro m found
    rw [List.mem_singleton.mp found]
    exact ⟨rfl, rfl⟩

end MqttFailure
