import MqttFailure.Proofs.Json.Verdicts
import MqttFailure.Proofs.Wire.Names
import MqttFailure.Proofs.Wire.RoundTrip
set_option autoImplicit false

namespace MqttFailure

open Json
open Json.Reader

namespace Kind

theorem unit_one_pass : OnePass .settled readUnit := judged_one_pass unit

theorem read_name_one_pass : OnePass .settled readName := judged_one_pass ofShape

theorem read_key_one_pass (release : Release) : OnePass .settled (readKey release) := by
  cases release with
  | older => exact read_name_one_pass
  | newer => exact bind_one_pass (key_one_pass exact_steady) fun name => judge_one_pass _

theorem read_member_one_pass (release : Release) : OnePass .settled (readMember release) := by
  refine bind_one_pass (read_key_one_pass release) fun kind => ?_
  refine bind_one_pass colon_one_pass fun _ => ?_
  exact bind_one_pass unit_one_pass fun _ => pure_one_pass _

theorem read_one_pass (release : Release) : OnePass .settled (readIn release) := by
  rw [read_eq]
  refine blanks_one_pass ?_ rfl
  refine bind_one_pass (next_one_pass .value) fun opening => ?_
  refine ite_one_pass ?_ (ite_one_pass ?_ (fail_one_pass _))
  · exact bind_one_pass (string_body_one_pass exact_steady) fun name => judge_one_pass _
  · refine bind_one_pass (read_member_one_pass release) fun kind => ?_
    exact blanks_one_pass (bind_one_pass (literal_one_pass _ _ _) fun _ => pure_one_pass _) rfl

theorem outcome_closed (release : Release) {v : Source} {k : Kind}
    (good : outcome release v = .ok k) : v.Closed := by
  cases v with
  | text pieces => exact .text pieces
  | object members => exact .object members
  | null => cases good
  | bool value => cases good
  | numeral parts => cases good
  | array elements => cases good

theorem decode_final (release : Release) : Final (decodeIn release) :=
  read_all_final (read_one_pass release) (read_reads release) (outcome_closed release)

end Kind

namespace Status

theorem member_one_pass (f : Fields) : OnePass .settled (readMember f) := by
  refine bind_one_pass (key_one_pass exact_steady) fun name => ?_
  refine bind_one_pass (judge_one_pass _) fun slot => ?_
  refine bind_one_pass colon_one_pass fun _ => ?_
  cases slot with
  | some field => exact judged_one_pass (f.fill field)
  | none => exact bind_one_pass skip_one_pass fun _ => pure_one_pass f

theorem elements_one_pass (record : String) : OnePass .settled (readElements record) := by
  rw [read_elements_eq]
  refine bind_one_pass (closes_one_pass ']') fun closed => ite_one_pass (fail_one_pass _) ?_
  refine bind_one_pass (judged_one_pass _) fun message => ?_
  refine bind_one_pass (more_one_pass true ']') fun goes => ite_one_pass ?_ (fail_one_pass _)
  refine bind_one_pass (judged_one_pass _) fun code => ?_
  exact bind_one_pass end_of_list_one_pass fun _ => pure_one_pass _

theorem read_one_pass (record : String) : OnePass .settled (read record) := by
  refine by_shape_one_pass (elements_one_pass record) ?_ record
  exact bind_one_pass (items_one_pass true '}' member_one_pass Fields.none) fun fields =>
    judge_one_pass _

theorem decode_final {α : Type} (f : Status → α) (record : String) :
    Final (readAll do return f (← read record)) := by
  refine read_all_final (bind_one_pass (read_one_pass record) fun s => pure_one_pass (f s))
    (collect_reads (read_reads record) f) ?_
  intro v a good
  obtain ⟨s, known, _⟩ := except_map_eq_ok.mp good
  exact by_shape_closed known

end Status

namespace ClientFailure

theorem member_one_pass (depth : Nat) (d : Draft) : OnePass .settled (readMember depth d) := by
  refine bind_one_pass (key_one_pass exact_steady) fun name => ite_one_pass ?_ ?_
  · refine bind_one_pass (judge_one_pass _) fun _ => ?_
    refine bind_one_pass colon_one_pass fun _ => ?_
    exact bind_one_pass Kind.read_name_one_pass fun kind => pure_one_pass _
  · refine bind_one_pass colon_one_pass fun _ => ?_
    exact bind_one_pass (value_one_pass exact_steady depth) fun value => pure_one_pass _

theorem elements_one_pass (depth : Nat) : OnePass .settled (readElements depth) := by
  rw [read_elements_eq]
  refine bind_one_pass (closes_one_pass ']') fun closed => ite_one_pass (fail_one_pass _) ?_
  refine bind_one_pass Kind.read_name_one_pass fun kind => ?_
  refine bind_one_pass ?_ fun elements => judge_one_pass _
  refine bind_one_pass (more_one_pass true ']') fun goes => ite_one_pass ?_ (pure_one_pass _)
  exact run_one_pass true ']' (element_one_pass (value_one_pass exact_steady depth)) []

theorem read_one_pass (depth : Nat) : OnePass .settled (readAt depth) := by
  cases depth with
  | zero =>
      rw [read_at_zero]
      exact by_shape_one_pass (fail_one_pass _) (fail_one_pass _) form
  | succ depth =>
      rw [read_at_succ]
      refine by_shape_one_pass (elements_one_pass depth) ?_ form
      exact bind_one_pass (items_one_pass true '}' (member_one_pass depth) Draft.empty) fun d =>
        judge_one_pass _

theorem list_one_pass : OnePass .settled readList := by
  rw [read_list_eq]
  refine by_shape_one_pass ?_ (fail_one_pass _) "a sequence"
  refine bind_one_pass (items_one_pass true ']' (fun read => ?_) []) fun failures =>
    judge_one_pass _
  exact bind_one_pass (read_one_pass (nesting - 1)) fun failure => pure_one_pass _

theorem decode_final : Final decode := by
  refine read_all_final (read_one_pass nesting) (read_reads nesting) ?_
  intro v e good
  rw [nesting, outcome_succ] at good
  exact by_shape_closed good

theorem decode_list_final : Final decodeList :=
  read_all_final list_one_pass list_reads by_shape_closed

end ClientFailure

/-- The texts of kinds, records, client failures and lists of them are judged in one pass: what
comes behind a text does not change what was found in it. -/
theorem verdict_final :
    (∀ release, Final (Kind.decodeIn release)) ∧ Final ProtocolFailure.decode ∧
      Final ControlFailure.decode ∧ Final ClientFailure.decode ∧ Final ClientFailure.decodeList :=
  ⟨Kind.decode_final, Status.decode_final ProtocolFailure.mk Kind.protocol.record,
    Status.decode_final ControlFailure.mk Kind.control.record, ClientFailure.decode_final,
    ClientFailure.decode_list_final⟩

theorem refused_and_accepted_final :
    ProtocolFailure.decode ("[]" ++ ",") =
        .error (.mismatch (.wrongLength 0 (Status.wanted Kind.protocol.record))) ∧
      Kind.decode (Kind.protocol.encode ++ ",") = .error (.malformed .trailingCharacters) := by
  have refused : ProtocolFailure.decode "[]" =
      .error (.mismatch (.wrongLength 0 (Status.wanted Kind.protocol.record))) := rfl
  have settled : Settled "[]".toList := by
    intro c last
    cases last
    decide
  have accepted := (verdict_final.1 .newer).accepted (Kind.protocol.decode_own_name .newer) ","
  exact ⟨verdict_final.2.1.unfit refused settled ",", accepted⟩

end MqttFailure
