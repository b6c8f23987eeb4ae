import MqttFailure.Proofs.Json.Compact
import MqttFailure.Proofs.Json.Magnitudes
import MqttFailure.Proofs.Wire.Agreement
import MqttFailure.Proofs.Wire.Forms
import MqttFailure.Proofs.Wire.Precedence
import MqttFailure.Proofs.Wire.RecordAcceptance
set_option autoImplicit false

namespace MqttFailure

open Json
open Json.Reader

variable {message : String} {parts : Numeral}

namespace Json.Source

theorem under_append (key : String) (before after : List (List Piece × Source)) :
    under key (before ++ after) = under key before ++ under key after := by
  simp [under]

theorem under_split {key : String} {members : List (List Piece × Source)} {v : Source}
    (once : under key members = [v]) :
    ∃ before pieces after, members = before ++ (pieces, v) :: after ∧
      Sense.exact.text pieces = some key ∧ under key before = [] := by
  obtain ⟨m, only, rfl⟩ := List.map_eq_singleton_iff.mp once
  obtain ⟨before, after, rfl, absent, named, _⟩ := List.filter_eq_cons_iff.mp only
  exact ⟨before, m.1, after, rfl, by simpa using named,
    List.map_eq_nil_iff.mpr (List.filter_eq_nil_iff.mpr absent)⟩

-- A value that stands once stands in front of a place once or not at all.
theorem under_front {key : String} {before after : List (List Piece × Source)} {v : Source}
    (once : under key (before ++ after) = [v]) :
    under key before = [] ∨ under key before = [v] := by
  rw [under_append] at once
  rcases List.append_eq_singleton_iff.mp once with ⟨absent, _⟩ | ⟨found, _⟩
  · exact .inl absent
  · exact .inr found

theorem mem_under {key : String} {members : List (List Piece × Source)} {m : List Piece × Source}
    (found : m ∈ members) (named : Sense.exact.text m.1 = some key) : m.2 ∈ under key members :=
  List.mem_map.mpr ⟨m, List.mem_filter.mpr ⟨found, by simpa using named⟩, rfl⟩

theorem under_nil_iff {key : String} {members : List (List Piece × Source)} :
    under key members = [] ↔ ∀ m ∈ members, Sense.exact.text m.1 ≠ some key := by
  simp [under, List.filter_eq_nil_iff]

theorem numeral_outcome (parts : Numeral) (depth : Nat) :
    (Source.numeral parts).outcome .exact depth = (Sense.exact.readNumber parts).map .number := by
  rw [outcome]

theorem read_number_held {n : Number} (held : parts.number? = some n) :
    Sense.exact.readNumber parts = .ok n :=
  or_malformed_eq_ok.mpr held

theorem read_number_lost (lost : parts.number? = none) :
    Sense.exact.readNumber parts = .error (.malformed .numberOutOfRange) := by
  rw [Sense.readNumber]
  change orMalformed _ parts.number? = _
  rw [lost]
  rfl

end Json.Source

theorem Lands.at_most {α : Type} {judge : Shape → Except Mismatch α} {vs : List Json} {v : Json}
    {a : α} (few : vs = [] ∨ vs = [v]) (judged : judge v.shape = .ok a) :
    ∃ held, Lands judge none vs held := by
  rcases few with rfl | rfl
  · exact ⟨none, .kept⟩
  · exact ⟨some a, .filled judged⟩

theorem mismatched_map {α β : Type} (judged : Except Mismatch α) (f : α → β) :
    mismatched (judged.map f) = (mismatched judged).map f := by
  cases judged <;> rfl

namespace Status

open Source (under)

inductive Coded (message : String) (parts : Numeral) : Source → Prop where
  | object {members : List (List Piece × Source)} {text : Source} :
      under "message" members = [text] → text.Says message →
      under "code" members = [.numeral parts] →
      (∀ m ∈ members, (Sense.exact.text m.1).isSome) → Coded message parts (.object members)
  | array {text : Source} : text.Says message → Coded message parts (.array [text, .numeral parts])

def judgedCode (parts : Numeral) : Except ReadError Int32 :=
  (Source.numeral parts).judged Shape.asCode

theorem judged_code_held {n : Number} (held : parts.number? = some n) :
    judgedCode parts = mismatched (Shape.number n).asCode := by
  rw [judgedCode, Source.judged, Source.shown, Source.read_number_held held]
  rfl

theorem judged_code_lost (lost : parts.number? = none) :
    judgedCode parts = .error (.malformed .numberOutOfRange) := by
  rw [judgedCode, Source.judged, Source.shown, Source.read_number_lost lost]
  rfl

theorem members_before {before : List (List Piece × Source)} {text : Source}
    (keys : ∀ m ∈ before, (Sense.exact.text m.1).isSome) (no_code : under "code" before = [])
    (few : under "message" before = [] ∨ under "message" before = [text])
    (said : text.Says message) :
    ∃ f, before.foldlM memberOutcome Fields.none = .ok f ∧ f.code = none := by
  obtain ⟨js, known⟩ := Source.glimpsed_keys.mp keys
  have texts : Json.under "message" js = [] ∨ Json.under "message" js = [.text message] := by
    rw [Source.under_glimpsed _ known, ← Source.glimpse_text.mpr said]
    exact few.imp (congrArg (List.map _)) (congrArg (List.map _))
  have codes : Json.under "code" js = [] := by
    rw [Source.under_glimpsed _ known, no_code]
    rfl
  obtain ⟨text?, lands⟩ := Lands.at_most texts (Json.as_text_ok.mpr rfl)
  refine ⟨⟨text?, none⟩, fold_glimpsed.mpr ⟨js, known, Fields.fold_ok.mpr ⟨lands, ?_⟩⟩, rfl⟩
  rw [codes]
  exact .kept

theorem members_coded {members : List (List Piece × Source)}
    (coded : Coded message parts (.object members)) :
    membersOutcome members = (judgedCode parts).map fun c => ⟨message, c⟩ := by
  cases coded with
  | object once said code keys =>
      cases judged : judgedCode parts with
      | ok c =>
          exact accepted_object.mp (.object once said code (judged_code.mp judged) keys)
      | error e =>
          obtain ⟨before, pieces, after, rfl, named, no_code⟩ := Source.under_split code
          obtain ⟨f, read, free⟩ :=
            members_before (fun m found => keys m (List.mem_append_left _ found)) no_code
              (Source.under_front once) said
          have filled : memberOutcome f (pieces, .numeral parts) =
              (judgedCode parts).map fun c => { f with code := some c } :=
            (@member_at f .code _ _ named (by simp [Fields.has, free])).trans
              (Source.judged_map _ _ _)
          rw [membersOutcome, List.foldlM_append, read]
          change (((pieces, Source.numeral parts) :: after).foldlM memberOutcome f >>= _) = _
          rw [List.foldlM_cons, filled, judged]
          rfl

theorem outcome_coded {v : Source} (coded : Coded message parts v) (record : String) :
    outcome record v = (judgedCode parts).map fun c => ⟨message, c⟩ := by
  cases v with
  | object members => exact members_coded coded
  | array elements =>
      cases coded with
      | array said =>
          change (_ >>= fun text => secondOutcome record text _) = _
          rw [judged_text.mpr said]
          change ((judgedCode parts) >>= fun c => _) = _
          cases judgedCode parts <;> rfl
  | null => cases coded
  | bool value => cases coded
  | numeral parts => cases coded
  | text pieces => cases coded

end Status

namespace ClientFailure

open Source (under)
open Status (judgedCode judged_code_held judged_code_lost)

variable {k : Kind}

inductive Coded (k : Kind) (message : String) (parts : Numeral) : Source → Prop where
  | object {members : List (List Piece × Source)} {tag text : Source} :
      under "kind" members = [tag] → tag.Says k.name →
      under "message" members = [text] → text.Says message →
      under "code" members = [.numeral parts] →
      (∀ m ∈ members, (Sense.exact.text m.1).isSome ∧
        (Sense.exact.text m.1 ≠ some "code" → (m.2.json? .exact).isSome)) →
      (Source.object members).depth ≤ 127 → Coded k message parts (.object members)
  | array {tag text : Source} :
      tag.Says k.name → text.Says message →
      Coded k message parts (.array [tag, text, .numeral parts])

theorem draft_before {depth : Nat} {before : List (List Piece × Source)} {tag : Source}
    (sensible : Source.Sensible before) (fits : Source.membersDepth before ≤ depth)
    (few : under "kind" before = [] ∨ under "kind" before = [tag]) (said : tag.Says k.name) :
    ∃ d, before.foldlM (Draft.memberOutcome depth) Draft.empty = .ok d := by
  obtain ⟨js, known⟩ := Source.members_sensible.mp sensible
  have stands := Source.under_stands_for "kind" known
  have kinds : Json.under "kind" js = [] ∨ Json.under "kind" js = [.text k.name] := by
    rcases few with absent | once
    · rw [absent] at stands
      exact .inl (Option.some.inj stands).symm
    · rw [once] at stands
      exact .inr ((Source.only_stands_for stands).mpr ⟨tag, rfl, Source.says_iff.mp said⟩)
  obtain ⟨kind?, lands⟩ := Lands.at_most kinds (Kind.of_shape_ok.mpr rfl)
  refine ⟨⟨kind?, (js.filter (·.1 ≠ "kind")).reverse⟩, ?_⟩
  rw [fold_sense (fun d _ _ _ named meant fits => d.member_sense named meant fits) known fits,
    mismatched_eq_ok, Draft.fold_ok]
  exact ⟨lands, (List.append_nil _).symm⟩

theorem object_lost {members : List (List Piece × Source)}
    (coded : Coded k message parts (.object members)) (lost : parts.number? = none) :
    outcome nesting (.object members) = .error (.malformed .numberOutOfRange) := by
  cases coded with
  | object once said _ _ code sensible fits =>
      obtain ⟨before, pieces, after, rfl, named, no_code⟩ := Source.under_split code
      have clear := Source.under_nil_iff.mp no_code
      have front : Source.Sensible before := fun m found =>
        have both := sensible m (List.mem_append_left _ found)
        ⟨both.1, both.2 (clear m found)⟩
      have shallow : Source.membersDepth before ≤ 126 := by
        rw [Source.depth, Source.members_depth_append] at fits
        omega
      obtain ⟨d, read⟩ := draft_before front shallow (Source.under_front once) said
      have stopped : d.memberOutcome 126 (pieces, .numeral parts) =
          .error (.malformed .numberOutOfRange) := by
        rw [Draft.member_other d (by decide) _ named, Source.numeral_outcome,
          Source.read_number_lost lost]
        rfl
      change outcome (126 + 1) _ = _
      rw [outcome, List.foldlM_append, read]
      change (((pieces, Source.numeral parts) :: after).foldlM (Draft.memberOutcome 126) d >>=
        fun draft => mismatched draft.finish) = _
      rw [List.foldlM_cons, stopped]
      rfl

theorem coded_sensible {members : List (List Piece × Source)}
    (code : under "code" members = [.numeral parts])
    (sensible : ∀ m ∈ members, (Sense.exact.text m.1).isSome ∧
      (Sense.exact.text m.1 ≠ some "code" → (m.2.json? .exact).isSome))
    (held : parts.number?.isSome = true) : Source.Sensible members := by
  intro m found
  obtain ⟨key, meant⟩ := sensible m found
  refine ⟨key, ?_⟩
  by_cases named : Sense.exact.text m.1 = some "code"
  · have only : m.2 = .numeral parts := by simpa [code] using Source.mem_under found named
    have number : (Sense.exact.number parts).isSome = true := held
    rw [only, Source.json?, Option.isSome_map]
    exact number
  · exact meant named

theorem object_held {members : List (List Piece × Source)}
    (coded : Coded k message parts (.object members)) (held : parts.number?.isSome = true) :
    outcome nesting (.object members) =
      (judgedCode parts).map fun c => ofKind k ⟨message, c⟩ := by
  cases coded with
  | @object _ tag text once said once' said' code sensible fits =>
      obtain ⟨js, known⟩ := Source.members_sensible.mp (coded_sensible code sensible held)
      have meant : (Source.object members).json? .exact = some (.object js) := by
        rw [Source.json?, known]
        rfl
      have shallow : (Source.object members).depth ≤ nesting := fits
      -- The object holds a status, too, if the literal is a code.
      have status : Status.Coded message parts (.object members) :=
        .object once' said' code fun m found => (sensible m found).1
      have judged := (Status.object_sense "" known).symm.trans (Status.outcome_coded status "")
      have only : Json.under "kind" js = [.text k.name] :=
        (Source.only_stands_for (Source.under_stands_for "kind" known)).mpr
          ⟨tag, once, Source.says_iff.mp said⟩
      have named : Kind.ofShape (Json.text k.name).shape = .ok k := Kind.of_shape_ok.mpr rfl
      rw [outcome_sense meant shallow, of_object_once only, named]
      change mismatched ((Status.ofMembers js).map (ofKind k)) = _
      rw [mismatched_map, judged]
      cases judgedCode parts <;> rfl

theorem array_coded {tag text : Source} (named : tag.Says k.name) (said : text.Says message) :
    outcome nesting (.array [tag, text, .numeral parts]) =
      (judgedCode parts).map fun c => ofKind k ⟨message, c⟩ := by
  have kind : tag.judged Kind.ofShape = .ok k := by
    rw [Source.judged_of_json (Source.says_iff.mp named), mismatched_eq_ok]
    exact Kind.of_shape_ok.mpr rfl
  have first : text.outcome .exact 126 = .ok (.text message) := by
    refine Source.outcome_eq_ok.mpr ⟨?_, Source.says_iff.mp said⟩
    cases said
    exact Nat.zero_le 126
  change outcome (126 + 1) _ = _
  rw [outcome, kind]
  change ([text, Source.numeral parts].mapM (Source.outcome .exact 126) >>= fun elements =>
    mismatched (ofElements k elements)) = _
  rw [List.mapM_cons, first, List.mapM_cons, Source.numeral_outcome]
  cases number : parts.number? with
  | none =>
      rw [judged_code_lost number, Source.read_number_lost number]
      rfl
  | some n =>
      have made : ofElements k [.text message, .number n] =
          (Shape.number n).asCode.map fun c => ofKind k ⟨message, c⟩ := by
        change (((Shape.number n).asCode >>= fun c => pure (Status.mk message c)) >>= _) = _
        cases (Shape.number n).asCode <;> rfl
      rw [judged_code_held number, Source.read_number_held number, ← mismatched_map, ← made]
      rfl

theorem outcome_coded {v : Source} (coded : Coded k message parts v) :
    outcome nesting v = (judgedCode parts).map fun c => ofKind k ⟨message, c⟩ := by
  cases v with
  | object members =>
      cases number : parts.number? with
      | some n => exact object_held coded (by rw [number]; rfl)
      | none => rw [object_lost coded number, judged_code_lost number]; rfl
  | array elements =>
      cases coded with
      | array named said => exact array_coded named said
  | null => cases coded
  | bool value => cases coded
  | numeral parts => cases coded
  | text pieces => cases coded

end ClientFailure

namespace Json.Mismatch

-- In both messages the number is any text: what it is must not be computed here.
theorem message_out_of_range (n : Int) :
    Mismatch.message (.outOfRange n "i32") =
      "invalid value: integer `" ++ toString n ++ "`, expected i32" := by
  have spliced (s : String) :
      "invalid value: integer " ++ ("`" ++ s ++ "`") ++ ", expected " ++ "i32" =
        "invalid value: integer `" ++ s ++ "`, expected i32" := by
    simp [← String.toList_inj]
  exact spliced (toString n)

theorem message_real (negative : Bool) (size : Decimal.Binary64) :
    Mismatch.message (.wrongType (.number (.real negative size)) "i32") =
      "invalid type: floating point `" ++ size.text negative ++ "`, expected i32" := by
  have spliced (s : String) :
      "invalid type: " ++ ("floating point `" ++ s ++ "`") ++ ", expected " ++ "i32" =
        "invalid type: floating point `" ++ s ++ "`, expected i32" := by
    simp [← String.toList_inj]
  exact spliced (size.text negative)

end Json.Mismatch

def Refused {α : Type} (answer : Except ReadError α) (text : String) : Prop :=
  ∃ reason, answer = .error (.mismatch reason) ∧ reason.message = text

structure CodeAnswered {α : Type} (parts : Numeral) (made : Int32 → α)
    (answer : Except ReadError α) : Prop where
  accepted : (∃ a, answer = .ok a) ↔
    (-2147483648 ≤ parts.int ∧ parts.int ≤ 2147483647) ∧ ¬ parts.MinusZero
  kept : ∀ a, answer = .ok a → ∃ c : Int32, c.toInt = parts.int ∧ a = made c
  outside : ¬ (-2147483648 ≤ parts.int ∧ parts.int ≤ 2147483647) →
    -9223372036854775808 ≤ parts.int → parts.int ≤ 18446744073709551615 →
    Refused answer ("invalid value: integer `" ++ toString parts.int ++ "`, expected i32")
  minus_zero : parts.MinusZero →
    Refused answer "invalid type: floating point `-0.0`, expected i32"
  real : ¬ (-9223372036854775808 ≤ parts.int ∧ parts.int ≤ 18446744073709551615) →
    parts.int.natAbs < Numeral.ceiling →
    ∃ size : Decimal.Binary64, Refused answer
      ("invalid type: floating point `" ++ size.text parts.negative ++ "`, expected i32")
  beyond : Numeral.ceiling ≤ parts.int.natAbs → answer = .error (.malformed .numberOutOfRange)

section answers

variable {α : Type} {made : Int32 → α}

open Status (judgedCode)

theorem judged_code_ok (whole : parts.isWhole = true) {c : Int32} :
    judgedCode parts = .ok c ↔ parts.int = c.toInt ∧ ¬ parts.MinusZero := by
  rw [judgedCode, Status.judged_code]
  constructor
  · intro counted
    cases counted with
    | numeral counts =>
        exact ⟨counts.value, fun minus => counts.zero minus.1 (counts.value ▸ minus.2)⟩
  · rintro ⟨value, plain⟩
    exact .numeral ⟨whole, value, fun sign zero => plain ⟨sign, value.trans zero⟩⟩

theorem refused_real {negative : Bool} {size : Decimal.Binary64}
    (held : parts.number? = some (.real negative size)) :
    Refused ((judgedCode parts).map made)
      ("invalid type: floating point `" ++ size.text negative ++ "`, expected i32") := by
  refine ⟨.wrongType (.number (.real negative size)) "i32", ?_, Mismatch.message_real _ _⟩
  rw [Status.judged_code_held held]
  rfl

theorem refused_outside {n : Int} (held : parts.number? = some (.integer n))
    (outside : ¬ (-2147483648 ≤ n ∧ n ≤ 2147483647)) :
    Refused ((judgedCode parts).map made)
      ("invalid value: integer `" ++ toString n ++ "`, expected i32") := by
  refine ⟨.outOfRange n "i32", ?_, Mismatch.message_out_of_range n⟩
  rw [Status.judged_code_held held, Shape.asCode, if_neg (by omega)]
  rfl

theorem judged_code_answered (whole : parts.isWhole = true) (digits : Digits parts.whole)
    (made : Int32 → α) : CodeAnswered parts made ((judgedCode parts).map made) where
  accepted := by
    simp only [except_map_eq_ok, judged_code_ok whole]
    constructor
    · rintro ⟨_, c, ⟨value, plain⟩, rfl⟩
      have low := c.le_toInt
      have high := c.toInt_lt
      exact ⟨by omega, plain⟩
    · rintro ⟨⟨low, high⟩, plain⟩
      have same : (Int32.ofInt parts.int).toInt = parts.int :=
        Int32.toInt_ofInt_of_le (by omega) (by omega)
      exact ⟨_, Int32.ofInt parts.int, ⟨same.symm, plain⟩, rfl⟩
  kept := by
    intro a good
    obtain ⟨c, judged, rfl⟩ := except_map_eq_ok.mp good
    exact ⟨c, ((judged_code_ok whole).mp judged).1.symm, rfl⟩
  outside := by
    intro outside low high
    refine refused_outside (Numeral.number_word whole ?_ ?_) outside
    · rintro ⟨_, zero⟩
      omega
    · unfold Numeral.Word
      omega
  minus_zero := by
    intro minus
    have shown : Decimal.Binary64.zero.text true = "-0.0" := by decide +kernel
    have refused := @refused_real parts _ made _ _ (Numeral.number_minus_zero whole minus)
    rwa [shown] at refused
  real := by
    intro outside below
    have beyond : ¬ Numeral.Word parts.int := by
      unfold Numeral.Word
      omega
    obtain ⟨size, held⟩ := (Numeral.number_beyond whole digits beyond).1 below
    exact ⟨size, refused_real held⟩
  beyond := by
    intro above
    have lost := (Numeral.number_beyond whole digits (Numeral.ceiling_no_word above)).2 above
    rw [Status.judged_code_lost lost]
    rfl

end answers

theorem Status.read_all_coded {α : Type} (f : Status → α) (record : String) {v : Source}
    {t : String} (fills : v.Fills t.toList) (coded : Coded message parts v) :
    readAll (do return f (← read record)) t =
      (judgedCode parts).map fun c => f ⟨message, c⟩ := by
  rw [read_all_fills (collect_reads (read_reads record) f) fills, outcome_coded coded]
  cases judgedCode parts <;> rfl

theorem ClientFailure.decode_coded {k : Kind} {v : Source} {t : String}
    (fills : v.Fills t.toList) (coded : Coded k message parts v) :
    decode t = (Status.judgedCode parts).map fun c => ofKind k ⟨message, c⟩ :=
  (read_all_fills (read_reads nesting) fills).trans (outcome_coded coded)

theorem Status.coded_list (n : Int) :
    ∃ (parts : Numeral) (v : Source), parts.Counts n ∧ parts.Written (toString n).toList ∧
      v.Fills ("[\"m\"," ++ toString n ++ "]").toList ∧ Coded "m" parts v := by
  obtain ⟨parts, written, counts⟩ := Numeral.integer_written n
  refine ⟨parts, .array [.text (['m'].map .char), .numeral parts], counts, written, ?_,
    .array (.text rfl)⟩
  have fills := Source.Fills.mk blank_nil (.array (.items (.cons blank_nil
    (.text (plain_quoted ['m'] (by simp))) blank_nil
    (.last blank_nil (.numeral written) blank_nil)))) blank_nil
  simpa using fills

/-- An integer literal for the code is kept as the code of the same value, or it is refused: as out
of range, as a real number, or from `Numeral.ceiling` on as malformed. -/
theorem code_literal_answered {literal : List Char} (written : parts.Written literal)
    (whole : parts.isWhole = true) {v : Source} {t : String} (fills : v.Fills t.toList) :
    (Status.Coded message parts v →
      CodeAnswered parts (fun c => (⟨⟨message, c⟩⟩ : ProtocolFailure)) (ProtocolFailure.decode t) ∧
      CodeAnswered parts (fun c => (⟨⟨message, c⟩⟩ : ControlFailure)) (ControlFailure.decode t)) ∧
    ∀ k : Kind, ClientFailure.Coded k message parts v →
      CodeAnswered parts (fun c => ClientFailure.ofKind k ⟨message, c⟩)
        (ClientFailure.decode t) := by
  have digits := Numeral.written_digits written
  constructor
  · intro coded
    rw [ProtocolFailure.decode, ProtocolFailure.read,
      Status.read_all_coded ProtocolFailure.mk _ fills coded, ControlFailure.decode,
      ControlFailure.read, Status.read_all_coded ControlFailure.mk _ fills coded]
    exact ⟨judged_code_answered whole digits _, judged_code_answered whole digits _⟩
  · intro k coded
    rw [ClientFailure.decode_coded fills coded]
    exact judged_code_answered whole digits _

theorem codes_past_the_bounds :
    Refused (ProtocolFailure.decode "[\"m\",2147483648]")
        "invalid value: integer `2147483648`, expected i32" ∧
      Refused (ControlFailure.decode "[\"m\",2147483648]")
        "invalid value: integer `2147483648`, expected i32" ∧
      Refused (ClientFailure.decode "[\"other\",\"m\",-0]")
        "invalid type: floating point `-0.0`, expected i32" := by
  have text := Source.Written.text (plain_quoted ['m'] (by simp))
  have large := @Numeral.plain_written ['2', '1', '4', '7', '4', '8', '3', '6', '4', '8']
    ⟨by decide, by simp⟩ (by decide)
  have minus_zero := @Numeral.minus_written ['0'] ⟨by decide, by simp⟩ (by decide)
  have list := Source.Fills.mk blank_nil (.array (.items (.cons blank_nil text blank_nil
    (.last blank_nil (.numeral large) blank_nil)))) blank_nil
  have tagged := Source.Fills.mk blank_nil (.array (.items (.cons blank_nil
    (.text (plain_quoted ['o', 't', 'h', 'e', 'r'] (by simp))) blank_nil (.cons blank_nil text
      blank_nil (.last blank_nil (.numeral minus_zero) blank_nil))))) blank_nil
  have said : Source.Says "m" (.text (['m'].map .char)) := .text rfl
  have named : Source.Says Kind.other.name (.text (['o', 't', 'h', 'e', 'r'].map .char)) :=
    .text rfl
  obtain ⟨protocol, control⟩ :=
    (@code_literal_answered "m" _ _ large rfl _ "[\"m\",2147483648]" list).1 (.array said)
  have client := (@code_literal_answered "m" _ _ minus_zero rfl _ "[\"other\",\"m\",-0]"
    tagged).2 .other (.array named said)
  exact ⟨protocol.outside (by decide) (by decide) (by decide),
    control.outside (by decide) (by decide) (by decide), client.minus_zero ⟨rfl, rfl⟩⟩

theorem greatest_finite_code_malformed :
    Decimal.Binary64.ofNat ((2 ^ 53 - 1) * 2 ^ 971) =
        some ⟨(2 ^ 53 - 1) * 2 ^ 971 * 2 ^ 1074⟩ ∧
      ProtocolFailure.decode ("[\"m\"," ++ toString (((2 ^ 53 - 1) * 2 ^ 971 : Nat) : Int) ++ "]") =
        .error (.malformed .numberOutOfRange) := by
  refine ⟨by decide +kernel, ?_⟩
  have above : Numeral.ceiling ≤ (2 ^ 53 - 1) * 2 ^ 971 := by decide +kernel
  obtain ⟨parts, v, counts, written, fills, coded⟩ :=
    Status.coded_list (((2 ^ 53 - 1) * 2 ^ 971 : Nat) : Int)
  have answered := judged_code_answered counts.whole (Numeral.written_digits written)
    fun c => (⟨⟨"m", c⟩⟩ : ProtocolFailure)
  rw [ProtocolFailure.decode, ProtocolFailure.read,
    Status.read_all_coded ProtocolFailure.mk _ fills coded]
  refine answered.beyond ?_
  rw [counts.value, Int.natAbs_natCast]
  exact above

end MqttFailure
