import MqttFailure.Proofs.Json.Integers
import MqttFailure.Proofs.Wire.Texts
set_option autoImplicit false

namespace MqttFailure

open Json
open Json.Reader

namespace Json.Source

inductive Says (s : String) : Source → Prop where
  | text {pieces : List Piece} : Sense.exact.text pieces = some s → Says s (.text pieces)

inductive Counts (n : Int) : Source → Prop where
  | numeral {parts : Numeral} : parts.Counts n → Counts n (.numeral parts)

def under (key : String) (members : List (List Piece × Source)) : List Source :=
  (members.filter fun m => Sense.exact.text m.1 = some key).map (·.2)

theorem says_iff {v : Source} {s : String} : v.Says s ↔ v.json? .exact = some (.text s) := by
  constructor
  · intro said
    cases said with
    | text known =>
        rw [json?, known]
        rfl
  · intro meant
    cases means_of_json meant with
    | text known => exact .text known

theorem counts_iff {v : Source} {c : Int32} :
    v.Counts c.toInt ↔ v.json? .exact = some (.number (.integer c.toInt)) := by
  constructor
  · intro counts
    cases counts with
    | @numeral parts counts =>
        have known : Sense.exact.number parts = some (.integer c.toInt) :=
          Numeral.number_integer.mpr ⟨counts, code_word c⟩
        rw [json?, known]
        rfl
  · intro meant
    cases means_of_json meant with
    | numeral known => exact .numeral (Numeral.number_integer.mp known).1

theorem under_stands_for (key : String) {members : List (List Piece × Source)}
    {js : List (String × Json)} (known : members? .exact members = some js) :
    elements? .exact (under key members) = some (Json.under key js) := by
  induction members generalizing js with
  | nil =>
      cases known
      rfl
  | cons m rest ih =>
      obtain ⟨pieces, v⟩ := m
      simp only [members?, Option.bind_eq_bind, Option.bind_eq_some_iff] at known
      obtain ⟨key', named, j, meant, js', known', same⟩ := known
      cases same
      by_cases here : key' = key
      · subst here
        have stays : under key' ((pieces, v) :: rest) = v :: under key' rest := by
          simp [under, named]
        rw [stays, Json.under_same, elements?, meant, ih known']
        rfl
      · have drops : under key ((pieces, v) :: rest) = under key rest := by
          simp [under, named, here]
        rw [drops, Json.under_other here]
        exact ih known'

theorem only_stands_for {vs : List Source} {js : List Json} {j : Json}
    (known : elements? .exact vs = some js) :
    js = [j] ↔ ∃ v, vs = [v] ∧ v.json? .exact = some j := by
  constructor
  · rintro rfl
    cases vs with
    | nil => cases known
    | cons v rest =>
        simp only [elements?, Option.bind_eq_bind, Option.bind_eq_some_iff] at known
        obtain ⟨j', meant, js', known', same⟩ := known
        cases same
        cases rest with
        | nil => exact ⟨v, rfl, meant⟩
        | cons v' rest =>
            simp only [elements?, Option.bind_eq_bind, Option.bind_eq_some_iff] at known'
            obtain ⟨_, _, _, _, same⟩ := known'
            cases same
  · rintro ⟨v, rfl, meant⟩
    rw [elements?, meant] at known
    cases known
    rfl

end Json.Source

namespace ClientFailure

open Source (under Sensible)

inductive Accepted (e : ClientFailure) : Source → Prop where
  | object {members : List (List Piece × Source)} {kind message code : Source} :
      under "kind" members = [kind] → kind.Says e.kind.name →
      under "message" members = [message] → message.Says e.message →
      under "code" members = [code] → code.Counts e.code.toInt →
      Sensible members → (Source.object members).depth ≤ 127 → Accepted e (.object members)
  | array {kind message code : Source} :
      kind.Says e.kind.name → message.Says e.message → code.Counts e.code.toInt →
      Accepted e (.array [kind, message, code])

theorem accepted_object {members : List (List Piece × Source)} {js : List (String × Json)}
    {e : ClientFailure} (known : Source.members? .exact members = some js)
    (fits : (Source.object members).depth ≤ 127) :
    Accepted e (.object members) ↔ ofJson (.object js) = .ok e := by
  have stands := fun key => Source.under_stands_for key known
  rw [of_object_ok, Source.only_stands_for (stands "kind"),
    Source.only_stands_for (stands "message"), Source.only_stands_for (stands "code")]
  constructor
  · intro accepted
    cases accepted with
    | object kind named message said code counted _ _ =>
        exact ⟨⟨_, kind, Source.says_iff.mp named⟩, ⟨_, message, Source.says_iff.mp said⟩,
          ⟨_, code, Source.counts_iff.mp counted⟩⟩
  · rintro ⟨⟨_, kind, named⟩, ⟨_, message, said⟩, ⟨_, code, counted⟩⟩
    exact .object kind (Source.says_iff.mpr named) message (Source.says_iff.mpr said) code
      (Source.counts_iff.mpr counted) (Source.members_sensible.mpr ⟨js, known⟩) fits

theorem accepted_array {vs : List Source} {e : ClientFailure} :
    Accepted e (.array vs) ↔
      Source.elements? .exact vs =
        some [.text e.kind.name, .text e.message, .number (.integer e.code.toInt)] := by
  constructor
  · intro accepted
    cases accepted with
    | array named said counted =>
        simp only [Source.elements?, Source.says_iff.mp named, Source.says_iff.mp said,
          Source.counts_iff.mp counted]
        rfl
  · intro known
    rcases vs with _ | ⟨kind, _ | ⟨message, _ | ⟨code, _ | ⟨fourth, rest⟩⟩⟩⟩
    all_goals
      simp only [Source.elements?, Option.bind_eq_bind, Option.bind_eq_some_iff, Option.pure_def,
        Option.some.injEq] at known
    · cases known
    · obtain ⟨_, _, _, rfl, same⟩ := known
      cases same
    · obtain ⟨_, _, _, ⟨_, _, _, rfl, rfl⟩, same⟩ := known
      cases same
    · obtain ⟨_, named, _, ⟨_, said, _, ⟨_, counted, _, rfl, rfl⟩, rfl⟩, same⟩ := known
      cases same
      exact .array (Source.says_iff.mpr named) (Source.says_iff.mpr said)
        (Source.counts_iff.mpr counted)
    · obtain ⟨_, _, _, ⟨_, _, _, ⟨_, _, _, ⟨_, _, _, _, rfl⟩, rfl⟩, rfl⟩, same⟩ := known
      cases same

theorem outcome_accepted {v : Source} {e : ClientFailure} :
    outcome nesting v = .ok e ↔ Accepted e v := by
  rw [outcome_ok]
  constructor
  · rintro ⟨j, meant, fits, good⟩
    cases Source.means_of_json meant with
    | object known => exact (accepted_object known fits).mpr good
    | array known => rw [accepted_array, known, of_array_ok.mp good]
    | null => cases good
    | bool value => cases good
    | numeral _ => cases good
    | text _ => cases good
  · intro accepted
    cases v with
    | object members =>
        have whole := accepted
        cases accepted with
        | object _ _ _ _ _ _ sensible fits =>
            obtain ⟨js, known⟩ := Source.members_sensible.mp sensible
            exact ⟨.object js, by rw [Source.json?, known]; rfl, fits,
              (accepted_object known fits).mp whole⟩
    | array elements =>
        have known := accepted_array.mp accepted
        refine ⟨.array _, by rw [Source.json?, known]; rfl, ?_, of_array_ok.mpr rfl⟩
        cases accepted with
        | array named said counted =>
            cases named
            cases said
            cases counted
            exact Nat.succ_le_succ (Nat.zero_le 126)
    | null => cases accepted
    | bool value => cases accepted
    | numeral parts => cases accepted
    | text pieces => cases accepted

end ClientFailure

end MqttFailure
