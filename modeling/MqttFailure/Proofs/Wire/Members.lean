import MqttFailure.Proofs.Json.Integers
import MqttFailure.Proofs.Json.Running
import MqttFailure.Wire.Tree
set_option autoImplicit false

namespace MqttFailure

open Json (Shape Mismatch)

variable {α : Type}

def Json.under (key : String) (members : List (String × α)) : List α :=
  (members.filter (·.1 = key)).map (·.2)

namespace Json

@[simp] theorem under_nil (key : String) : under key ([] : List (String × α)) = [] := rfl

theorem under_same (key : String) (v : α) (members : List (String × α)) :
    under key ((key, v) :: members) = v :: under key members := by
  simp [under]

theorem under_other {key other : String} (different : other ≠ key) (v : α)
    (members : List (String × α)) : under key ((other, v) :: members) = under key members := by
  simp [under, different]

theorem under_without {key absent : String} (different : key ≠ absent)
    (members : List (String × α)) :
    under key (members.filter (·.1 ≠ absent)) = under key members := by
  rw [under, List.filter_filter, under]
  congr 2
  funext m
  by_cases same : m.1 = key
  · simp [same, different]
  · simp [same]

theorem under_perm {members members' : List (String × α)} (perm : members.Perm members')
    {key : String} {v : α} (once : under key members = [v]) : under key members' = [v] := by
  have perm' := (perm.filter (·.1 = key)).map (·.2)
  rw [under] at once
  rw [once] at perm'
  exact List.perm_singleton.mp perm'.symm

theorem shape_text {v : Json} {s : String} : v.shape = .text s ↔ v = .text s := by
  cases v <;> simp [shape]

theorem shape_number {v : Json} {n : Number} : v.shape = .number n ↔ v = .number n := by
  cases v <;> simp [shape]

theorem as_text_ok {shape : Shape} {s : String} : shape.asText = .ok s ↔ shape = .text s := by
  cases shape <;> simp [Shape.asText]

theorem as_code_ok {shape : Shape} {c : Int32} :
    shape.asCode = .ok c ↔ shape = .number (.integer c.toInt) := by
  constructor
  · intro ran
    unfold Shape.asCode at ran
    split at ran
    · rename_i n
      split at ran
      · rename_i inside
        cases ran
        rw [Int32.toInt_ofInt_of_le (by omega) (by omega)]
      · cases ran
    · cases ran
  · rintro rfl
    have low := c.le_toInt
    have high := c.toInt_lt
    rw [Shape.asCode, if_pos ⟨by omega, by omega⟩, Int32.ofInt_toInt]

theorem code_word (c : Int32) : Numeral.Word c.toInt := by
  have low := c.le_toInt
  have high := c.toInt_lt
  unfold Numeral.Word
  omega

end Json

namespace Kind

theorem lookup_ok {table : Kind → String} (apart : ∀ {k k'}, table k = table k' → k = k')
    {s : String} {k : Kind} : lookup table s = .ok k ↔ table k = s := by
  rw [lookup]
  cases found : all.find? fun k => table k = s with
  | none =>
      have missed := List.find?_eq_none.mp found k k.mem_all
      simpa using missed
  | some k' =>
      have same : table k' = s := by simpa using List.find?_some found
      rw [Except.ok.injEq]
      constructor
      · rintro rfl
        exact same
      · intro own
        exact apart (same.trans own.symm)

theorem lookup_unknown {table : Kind → String} {s : String} (unknown : ∀ k, table k ≠ s) :
    lookup table s = .error (.unknownName s (all.map table)) := by
  have nobody : (all.find? fun k => table k = s) = none := by
    simpa using fun k _ => unknown k
  rw [lookup, nobody]

theorem named_eq : named = lookup name := congrArg lookup wire_name

theorem named_ok {s : String} {k : Kind} : named s = .ok k ↔ k.name = s := by
  rw [named_eq]
  exact lookup_ok name_apart

theorem named_unknown {s : String} (unknown : ∀ k : Kind, k.name ≠ s) :
    named s = .error (.unknownName s (all.map name)) := by
  rw [named_eq, lookup_unknown unknown]

theorem of_shape_ok {shape : Shape} {k : Kind} : ofShape shape = .ok k ↔ shape = .text k.name := by
  cases shape with
  | text s =>
      have judged : ofShape (.text s) = .ok k ↔ k.name = s := named_ok
      rw [judged, Shape.text.injEq]
      exact eq_comm
  | null => simp [ofShape, ofShapeBy]
  | bool value => simp [ofShape, ofShapeBy]
  | number value => simp [ofShape, ofShapeBy]
  | array => simp [ofShape, ofShapeBy]
  | object => simp [ofShape, ofShapeBy]

end Kind

theorem ClientFailure.tag_of_shape : tagOfShape = Kind.ofShape :=
  congrArg Kind.ofShapeBy tag_wire_name

theorem ClientFailure.read_tag : readTag = Kind.readName := congrArg Kind.readNameBy tag_wire_name

-- What a place that takes one value at most holds before and after the values meant for it.
inductive Lands (judge : Shape → Except Mismatch α) : Option α → List Json → Option α → Prop where
  | kept {held : Option α} : Lands judge held [] held
  | filled {v : Json} {a : α} : judge v.shape = .ok a → Lands judge none [v] (some a)

namespace Lands

variable {judge : Shape → Except Mismatch α}

theorem nil_iff {held held' : Option α} : Lands judge held [] held' ↔ held = held' := by
  constructor
  · intro lands
    cases lands
    rfl
  · rintro rfl
    exact .kept

theorem cons_iff {held held' : Option α} {v : Json} {vs : List Json} :
    Lands judge held (v :: vs) held' ↔
      held = none ∧ ∃ a, judge v.shape = .ok a ∧ Lands judge (some a) vs held' := by
  constructor
  · intro lands
    cases lands with
    | filled known => exact ⟨rfl, _, known, .kept⟩
  · rintro ⟨rfl, a, known, lands⟩
    cases lands
    exact .filled known

theorem some_iff {a : α} {vs : List Json} :
    Lands judge none vs (some a) ↔ ∃ v, vs = [v] ∧ judge v.shape = .ok a := by
  constructor
  · intro lands
    cases lands with
    | filled known => exact ⟨_, rfl, known⟩
  · rintro ⟨v, rfl, known⟩
    exact .filled known

end Lands

def Fields.take (f : Fields) (m : String × Json) : Except Mismatch Fields := do
  match ← f.slot m.1 with
  | some field => f.fill field m.2.shape
  | .none => return f

theorem Status.of_members_eq (members : List (String × Json)) :
    Status.ofMembers members = (members.foldlM Fields.take Fields.none >>= Fields.finish) := rfl

namespace Fields

theorem take_message (f : Fields) (v : Json) :
    f.take ("message", v) =
      if f.message.isSome then .error (.duplicateField "message")
      else v.shape.asText.map fun s => { f with message := some s } := by
  rw [take, slot]
  cases held : f.message with
  | some s => simp [Field.ofKey?, has, held, bind, Except.bind, Field.name]
  | none =>
      simp only [Field.ofKey?, if_true, has, held, Option.isSome_none, Bool.false_eq_true, if_false]
      change (v.shape.asText >>= fun s => pure { f with message := some s }) = _
      cases v.shape.asText <;> rfl

theorem take_code (f : Fields) (v : Json) :
    f.take ("code", v) =
      if f.code.isSome then .error (.duplicateField "code")
      else v.shape.asCode.map fun c => { f with code := some c } := by
  rw [take, slot]
  have other : ¬ "code" = "message" := by decide
  cases held : f.code with
  | some c => simp [Field.ofKey?, has, held, bind, Except.bind, Field.name]
  | none =>
      simp only [Field.ofKey?, other, if_true, has, held, Option.isSome_none, Bool.false_eq_true,
        if_false]
      change (v.shape.asCode >>= fun c => pure { f with code := some c }) = _
      cases v.shape.asCode <;> rfl

theorem take_unknown (f : Fields) {m : String × Json} (message : m.1 ≠ "message")
    (code : m.1 ≠ "code") : f.take m = .ok f := by
  rw [take, slot, Field.ofKey?, if_neg message, if_neg code]
  rfl

theorem fold_ok {members : List (String × Json)} {f f' : Fields} :
    members.foldlM take f = .ok f' ↔
      Lands Shape.asText f.message (Json.under "message" members) f'.message ∧
        Lands Shape.asCode f.code (Json.under "code" members) f'.code := by
  induction members generalizing f with
  | nil =>
      rw [Json.under_nil, Json.under_nil, Lands.nil_iff, Lands.nil_iff]
      constructor
      · intro same
        cases same
        exact ⟨rfl, rfl⟩
      · rintro ⟨message, code⟩
        exact congrArg Except.ok (congr (congrArg Fields.mk message) code)
  | cons m rest ih =>
      obtain ⟨key, v⟩ := m
      rw [List.foldlM_cons]
      -- A key that is known fills its own field only, and only when that is empty.
      by_cases message : key = "message"
      · subst message
        rw [Json.under_same, Json.under_other (by decide), take_message, Lands.cons_iff]
        cases held : f.message with
        | some s => simp [bind, Except.bind]
        | none =>
            cases judged : v.shape.asText with
            | error reason => simp [bind, Except.bind, Except.map]
            | ok s =>
                simpa [bind, Except.bind, Except.map] using @ih { f with message := some s }
      · by_cases code : key = "code"
        · subst code
          rw [Json.under_same, Json.under_other message, take_code, Lands.cons_iff]
          cases held : f.code with
          | some c => simp [bind, Except.bind]
          | none =>
              cases judged : v.shape.asCode with
              | error reason => simp [bind, Except.bind, Except.map]
              | ok c =>
                  simpa [bind, Except.bind, Except.map] using @ih { f with code := some c }
        · rw [take_unknown f (m := (key, v)) message code, Json.under_other message,
            Json.under_other code]
          exact ih

theorem finish_ok {f : Fields} {s : Status} :
    f.finish = .ok s ↔ f.message = some s.message ∧ f.code = some s.code := by
  obtain ⟨message, code⟩ := f
  obtain ⟨text, number⟩ := s
  cases message <;> cases code <;> simp [finish]

end Fields

theorem Status.of_members_ok {members : List (String × Json)} {s : Status} :
    Status.ofMembers members = .ok s ↔
      Json.under "message" members = [.text s.message] ∧
        Json.under "code" members = [.number (.integer s.code.toInt)] := by
  rw [of_members_eq]
  constructor
  · intro ran
    obtain ⟨f, folded, finished⟩ := Json.Reader.except_bind_eq_ok.mp ran
    obtain ⟨message, code⟩ := Fields.finish_ok.mp finished
    rw [Fields.fold_ok, message, code] at folded
    obtain ⟨v, only, text⟩ := Lands.some_iff.mp folded.1
    obtain ⟨v', only', number⟩ := Lands.some_iff.mp folded.2
    rw [only, only', Json.shape_text.mp (Json.as_text_ok.mp text),
      Json.shape_number.mp (Json.as_code_ok.mp number)]
    exact ⟨rfl, rfl⟩
  · rintro ⟨message, code⟩
    refine Json.Reader.except_bind_eq_ok.mpr ⟨⟨some s.message, some s.code⟩, ?_, rfl⟩
    rw [Fields.fold_ok, message, code]
    exact ⟨.filled rfl, .filled (Json.as_code_ok.mpr rfl)⟩

end MqttFailure
