import MqttFailure.Proofs.Routing.EitherWay
import MqttFailure.Wire.Written
set_option autoImplicit false

namespace MqttFailure

inductive Conversion where
  | lift
  | unlift
  deriving DecidableEq

namespace AnyFailure

def convert? (f : AnyFailure) : Conversion → Option AnyFailure
  | .lift => some f.lift
  | .unlift => f.unlift?

def convertAll? (f : AnyFailure) : List Conversion → Option AnyFailure
  | [] => some f
  | c :: rest => (f.convert? c).bind fun g => g.convertAll? rest

theorem unlift_lift_protocol (p : ProtocolFailure) :
    (protocol p).lift.unlift? = some (protocol p) := rfl

theorem unlift_lift_control (c : ControlFailure) : (control c).lift.unlift? = none := rfl

theorem unlift_eq_none_iff {f : AnyFailure} :
    f.unlift? = none ↔ ∃ e, f = .client e ∧ ∀ inner, e ≠ .protocol inner := by
  cases f with
  | protocol inner => simp [unlift?]
  | control inner => simp [unlift?]
  | client e => cases e <;> simp [unlift?, ClientFailure.protocol?]

theorem unlift_keeps {f g : AnyFailure} (unlifted : f.unlift? = some g) :
    g.status = f.status ∧ g.kind = f.kind := by
  cases f with
  | protocol inner =>
      obtain rfl := Option.some.inj unlifted
      exact ⟨rfl, rfl⟩
  | control inner =>
      obtain rfl := Option.some.inj unlifted
      exact ⟨rfl, rfl⟩
  | client e =>
      obtain ⟨inner, found, rfl⟩ := Option.map_eq_some_iff.mp unlifted
      cases e with
      | protocol p =>
          obtain rfl := Option.some.inj found
          exact ⟨rfl, rfl⟩
      | _ => cases found

theorem convert_eq_none_iff {f : AnyFailure} {c : Conversion} :
    f.convert? c = none ↔
      c = .unlift ∧ ∃ e, f = .client e ∧ ∀ inner, e ≠ .protocol inner := by
  cases c with
  | lift => simp [convert?]
  | unlift => simp [convert?, unlift_eq_none_iff]

theorem convert_keeps {f g : AnyFailure} {c : Conversion} (converted : f.convert? c = some g) :
    g.status = f.status ∧ g.kind = f.kind := by
  cases c with
  | lift =>
      obtain rfl := Option.some.inj converted
      exact ⟨f.status_lift, f.kind_lift⟩
  | unlift => exact unlift_keeps converted

theorem convert_all_keeps {f g : AnyFailure} {cs : List Conversion}
    (converted : f.convertAll? cs = some g) : g.status = f.status ∧ g.kind = f.kind := by
  induction cs generalizing f with
  | nil =>
      obtain rfl := Option.some.inj converted
      exact ⟨rfl, rfl⟩
  | cons c rest ih =>
      obtain ⟨mid, first, behind⟩ := Option.bind_eq_some_iff.mp converted
      obtain ⟨status, kind⟩ := convert_keeps first
      obtain ⟨status', kind'⟩ := ih behind
      exact ⟨status'.trans status, kind'.trans kind⟩

def Stopped (f : AnyFailure) (cs : List Conversion) : Prop :=
  ∃ before after e, cs = before ++ .unlift :: after ∧
    f.convertAll? before = some (.client e) ∧ ∀ inner, e ≠ .protocol inner

theorem stopped_cons {f g : AnyFailure} {c : Conversion} (converted : f.convert? c = some g)
    (rest : List Conversion) : f.Stopped (c :: rest) ↔ g.Stopped rest := by
  constructor
  · rintro ⟨before, after, e, split, reached, stuck⟩
    cases before with
    | nil =>
        obtain ⟨rfl, _⟩ := List.cons.inj split
        obtain rfl := Option.some.inj reached
        rw [convert_eq_none_iff.mpr ⟨rfl, e, rfl, stuck⟩] at converted
        cases converted
    | cons c' before =>
        obtain ⟨rfl, behind⟩ := List.cons.inj split
        rw [convertAll?, converted] at reached
        exact ⟨before, after, e, behind, reached, stuck⟩
  · rintro ⟨before, after, e, rfl, reached, stuck⟩
    refine ⟨c :: before, after, e, rfl, ?_, stuck⟩
    rw [convertAll?, converted]
    exact reached

theorem convert_all_eq_none_iff {f : AnyFailure} {cs : List Conversion} :
    f.convertAll? cs = none ↔ f.Stopped cs := by
  induction cs generalizing f with
  | nil => simp [convertAll?, Stopped]
  | cons c rest ih =>
      rw [convertAll?]
      cases converted : f.convert? c with
      | none =>
          obtain ⟨rfl, e, rfl, stuck⟩ := convert_eq_none_iff.mp converted
          exact ⟨fun _ => ⟨[], rest, e, rfl, rfl, stuck⟩, fun _ => rfl⟩
      | some g => exact ih.trans (stopped_cons converted rest).symm

def ownMessage : AnyFailure → String
  | .protocol inner => inner.message
  | .control inner => inner.message
  | .client inner => inner.message

def ownCode : AnyFailure → Int32
  | .protocol inner => inner.code
  | .control inner => inner.code
  | .client inner => inner.code

def chainKind? (f : AnyFailure) : Option Kind := (Raised.failure f).chain.kind?

end AnyFailure

namespace ClientFailure

structure ProtocolViewsAgree (e : ClientFailure) : Prop where
  variant : e.isProtocol = true ↔ e.kind = .protocol
  inner : e.protocol?.isSome = true ↔ e.kind = .protocol
  chain : (AnyFailure.client e).chainKind? = some .protocol ↔ e.kind = .protocol
  carried : ∀ p, e.protocol? = some p → p.message = e.message ∧ p.code = e.code

theorem protocol_views_agree (e : ClientFailure) : e.ProtocolViewsAgree where
  variant := by cases e <;> simp [isProtocol, kind]
  inner := by cases e <;> simp [protocol?, kind]
  chain := Option.some_inj
  carried := by
    intro p found
    cases e with
    | protocol inner =>
        obtain rfl := Option.some.inj found
        exact ⟨rfl, rfl⟩
    | _ => cases found

theorem kind_quoted (k : Kind) : Json.string k.name = '"' :: (k.name.toList ++ ['"']) := by
  cases k <;> decide

theorem encode_opens (e : ClientFailure) :
    ∃ rest, e.encode = "\x7b\"kind\":\"" ++ e.kind.name ++ "\",\"message\":" ++ rest := by
  have key : Json.string "kind" = '"' :: ("kind".toList ++ ['"']) := by decide
  have next : Json.string "message" = '"' :: ("message".toList ++ ['"']) := by decide
  obtain ⟨behind, chars⟩ : ∃ behind, Json.compactChars e.toJson =
      '\x7b' :: (Json.string "kind" ++ ':' :: (Json.string e.kind.name ++
        ',' :: (Json.string "message" ++ ':' :: behind))) := by
    simp only [to_json_eq, Status.members, Json.compactChars, Json.compactMembers,
      List.append_assoc, List.cons_append]
    exact ⟨_, rfl⟩
  refine ⟨String.ofList behind, String.toList_injective ?_⟩
  rw [encode, Json.compact, chars, key, next, kind_quoted]
  simp

end ClientFailure

namespace AnyFailure

structure ViewsAgree (f : AnyFailure) : Prop where
  message : f.ownMessage = f.message
  code : f.ownCode = f.code
  chain : f.chainKind? = some f.kind
  written : ∃ rest,
    f.lift.encode = "\x7b\"kind\":\"" ++ f.kind.name ++ "\",\"message\":" ++ rest
  client : ∀ e, f = .client e →
    e.message = f.message ∧ e.code = f.code ∧ e.kind = f.kind ∧ e.ProtocolViewsAgree

theorem views_agree (f : AnyFailure) : f.ViewsAgree where
  message := by cases f <;> rfl
  code := by cases f <;> rfl
  chain := rfl
  written := by
    rw [← f.kind_lift]
    exact f.toClient.encode_opens
  client := by
    rintro e rfl
    exact ⟨rfl, rfl, rfl, e.protocol_views_agree⟩

/-- A failure that is lifted and unlifted in any order is lost exactly where a client failure that
is no protocol failure was to be made bare, and otherwise keeps its message, code and kind. -/
theorem conversions_lossless (f : AnyFailure) (cs : List Conversion) :
    (f.convertAll? cs = none ↔ ∃ before after e, cs = before ++ .unlift :: after ∧
      f.convertAll? before = some (.client e) ∧ ∀ inner, e ≠ .protocol inner) ∧
    (∀ g, f.convertAll? cs = some g →
      g.message = f.message ∧ g.code = f.code ∧ g.kind = f.kind ∧ g.ViewsAgree) ∧
    (∀ p, (protocol p).lift.unlift? = some (protocol p)) ∧
    ∀ c, (control c).lift.unlift? = none := by
  refine ⟨convert_all_eq_none_iff, ?_, unlift_lift_protocol, unlift_lift_control⟩
  intro g converted
  obtain ⟨status, kind⟩ := convert_all_keeps converted
  exact ⟨congrArg Status.message status, congrArg Status.code status, kind, g.views_agree⟩

theorem protocol_comes_back :
    (∃ g, (protocol ⟨⟨"m", 4⟩⟩).convertAll? [.unlift, .lift, .lift, .unlift, .lift] = some g ∧
      g.message = "m" ∧ g.code = 4 ∧ g.chainKind? = some .protocol) ∧
    (control ⟨⟨"m", 4⟩⟩).convertAll? [.unlift, .lift, .unlift, .lift] = none := by
  obtain ⟨_, kept, _⟩ :=
    conversions_lossless (protocol ⟨⟨"m", 4⟩⟩) [.unlift, .lift, .lift, .unlift, .lift]
  obtain ⟨lost, _⟩ := conversions_lossless (control ⟨⟨"m", 4⟩⟩) [.unlift, .lift, .unlift, .lift]
  obtain ⟨message, code, kind, views⟩ := kept _ rfl
  refine ⟨⟨_, rfl, message, code, views.chain.trans (congrArg some kind)⟩, ?_⟩
  exact lost.mpr ⟨[.unlift, .lift], [.lift], .control ⟨⟨"m", 4⟩⟩, rfl, rfl, nofun⟩

end AnyFailure

end MqttFailure
