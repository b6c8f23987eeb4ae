import MqttFailure.Session
set_option autoImplicit false

namespace MqttFailure

def Raised.underTexts (root : Raised) (texts : List String) : Caught :=
  ⟨texts.map Context.text, root⟩

-- A log entry and the events that came with it describe one and the same error:
-- the first failure in its chain, or the outermost layer where there is none.
def Coherent (e : Caught) (entry : Entry) (events : List Event) : Prop :=
  match entry.kind with
  | some k => ∃ f, e.chain.failure? = some f ∧ f.kind = k ∧ entry.message = f.message ∧
      entry.code = f.code ∧
      ∃ event, events = [event] ∧ event.kind = k ∧ event.code = f.code ∧ event.reason = f.message
  | none => entry.code = 0 ∧ entry.message = e.text ∧ events = []

namespace Raised

variable (root : Raised) (texts : List String)

theorem failure_under_texts :
    (root.underTexts texts).chain.failure? = root.failure?.or root.causes.failure? := by
  have silent : ((texts.map Context.text).map Context.link).findSome? Link.failure = none := by
    rw [List.findSome?_eq_none_iff]
    intro link found
    obtain ⟨c, text, rfl⟩ := List.mem_map.mp found
    obtain ⟨message, _, rfl⟩ := List.mem_map.mp text
    rfl
  rw [Chain.failure?, Caught.chain, underTexts, List.findSome?_append, silent, Option.none_or,
    chain, List.findSome?_cons, link]
  cases root.failure? <;> rfl

theorem visible_under_texts : (root.underTexts texts).visible = root.failure?.toList := by
  have silent : (texts.map Context.text).filterMap Context.failure? = [] := by
    rw [List.filterMap_eq_nil_iff]
    intro c found
    obtain ⟨message, _, rfl⟩ := List.mem_map.mp found
    rfl
  rw [Caught.visible, underTexts, silent, List.nil_append]

theorem reported_under_texts : (root.underTexts texts).reported? = root.failure? := by
  rw [Caught.reported?, Caught.find?, Caught.find?, Caught.find?, visible_under_texts]
  cases root.failure? with
  | none => rfl
  | some f => cases f <;> rfl

end Raised

namespace Delivery

theorem coherent_failure {root : Raised} {f : AnyFailure} (raised : root.failure? = some f)
    (texts : List String) (context : String) :
    Coherent (root.underTexts texts) (caught (root.underTexts texts)).entry
      ((caught (root.underTexts texts)).event? context).toList := by
  have first : (root.underTexts texts).chain.failure? = some f := by
    rw [Raised.failure_under_texts, raised]
    rfl
  have kind : (caught (root.underTexts texts)).kind? = some f.kind := by
    rw [kind?, Caught.kind?, Chain.kind?, first]
    rfl
  have reported : (caught (root.underTexts texts)).reported? = some f := by
    rw [reported?, Raised.reported_under_texts, raised]
  simp only [Coherent, entry, kind, status, event?, reported, Option.map_some, Option.getD_some,
    Option.toList_some]
  exact ⟨f, first, rfl, rfl, rfl, _, rfl, rfl, rfl, rfl⟩

theorem coherent_foreign {root : Raised} (raised : root.failure? = none)
    (none_behind : root.causes.failure? = none) (texts : List String) (context : String) :
    Coherent (root.underTexts texts) (caught (root.underTexts texts)).entry
      ((caught (root.underTexts texts)).event? context).toList := by
  have kind : (caught (root.underTexts texts)).kind? = none := by
    rw [kind?, Caught.kind?, Chain.kind?, Raised.failure_under_texts, raised, none_behind]
    rfl
  have reported : (caught (root.underTexts texts)).reported? = none := by
    rw [reported?, Raised.reported_under_texts, raised]
  simp only [Coherent, entry, kind, status, event?, reported, Option.map_none, Option.getD_none,
    Option.toList_none]
  exact ⟨trivial, rfl, trivial⟩

theorem incoherent_hidden {root : Raised} {f : AnyFailure} (raised : root.failure? = none)
    (hidden : root.causes.failure? = some f) (texts : List String) (context : String) :
    ¬ Coherent (root.underTexts texts) (caught (root.underTexts texts)).entry
      ((caught (root.underTexts texts)).event? context).toList := by
  have kind : (caught (root.underTexts texts)).kind? = some f.kind := by
    rw [kind?, Caught.kind?, Chain.kind?, Raised.failure_under_texts, raised, hidden]
    rfl
  have reported : (caught (root.underTexts texts)).reported? = none := by
    rw [reported?, Raised.reported_under_texts, raised]
  simp only [Coherent, entry, kind, event?, reported, Option.map_none, Option.toList_none]
  rintro ⟨_, _, _, _, _, _, absent, _⟩
  cases absent

end Delivery

namespace Session

def DeliversCoherently (s : Session) (context : String) (e : Caught) : Prop :=
  ∃ entry, (s.deliver context (some (.caught e))).session.dispatcher.log =
      s.dispatcher.log ++ [entry] ∧
    Coherent e entry (s.deliver context (some (.caught e))).event.toList

theorem delivers_coherently_iff (s : Session) (context : String) (e : Caught) :
    s.DeliversCoherently context e ↔
      Coherent e (Delivery.caught e).entry ((Delivery.caught e).event? context).toList := by
  constructor
  · rintro ⟨entry, pushed, coherent⟩
    obtain rfl : _ = entry := List.singleton_inj.mp (List.append_cancel_left pushed)
    exact coherent
  · intro coherent
    exact ⟨_, rfl, coherent⟩

/-- An error is delivered coherently exactly when it is itself a failure of the client, or nothing
that caused it is one. -/
theorem delivered_coherent_iff (s : Session) (context : String) (root : Raised)
    (texts : List String) :
    s.DeliversCoherently context (root.underTexts texts) ↔
      root.failure?.isSome ∨ ∀ link ∈ root.causes, link.failure = none := by
  rw [delivers_coherently_iff, ← List.findSome?_eq_none_iff]
  change _ ↔ _ ∨ root.causes.failure? = none
  cases raised : root.failure? with
  | some f =>
      have coherent := Delivery.coherent_failure raised texts context
      exact ⟨fun _ => .inl rfl, fun _ => coherent⟩
  | none =>
      cases hidden : root.causes.failure? with
      | none =>
          have coherent := Delivery.coherent_foreign raised hidden texts context
          exact ⟨fun _ => .inr rfl, fun _ => coherent⟩
      | some f =>
          have incoherent := Delivery.incoherent_hidden raised hidden texts context
          exact ⟨fun coherent => absurd coherent incoherent, nofun⟩

-- The kind comes from behind the outer error, the text and the code from that error itself.
theorem hidden_failure_incoherent :
    ¬ start.DeliversCoherently "op"
      (((Raised.failure (.protocol ⟨⟨"m", 4⟩⟩)).carry (.foreign "outer")).underTexts []) := by
  rw [delivers_coherently_iff]
  exact Delivery.incoherent_hidden rfl rfl [] "op"

end Session

end MqttFailure
