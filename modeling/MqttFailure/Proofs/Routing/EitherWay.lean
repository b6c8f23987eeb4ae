import MqttFailure.Proofs.Coherence
set_option autoImplicit false

namespace MqttFailure

namespace AnyFailure

def entry (f : AnyFailure) : Entry :=
  ⟨if f.kind = .protocol then .mqtt else .generic, some f.kind, f.message, f.code⟩

def event (f : AnyFailure) (context : String) : Event :=
  ⟨if f.kind = .protocol ∨ f.kind = .control then .warn else .error, context, f.kind, f.code,
    f.message⟩

def FoundIn (f : AnyFailure) (e : Caught) : Prop :=
  match f with
  | .protocol inner => e.find? protocol? = some inner
  | .control inner => e.find? control? = some inner
  | .client inner => e.find? client? = some inner

@[simp] theorem kind_lift (f : AnyFailure) : f.lift.kind = f.kind := by
  cases f <;> rfl

@[simp] theorem status_lift (f : AnyFailure) : f.lift.status = f.status := by
  cases f <;> rfl

theorem entry_lift (f : AnyFailure) : f.lift.entry = f.entry := by
  simp [entry, message, code]

theorem event_lift (f : AnyFailure) (context : String) :
    f.lift.event context = f.event context := by
  simp [event, message, code]

theorem of_failure_eq (f : AnyFailure) (context : String) :
    Event.ofFailure context f = f.event context := by
  rw [Event.ofFailure, event]
  cases f.kind <;> rfl

end AnyFailure

theorem Caught.under_texts (e : Caught) (texts : List String) :
    e.underTexts texts = ⟨texts.reverse.map Context.text ++ e.contexts, e.root⟩ := by
  induction texts generalizing e with
  | nil => rfl
  | cons first rest ih =>
      have more : e.underTexts (first :: rest) = (e.under (.text first)).underTexts rest := rfl
      rw [more, ih, under]
      simp

theorem Raised.bare_under_texts (root : Raised) (texts : List String) :
    (Caught.bare root).underTexts texts = root.underTexts texts.reverse := by
  rw [Caught.under_texts, Caught.bare, List.append_nil, underTexts]

theorem Raised.kind_under_texts (root : Raised) (texts : List String) :
    (root.underTexts texts).kind? =
      (root.failure?.or root.causes.failure?).map AnyFailure.kind := by
  rw [Caught.kind?, Chain.kind?, failure_under_texts]

namespace Delivery

theorem direct_entry (f : AnyFailure) : (direct f).entry = f.entry := rfl

theorem caught_entry (f : AnyFailure) (texts : List String) :
    (caught ((Raised.failure f).underTexts texts)).entry = f.entry := by
  have kind : (caught ((Raised.failure f).underTexts texts)).kind? = some f.kind :=
    (Raised.failure f).kind_under_texts texts
  have reported : (caught ((Raised.failure f).underTexts texts)).reported? = some f :=
    (Raised.failure f).reported_under_texts texts
  rw [entry, destination_eq, status, kind, reported, ← direct_entry, entry, destination_eq]
  rfl

theorem caught_event (f : AnyFailure) (texts : List String) (context : String) :
    (caught ((Raised.failure f).underTexts texts)).event? context = some (f.event context) := by
  have reported : (caught ((Raised.failure f).underTexts texts)).reported? = some f :=
    (Raised.failure f).reported_under_texts texts
  rw [event?, reported, Option.map_some, AnyFailure.of_failure_eq]

theorem direct_event (f : AnyFailure) (context : String) :
    (direct f).event? context = some (f.event context) := by
  rw [event?, reported?, Option.map_some, AnyFailure.of_failure_eq]

end Delivery

theorem AnyFailure.found_under_texts (f : AnyFailure) (texts : List String) :
    f.FoundIn ((Raised.failure f).underTexts texts) := by
  have visible : ((Raised.failure f).underTexts texts).visible = [f] :=
    (Raised.failure f).visible_under_texts texts
  cases f with
  | protocol inner => simp [FoundIn, Caught.find?, visible, protocol?]
  | control inner => simp [FoundIn, Caught.find?, visible, control?]
  | client inner => simp [FoundIn, Caught.find?, visible, client?]

namespace Session

def handled (s : Session) (context : String) (f : AnyFailure) : Outcome :=
  ⟨{ s with dispatcher := ⟨s.dispatcher.log ++ [f.entry]⟩ }, .delivered f.entry.destination,
    some (f.event context)⟩

theorem deliver_some (s : Session) (context : String) (d : Delivery) :
    s.deliver context (some d) = ⟨{ s with dispatcher := ⟨s.dispatcher.log ++ [d.entry]⟩ },
      .delivered d.entry.destination, d.event? context⟩ := rfl

theorem deliver_direct (s : Session) (context : String) (f : AnyFailure) :
    s.deliver context (some (.direct f)) = s.handled context f := by
  rw [deliver_some, Delivery.direct_entry, Delivery.direct_event, handled]

theorem deliver_caught (s : Session) (context : String) (f : AnyFailure) (texts : List String) :
    s.deliver context (some (.caught ((Caught.ofFailure f).underTexts texts))) =
      s.handled context f := by
  rw [Caught.ofFailure, Raised.bare_under_texts, deliver_some, Delivery.caught_entry,
    Delivery.caught_event, handled]

theorem handled_lift (s : Session) (context : String) (f : AnyFailure) :
    s.handled context f.lift = s.handled context f := by
  rw [handled, handled, AnyFailure.entry_lift, AnyFailure.event_lift]

/-- A failure is handled alike whether it is caught under any texts or handed over as such, and
whether it stands alone or has become a client failure. A search for its own type gives it back. -/
theorem failure_handled_either_way (s : Session) (context : String) (f : AnyFailure)
    (texts : List String) :
    s.deliver context (some (.direct f)) = s.handled context f ∧
      s.deliver context (some (.caught ((Caught.ofFailure f).underTexts texts))) =
        s.handled context f ∧
      s.deliver context (some (.direct f.lift)) = s.handled context f ∧
      s.deliver context (some (.caught ((Caught.ofFailure f.lift).underTexts texts))) =
        s.handled context f ∧
      f.FoundIn ((Caught.ofFailure f).underTexts texts) := by
  refine ⟨s.deliver_direct context f, s.deliver_caught context f texts, ?_, ?_, ?_⟩
  · rw [deliver_direct, handled_lift]
  · rw [deliver_caught, handled_lift]
  · rw [Caught.ofFailure, Raised.bare_under_texts]
    exact f.found_under_texts texts.reverse

end Session

end MqttFailure
