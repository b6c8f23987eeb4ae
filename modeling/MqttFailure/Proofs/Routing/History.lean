import MqttFailure.Proofs.Routing.EitherWay
set_option autoImplicit false

namespace MqttFailure

inductive Delivery.UnderTexts : Delivery → Prop
  | caught (root : Raised) (texts : List String) : UnderTexts (.caught (root.underTexts texts))
  | direct (failure : AnyFailure) : UnderTexts (.direct failure)

-- The parts of an entry fit together. Without a kind there is no code, and one of the steps so far
-- has handed over the error that left the entry as it was caught.
structure Entry.Sound (e : Entry) (steps : List Step) : Prop where
  mqtt : e.destination = .mqtt ↔ e.kind = some .protocol
  foreign : e.destination = .foreign ↔ e.kind = none
  generic : e.destination = .generic ↔ ∃ k, e.kind = some k ∧ k ≠ .protocol
  code : e.kind = none → e.code = 0
  caught : e.kind = none → ∃ context error,
    .deliver context (some (.caught error)) ∈ steps ∧ e = (Delivery.caught error).entry

theorem Entry.Sound.mono {e : Entry} {steps more : List Step} (sound : e.Sound steps)
    (inside : steps ⊆ more) : e.Sound more :=
  { sound with
    caught := fun unknown =>
      let ⟨context, error, handed, left⟩ := sound.caught unknown
      ⟨context, error, inside handed, left⟩ }

structure Event.TellsOf (v : Event) (e : Entry) : Prop where
  kind : e.kind = some v.kind
  code : v.code = e.code
  reason : v.reason = e.message
  level : v.level = .warn ↔ v.kind = .protocol ∨ v.kind = .control

theorem Destination.of_kind_mqtt {k : Option Kind} : ofKind? k = .mqtt ↔ k = some .protocol := by
  cases k with
  | none => simp [ofKind?]
  | some k => cases k <;> simp [ofKind?]

theorem Destination.of_kind_foreign {k : Option Kind} : ofKind? k = .foreign ↔ k = none := by
  cases k with
  | none => simp [ofKind?]
  | some k => cases k <;> simp [ofKind?]

theorem Destination.of_kind_generic {k : Option Kind} :
    ofKind? k = .generic ↔ ∃ known, k = some known ∧ known ≠ .protocol := by
  cases k with
  | none => simp [ofKind?]
  | some k => cases k <;> simp [ofKind?]

theorem Level.of_kind_warn {k : Kind} : ofKind k = .warn ↔ k = .protocol ∨ k = .control := by
  cases k <;> simp [ofKind]

namespace Delivery

theorem reported_kind {d : Delivery} (plain : d.UnderTexts) {f : AnyFailure}
    (reported : d.reported? = some f) : d.kind? = some f.kind := by
  cases plain with
  | caught root texts =>
      have raised : root.failure? = some f := by
        simpa only [reported?, Raised.reported_under_texts] using reported
      rw [kind?, Raised.kind_under_texts, raised, Option.some_or, Option.map_some]
  | direct failure =>
      obtain rfl : failure = f := by simpa only [reported?, Option.some_inj] using reported
      rfl

theorem caught_of_unknown {d : Delivery} (unknown : d.entry.kind = none) :
    ∃ error, d = .caught error := by
  cases d with
  | caught error => exact ⟨error, rfl⟩
  | direct f => contradiction

theorem code_of_unknown {d : Delivery} (plain : d.UnderTexts) (unknown : d.entry.kind = none) :
    d.entry.code = 0 := by
  cases reported : d.reported? with
  | none => rw [entry, status, reported, Option.map_none, Option.getD_none]
  | some f =>
      have known := reported_kind plain reported
      rw [entry, known] at unknown
      contradiction

theorem entry_sound {d : Delivery} (plain : d.UnderTexts) {steps : List Step}
    (handed : d.entry.kind = none → ∃ context, .deliver context (some d) ∈ steps) :
    d.entry.Sound steps := by
  have sent : d.entry.destination = Destination.ofKind? d.kind? := d.destination_eq
  refine ⟨?_, ?_, ?_, code_of_unknown plain, ?_⟩
  · rw [sent, Destination.of_kind_mqtt, entry]
  · rw [sent, Destination.of_kind_foreign, entry]
  · rw [sent, Destination.of_kind_generic, entry]
  · intro unknown
    obtain ⟨context, inside⟩ := handed unknown
    obtain ⟨error, rfl⟩ := caught_of_unknown unknown
    exact ⟨context, error, inside, rfl⟩

theorem event_tells {d : Delivery} (plain : d.UnderTexts) {context : String} {v : Event}
    (told : d.event? context = some v) : v.context = context ∧ v.TellsOf d.entry := by
  obtain ⟨f, reported, rfl⟩ := Option.map_eq_some_iff.mp told
  refine ⟨rfl, reported_kind plain reported, ?_, ?_, Level.of_kind_warn⟩
  · rw [entry, status, reported]
    rfl
  · rw [entry, status, reported]
    rfl

end Delivery

-- An error that a step delivers is under nothing but texts. Steps that raise an error themselves
-- only ever add texts to it.
def Step.UnderTexts : Step → Prop
  | .deliver _ (some d) => d.UnderTexts
  | _ => True

namespace Session

def Sound (s : Session) (steps : List Step) : Prop := ∀ e ∈ s.dispatcher.log, e.Sound steps

theorem Sound.mono {s : Session} {steps more : List Step} (sound : s.Sound steps)
    (inside : steps ⊆ more) : s.Sound more :=
  fun e found => (sound e found).mono inside

theorem start_sound : start.Sound [] := by
  intro e found
  simp [start, Dispatcher.idle] at found

theorem kept_in_dispatcher (s : Session) (slot : Option String) (f : AnyFailure) :
    (s.keptIn slot f).dispatcher = s.dispatcher := by
  cases slot <;> rfl

theorem delivered_sound {s : Session} {steps : List Step} (sound : s.Sound steps) {d : Delivery}
    (entry : d.entry.Sound steps) (context : String) (result : Result) :
    (s.delivered context d result).session.Sound steps := by
  intro e found
  rcases List.mem_append.mp found with earlier | last
  · exact sound e earlier
  · rw [List.mem_singleton.mp last]
    exact entry

theorem deliver_sound {s : Session} {steps : List Step} (sound : s.Sound steps)
    {delivery : Option Delivery} (entries : ∀ d, delivery = some d → d.entry.Sound steps)
    (context : String) : (s.deliver context delivery).session.Sound steps := by
  cases delivery with
  | none => exact sound
  | some d => exact delivered_sound sound (entries d rfl) context _

theorem raised_sound {s : Session} {steps : List Step} (sound : s.Sound steps) (f : AnyFailure)
    (catching : Option Catching) (slot : Option String) :
    (s.raised f catching slot).session.Sound steps := by
  have kept : (s.keptIn slot f).Sound steps := by
    rw [Sound, kept_in_dispatcher]
    exact sound
  cases catching with
  | none => exact kept
  | some c =>
      have entry :
          (Delivery.caught ((Caught.ofFailure f).underTexts c.texts)).entry.Sound steps := by
        rw [Caught.ofFailure, Raised.bare_under_texts]
        refine Delivery.entry_sound (.caught (.failure f) c.texts.reverse) ?_
        rw [Delivery.caught_entry]
        intro unknown
        cases unknown
      exact delivered_sound kept entry c.context _

theorem keep_sound {s : Session} {steps : List Step} (sound : s.Sound steps) (slot : String)
    (failure : Option AnyFailure) : (s.keep slot failure).session.Sound steps := by
  cases failure with
  | none => exact sound
  | some f => exact sound

theorem step_sound {s : Session} {steps : List Step} (earlier : s.Sound steps) {step : Step}
    (plain : step.UnderTexts) : (s.step step).session.Sound (steps ++ [step]) := by
  have sound : s.Sound (steps ++ [step]) := earlier.mono (List.subset_append_left _ _)
  cases step with
  | connect catching slot =>
      rw [Session.step]
      cases s.broker.connect with
      | ok => exact sound
      | error e => exact raised_sound sound (.client e) catching slot
  | subscribe filters catching slot =>
      rw [Session.step]
      cases s.broker.subscribe filters with
      | ok => exact sound
      | error e => exact raised_sound sound (.protocol e) catching slot
  | deliver context delivery =>
      refine deliver_sound sound ?_ context
      rintro d rfl
      exact Delivery.entry_sound plain fun _ => ⟨context, by simp⟩
  | deliverKept context slot =>
      refine deliver_sound sound ?_ context
      intro d found
      obtain ⟨f, _, rfl⟩ := Option.map_eq_some_iff.mp found
      exact Delivery.entry_sound (.direct f) nofun
  | restart => exact start_sound.mono (List.nil_subset _)
  | keep slot failure => exact keep_sound sound slot failure
  | copy slot target => exact keep_sound sound target (s.shelf.get? slot)
  | lift slot =>
      rw [Session.step]
      cases s.shelf.get? slot with
      | none => exact sound
      | some f => exact sound
  | script broker => exact sound
  | latest => exact sound
  | log => exact sound
  | read slot => exact sound
  | drop slot => exact sound
  | unread problem => exact sound

theorem run_sound {s : Session} {earlier : List Step} (sound : s.Sound earlier)
    {steps : List Step} (plain : ∀ step ∈ steps, step.UnderTexts) {o : Outcome}
    (reached : o ∈ s.run steps) : o.session.Sound (earlier ++ steps) := by
  induction steps generalizing s earlier with
  | nil => contradiction
  | cons first rest ih =>
      have stepped := step_sound sound (plain first (by simp))
      rw [List.append_cons]
      rcases List.mem_cons.mp reached with rfl | later
      · exact stepped.mono (List.subset_append_left _ _)
      · exact ih stepped (fun step inside => plain step (by simp [inside])) later

end Session

structure Handover where
  context : String
  delivery : Delivery
  plain : delivery.UnderTexts

namespace Handover

def step (h : Handover) : Step := .deliver h.context (some h.delivery)

def entry (h : Handover) : Entry := h.delivery.entry

theorem step_under_texts (h : Handover) : h.step.UnderTexts := h.plain

end Handover

structure Session.Outcome.Records (o : Outcome) (earlier : List Entry) (h : Handover) : Prop where
  log : o.session.dispatcher.log = earlier ++ [h.entry]
  returned : o.result = .delivered h.entry.destination
  latest : (o.session.step .latest).result = .entry h.entry
  event : ∀ v, o.event = some v → v.context = h.context ∧ v.TellsOf h.entry
  sound : h.entry.Sound [h.step]
  unknown : h.entry.kind = none → ∃ error, h.delivery = .caught error

namespace Session

theorem handover_recorded (s : Session) (h : Handover) :
    (s.step h.step).Records s.dispatcher.log h where
  log := rfl
  returned := rfl
  latest := by
    have last : (s.step h.step).session.dispatcher.latest? = some h.entry := List.getLast?_concat
    rw [Session.step, last]
    rfl
  event := fun v => Delivery.event_tells h.plain
  sound := Delivery.entry_sound h.plain fun _ => ⟨h.context, List.mem_singleton_self _⟩
  unknown := Delivery.caught_of_unknown

theorem handovers_recorded (s : Session) {hs : List Handover} {i : Nat} {h : Handover}
    (found : hs[i]? = some h) :
    ∃ o, (s.run (hs.map Handover.step))[i]? = some o ∧
      o.Records (s.dispatcher.log ++ (hs.take i).map Handover.entry) h := by
  induction hs generalizing s i with
  | nil => simp at found
  | cons first rest ih =>
      cases i with
      | zero =>
          obtain rfl : first = h := by simpa using found
          refine ⟨s.step first.step, rfl, ?_⟩
          simpa using s.handover_recorded first
      | succ i =>
          obtain ⟨o, later, records⟩ := ih (s.step first.step).session (by simpa using found)
          refine ⟨o, later, ?_⟩
          rw [(s.handover_recorded first).log, List.append_assoc] at records
          simpa using records

theorem run_length (s : Session) (steps : List Step) : (s.run steps).length = steps.length := by
  induction steps generalizing s with
  | nil => rfl
  | cons first rest ih => simp [run, ih]

/-- Each hand-over adds its own entry behind all earlier ones, and in every session that is reached
from the start the parts of each entry fit together. -/
theorem history_kept (s : Session) (hs : List Handover) (steps : List Step)
    (plain : ∀ step ∈ steps, step.UnderTexts) :
    (s.run (hs.map Handover.step)).length = hs.length ∧
      (∀ (i : Nat) (h : Handover), hs[i]? = some h →
        ∃ o, (s.run (hs.map Handover.step))[i]? = some o ∧
          o.Records (s.dispatcher.log ++ (hs.take i).map Handover.entry) h) ∧
      ∀ o ∈ start.run steps, ∀ e ∈ o.session.dispatcher.log, e.Sound steps := by
  refine ⟨?_, fun i h => s.handovers_recorded, ?_⟩
  · rw [run_length, List.length_map]
  · intro o reached
    exact run_sound start_sound plain reached

theorem foreign_before_protocol_kept :
    ∃ hs : List Handover, (∀ step ∈ hs.map Handover.step, step.UnderTexts) ∧
      ∃ o, (start.run (hs.map Handover.step))[1]? = some o ∧
        o.session.dispatcher.log =
          [⟨.foreign, none, "saving", 0⟩, ⟨.mqtt, some .protocol, "Couldn't publish", 4⟩] ∧
        ∀ e ∈ o.session.dispatcher.log, e.Sound (hs.map Handover.step) := by
  let saving : Handover := ⟨"write", _, .caught (.ofMessage "disk full") ["saving"]⟩
  let publishing : Handover := ⟨"publish", _, .direct (.protocol ⟨⟨"Couldn't publish", 4⟩⟩)⟩
  have plain : ∀ step ∈ [saving, publishing].map Handover.step, step.UnderTexts := by
    intro step inside
    obtain ⟨h, _, rfl⟩ := List.mem_map.mp inside
    exact h.step_under_texts
  obtain ⟨_, recorded, sound⟩ := history_kept start [saving, publishing] _ plain
  obtain ⟨o, reached, records⟩ := recorded 1 publishing rfl
  refine ⟨[saving, publishing], plain, o, reached, records.log.trans ?_, ?_⟩
  · rfl
  · exact sound o (List.mem_of_getElem? reached)

end Session

end MqttFailure
