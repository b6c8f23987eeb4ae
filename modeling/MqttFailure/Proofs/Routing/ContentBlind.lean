import MqttFailure.Proofs.Routing.Likeness
set_option autoImplicit false

namespace MqttFailure

inductive Answers {ε : Type} (asFailure : ε → AnyFailure) : Except ε Unit → Except ε Unit → Prop
  | ok : Answers asFailure (.ok ()) (.ok ())
  | error {e f : ε} (alike : (asFailure e).Alike (asFailure f)) :
      Answers asFailure (.error e) (.error f)

structure Broker.Alike (a b : Broker) : Prop where
  refusal : a.refusal.isSome = b.refusal.isSome
  connack : a.connack = b.connack
  suback : a.suback = b.suback
  socketError : a.socketError.isSome = b.socketError.isSome

theorem alike_options {α β : Type} {x : Option α} {y : Option β} (same : x.isSome = y.isSome) :
    Option.Rel (fun _ _ => True) x y := by
  cases x with
  | none =>
      cases y with
      | none => exact .none
      | some b => contradiction
  | some a =>
      cases y with
      | none => contradiction
      | some b => exact .some trivial

namespace Broker

variable {a b : Broker}

theorem Alike.connect (alike : a.Alike b) : Answers .client a.connect b.connect := by
  rcases a with ⟨refusal, connack, suback, socketError⟩
  rcases b with ⟨refusal', connack', suback', socketError'⟩
  obtain ⟨refusals, rfl, rfl, errors⟩ := alike
  cases alike_options errors with
  | some => exact .error (.converted (.io _ _))
  | none =>
      cases alike_options refusals with
      | some => exact .error (.client .protocol _ _)
      | none =>
          rw [Broker.connect]
          by_cases success : connack = .success
          · simp only [if_pos success]
            exact .ok
          · simp only [if_neg success]
            exact .error (.converted (.refused _ _))

theorem zip_alike {filters others : List String} (as_many : filters.length = others.length)
    (replies : List Connection.SubscribeReply) :
    List.Forall₂ (fun x y => x.2 = y.2) (filters.zip replies) (others.zip replies) := by
  induction filters generalizing others replies with
  | nil =>
      obtain rfl := List.length_eq_zero_iff.mp as_many.symm
      exact .nil
  | cons filter filters ih =>
      cases others with
      | nil => contradiction
      | cons other others =>
          cases replies with
          | nil => exact .nil
          | cons reply replies => exact .cons rfl (ih (by simpa using as_many) replies)

theorem Alike.subscribe (alike : a.Alike b) {filters others : List String}
    (as_many : filters.length = others.length) :
    Answers .protocol (a.subscribe filters) (b.subscribe others) := by
  have refused (x y : String × Connection.SubscribeReply) (same : x.2 = y.2) :
      Option.Rel (fun _ _ => True) (x.2.failure? x.1) (y.2.failure? y.1) := by
    rw [← same]
    cases x.2 with
    | granted qos => exact .none
    | refused => exact .some trivial
  have first := find_related refused (zip_alike as_many a.suback)
  rw [Broker.subscribe, Broker.subscribe, ← alike.suback]
  revert first
  rcases (filters.zip a.suback).findSome? _ with _ | e <;>
    rcases (others.zip a.suback).findSome? _ with _ | f <;> intro first <;> cases first
  · exact .ok
  · exact .error (.protocol e f)

end Broker

def SameSlot (x y : String × AnyFailure) : Prop := x.1 = y.1 ∧ x.2.Alike y.2

def Shelf.Alike (s t : Shelf) : Prop := List.Forall₂ SameSlot s.entries t.entries

namespace Shelf

variable {s t : Shelf} {f g : AnyFailure}

theorem lookup_alike {l m : List (String × AnyFailure)} (alike : List.Forall₂ SameSlot l m)
    (name : String) : Option.Rel AnyFailure.Alike (l.lookup name) (m.lookup name) := by
  induction alike with
  | nil => exact .none
  | @cons x y l m here rest ih =>
      rcases x with ⟨slot, f⟩
      rcases y with ⟨other, g⟩
      obtain ⟨rfl, failures⟩ := here
      by_cases same : name = slot
      · simpa [List.lookup_cons, same] using failures
      · have different : (name == slot) = false := by simpa using same
        simpa only [List.lookup_cons, different] using ih

theorem Alike.look_up (alike : s.Alike t) (name : String) :
    Option.Rel AnyFailure.Alike (s.get? name) (t.get? name) := lookup_alike alike name

theorem insert_entry_alike {l m : List (String × AnyFailure)} (alike : List.Forall₂ SameSlot l m)
    (failures : f.Alike g) (name : String) :
    List.Forall₂ SameSlot (insertEntry name f l) (insertEntry name g m) := by
  induction alike with
  | nil => exact .cons ⟨rfl, failures⟩ .nil
  | @cons x y l m here rest ih =>
      rcases x with ⟨slot, kept⟩
      rcases y with ⟨other, kept'⟩
      obtain ⟨rfl, others⟩ := here
      rw [insertEntry, insertEntry]
      by_cases before : name < slot
      · rw [if_pos before, if_pos before]
        exact .cons ⟨rfl, failures⟩ (.cons ⟨rfl, others⟩ rest)
      · rw [if_neg before, if_neg before]
        by_cases same : name = slot
        · rw [if_pos same, if_pos same]
          exact .cons ⟨rfl, failures⟩ rest
        · rw [if_neg same, if_neg same]
          exact .cons ⟨rfl, others⟩ ih

theorem Alike.insert (alike : s.Alike t) (failures : f.Alike g) (name : String) :
    (s.insert name f).Alike (t.insert name g) := insert_entry_alike alike failures name

theorem Alike.erase (alike : s.Alike t) (name : String) : (s.erase name).Alike (t.erase name) := by
  refine List.rel_filter ?_ alike
  intro x y here
  simp [here.1]

end Shelf

-- How often a text is added to an error is no content; which one is.
def Catching.Alike (a b : Catching) : Prop := a.texts.length = b.texts.length

inductive Step.Alike : Step → Step → Prop
  | script {a b : Broker} (brokers : a.Alike b) : Alike (.script a) (.script b)
  | connect {a b : Option Catching} (catchings : Option.Rel Catching.Alike a b)
      (slot : Option String) : Alike (.connect a slot) (.connect b slot)
  | subscribe {filters others : List String} (as_many : filters.length = others.length)
      {a b : Option Catching} (catchings : Option.Rel Catching.Alike a b) (slot : Option String) :
      Alike (.subscribe filters a slot) (.subscribe others b slot)
  | deliver (context other : String) {a b : Option Delivery}
      (deliveries : Option.Rel Delivery.Alike a b) : Alike (.deliver context a) (.deliver other b)
  | deliverKept (context other slot : String) :
      Alike (.deliverKept context slot) (.deliverKept other slot)
  | latest : Alike .latest .latest
  | log : Alike .log .log
  | restart : Alike .restart .restart
  | keep (slot : String) {a b : Option AnyFailure} (failures : Option.Rel AnyFailure.Alike a b) :
      Alike (.keep slot a) (.keep slot b)
  | copy (slot target : String) : Alike (.copy slot target) (.copy slot target)
  | read (slot : String) : Alike (.read slot) (.read slot)
  | drop (slot : String) : Alike (.drop slot) (.drop slot)
  | lift (slot : String) : Alike (.lift slot) (.lift slot)
  | unread (problem : Json.ReadError) : Alike (.unread problem) (.unread problem)

def Result.blanked : Result → Result
  | .failure f => .failure f.blanked
  | .caught f _ destination => .caught f.blanked "" destination
  | .entry e => .entry e.blanked
  | .entries es => .entries (es.map Entry.blanked)
  | .text _ => .text ""
  | result => result

theorem Result.text_blanked (shown other : String) :
    (Result.text shown).blanked = (Result.text other).blanked := rfl

namespace Session

structure Outline where
  result : Result
  kinds : List (Option Kind)
  destinations : List Destination
  level : Option Level
  deriving DecidableEq

def Outcome.outline (o : Outcome) : Outline :=
  ⟨o.result.blanked, o.session.dispatcher.log.map Entry.kind,
    o.session.dispatcher.log.map Entry.destination, o.event.map Event.level⟩

structure Alike (s t : Session) : Prop where
  broker : s.broker.Alike t.broker
  log : s.dispatcher.log.map Entry.blanked = t.dispatcher.log.map Entry.blanked
  shelf : s.shelf.Alike t.shelf

structure Outcome.Alike (a b : Outcome) : Prop where
  session : a.session.Alike b.session
  result : a.result.blanked = b.result.blanked
  level : a.event.map Event.level = b.event.map Event.level

def answered {ε : Type} (s : Session) (asFailure : ε → AnyFailure) (reply : Except ε Unit)
    (catching : Option Catching) (slot : Option String) : Outcome :=
  match reply with
  | .ok () => silent s .success
  | .error e => s.raised (asFailure e) catching slot

theorem step_connect (s : Session) (catching : Option Catching) (slot : Option String) :
    s.step (.connect catching slot) = s.answered .client s.broker.connect catching slot := by
  rw [Session.step]
  cases s.broker.connect <;> rfl

theorem step_subscribe (s : Session) (filters : List String) (catching : Option Catching)
    (slot : Option String) : s.step (.subscribe filters catching slot) =
      s.answered .protocol (s.broker.subscribe filters) catching slot := by
  rw [Session.step]
  cases s.broker.subscribe filters <;> rfl

theorem start_alike : start.Alike start := ⟨⟨rfl, rfl, rfl, rfl⟩, rfl, .nil⟩

theorem Outcome.Alike.outline {a b : Outcome} (alike : a.Alike b) : a.outline = b.outline := by
  have read {α : Type} (part : Entry → α) (kept : ∀ e, part e = part e.blanked)
      (log : List Entry) : log.map part = (log.map Entry.blanked).map part := by
    rw [List.map_map]
    exact List.map_congr_left fun e _ => kept e
  rw [Outcome.outline, Outcome.outline, alike.result, alike.level, read Entry.kind (fun _ => rfl),
    read Entry.destination (fun _ => rfl), alike.session.log, ← read Entry.kind (fun _ => rfl),
    ← read Entry.destination (fun _ => rfl)]

variable {s t : Session} {f g : AnyFailure}

theorem Alike.silent (alike : s.Alike t) {a b : Result} (results : a.blanked = b.blanked) :
    (silent s a).Alike (silent t b) := ⟨alike, results, rfl⟩

theorem Alike.delivered (alike : s.Alike t) {d e : Delivery} (deliveries : d.Alike e)
    (context other : String) {a b : Result} (results : a.blanked = b.blanked) :
    (s.delivered context d a).Alike (t.delivered other e b) := by
  refine ⟨⟨alike.broker, ?_, alike.shelf⟩, results, deliveries.level context other⟩
  simp [Session.delivered, Dispatcher.dispatch, alike.log, deliveries.entry]

theorem Alike.kept_in (alike : s.Alike t) (slot : Option String) (failures : f.Alike g) :
    (s.keptIn slot f).Alike (t.keptIn slot g) := by
  cases slot with
  | none => exact alike
  | some name => exact ⟨alike.broker, alike.log, alike.shelf.insert failures name⟩

theorem Alike.raised (alike : s.Alike t) (failures : f.Alike g) {a b : Option Catching}
    (catchings : Option.Rel Catching.Alike a b) (slot : Option String) :
    (s.raised f a slot).Alike (t.raised g b slot) := by
  have kept := alike.kept_in slot failures
  cases catchings with
  | none => exact kept.silent (by simp [Result.blanked, failures.blanked])
  | some as_many =>
      have deliveries := Delivery.Alike.caught (Caught.under_texts_alike failures as_many)
      refine kept.delivered deliveries _ _ ?_
      simp [Result.blanked, failures.blanked, deliveries.destination]

theorem Alike.answered {ε : Type} {asFailure : ε → AnyFailure} (alike : s.Alike t)
    {x y : Except ε Unit} (answers : Answers asFailure x y) {a b : Option Catching}
    (catchings : Option.Rel Catching.Alike a b) (slot : Option String) :
    (s.answered asFailure x a slot).Alike (t.answered asFailure y b slot) := by
  cases answers with
  | ok => exact alike.silent rfl
  | error failures => exact alike.raised failures catchings slot

theorem Alike.deliver (alike : s.Alike t) {a b : Option Delivery}
    (deliveries : Option.Rel Delivery.Alike a b) (context other : String) :
    (s.deliver context a).Alike (t.deliver other b) := by
  cases deliveries with
  | none => exact alike.silent rfl
  | some here => exact alike.delivered here context other (by rw [here.destination])

theorem Alike.keep (alike : s.Alike t) {a b : Option AnyFailure}
    (failures : Option.Rel AnyFailure.Alike a b) (slot : String) :
    (s.keep slot a).Alike (t.keep slot b) := by
  cases failures with
  | none => exact alike.silent rfl
  | some here =>
      exact (alike.kept_in (some slot) here).silent (by simp [Result.blanked, here.blanked])

theorem Alike.latest (alike : s.Alike t) :
    ((s.dispatcher.latest?.map Result.entry).getD .noEntry).blanked =
      ((t.dispatcher.latest?.map Result.entry).getD .noEntry).blanked := by
  have last : s.dispatcher.log.getLast?.map Entry.blanked =
      t.dispatcher.log.getLast?.map Entry.blanked := by
    rw [← List.getLast?_map, ← List.getLast?_map, alike.log]
  rw [Dispatcher.latest?, Dispatcher.latest?]
  revert last
  rcases s.dispatcher.log.getLast? with _ | e <;> rcases t.dispatcher.log.getLast? with _ | e' <;>
    intro last
  · rfl
  · contradiction
  · contradiction
  · exact congrArg Result.entry (Option.some.inj last)

theorem read_alike {x y : Option AnyFailure} (failures : Option.Rel AnyFailure.Alike x y) :
    ((x.map Result.failure).getD .nothing).blanked =
      ((y.map Result.failure).getD .nothing).blanked := by
  cases failures with
  | none => rfl
  | some here => simp [Result.blanked, here.blanked]

theorem step_alike (alike : s.Alike t) {a b : Step} (same : a.Alike b) :
    (s.step a).Alike (t.step b) := by
  cases same with
  | script brokers => exact ⟨⟨brokers, alike.log, alike.shelf⟩, rfl, rfl⟩
  | connect catchings slot =>
      rw [step_connect, step_connect]
      exact alike.answered alike.broker.connect catchings slot
  | subscribe as_many catchings slot =>
      rw [step_subscribe, step_subscribe]
      exact alike.answered (alike.broker.subscribe as_many) catchings slot
  | deliver context other deliveries => exact alike.deliver deliveries context other
  | deliverKept context other slot =>
      have deliveries := map_related (fun _ _ here => Delivery.Alike.direct here)
        (alike.shelf.look_up slot)
      exact alike.deliver deliveries context other
  | latest => exact alike.silent alike.latest
  | log => exact alike.silent (congrArg Result.entries alike.log)
  | restart => exact ⟨⟨alike.broker, rfl, alike.shelf⟩, rfl, rfl⟩
  | keep slot failures => exact alike.keep failures slot
  | copy slot target => exact alike.keep (alike.shelf.look_up slot) target
  | read slot => exact alike.silent (read_alike (alike.shelf.look_up slot))
  | drop slot =>
      refine ⟨⟨alike.broker, alike.log, alike.shelf.erase slot⟩, ?_, rfl⟩
      exact congrArg Result.dropped (is_some_related (alike.shelf.look_up slot))
  | lift slot =>
      have found := alike.shelf.look_up slot
      rw [Session.step, Session.step]
      revert found
      generalize s.shelf.get? slot = x
      generalize t.shelf.get? slot = y
      intro found
      cases found with
      | none => exact alike.silent rfl
      | some here => exact (alike.kept_in (some slot) here.lift).silent (Result.text_blanked _ _)
  | unread problem => exact alike.silent rfl

theorem run_alike (alike : s.Alike t) {a b : List Step} (same : List.Forall₂ Step.Alike a b) :
    List.Forall₂ Outcome.Alike (s.run a) (t.run b) := by
  induction same generalizing s t with
  | nil => exact .nil
  | cons first rest ih =>
      have stepped := step_alike alike first
      exact .cons stepped (ih stepped.session)

theorem outlines_eq {l m : List Outcome} (alike : List.Forall₂ Outcome.Alike l m) :
    l.map Outcome.outline = m.map Outcome.outline := by
  induction alike with
  | nil => rfl
  | cons first rest ih => rw [List.map_cons, List.map_cons, first.outline, ih]

/-- Two runs of the same steps with different content have the same outline: the same results but
for texts and codes, the same kinds and destinations in the log, the same levels of events. -/
theorem outline_content_blind (alike : s.Alike t) {a b : List Step}
    (same : List.Forall₂ Step.Alike a b) :
    (s.run a).map Outcome.outline = (t.run b).map Outcome.outline :=
  outlines_eq (run_alike alike same)

theorem misleading_texts_routed_alike :
    ∃ a b : List Step, List.Forall₂ Step.Alike a b ∧
      (start.run a).map Outcome.outline = (start.run b).map Outcome.outline ∧
      (start.run b).getLast?.map (fun o => o.outline.destinations) =
        some [.mqtt, .generic, .generic] := by
  let plain : List Step :=
    [.script (.unwilling ⟨"connection refused", 111⟩),
      .connect (some ⟨"connect", ["opening session"]⟩) none,
      .deliver "publish" (some (.direct (.client (.other ⟨"operation failed", 1⟩)))),
      .deliver "read" (some (.caught (.build (.connection (.io (.os 5))) [.lift] [.text "late"])))]
  let misleading : List Step :=
    [.script (.unwilling ⟨"disk full", 0⟩),
      .connect (some ⟨"", ["transport error: broken pipe (code 32)"]⟩) none,
      .deliver "" (some (.direct (.client (.other ⟨"MQTT protocol error: not authorized", 5⟩)))),
      .deliver "" (some (.caught (.build
        (.connection (.io (.bare ⟨"ConnectionRefused", "connection refused"⟩))) [.lift]
        [.text "connection refused: not authorized"])))]
  have converted := Caught.build_alike
    (.connection (.io (.os 5) (.bare ⟨"ConnectionRefused", "connection refused"⟩))
      (.cons .none .nil))
    (.cons (.same .lift) .nil)
    (.cons (.text "late" "connection refused: not authorized") .nil)
  have catchings : Catching.Alike ⟨"connect", ["opening session"]⟩
      ⟨"", ["transport error: broken pipe (code 32)"]⟩ := rfl
  have same : List.Forall₂ Step.Alike plain misleading := by
    refine .cons (.script ⟨rfl, rfl, rfl, rfl⟩) (.cons (.connect (.some catchings) none) ?_)
    refine .cons (.deliver _ _ (.some (.direct (.client .other _ _)))) ?_
    exact .cons (.deliver _ _ (.some (.caught converted))) .nil
  exact ⟨plain, misleading, same, outline_content_blind start_alike same, rfl⟩

end Session

end MqttFailure
