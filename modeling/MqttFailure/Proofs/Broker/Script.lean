import MqttFailure.Proofs.Routing.ContentBlind
set_option autoImplicit false

namespace MqttFailure

namespace Broker

open Connection (ReturnCode SubscribeReply IoFault)

inductive Setting.Field where
  | connack
  | suback
  | socketError
  deriving DecidableEq

namespace Setting

def field : Setting → Field
  | .connack _ => .connack
  | .suback _ => .suback
  | .socketError _ => .socketError

def connack? : Setting → Option ReturnCode
  | .connack code => some code
  | _ => none

def socketError? : Setting → Option Int32
  | .socketError number => some number
  | _ => none

end Setting

theorem set_same {x y : Setting} (same : x.field = y.field) (b : Broker) :
    (b.set x).set y = b.set y := by
  cases x <;> cases y <;> simp_all [Setting.field, set]

theorem set_comm {x y : Setting} (apart : x.field ≠ y.field) (b : Broker) :
    (b.set x).set y = (b.set y).set x := by
  cases x <;> cases y <;> simp_all [Setting.field, set]

theorem set_superseded {x : Setting} {after : List Setting}
    (later : ∃ y ∈ after, y.field = x.field) (b : Broker) :
    (b.set x).setAll after = b.setAll after := by
  induction after generalizing b with
  | nil =>
      obtain ⟨y, found, _⟩ := later
      cases found
  | cons y rest ih =>
      by_cases same : x.field = y.field
      · exact congrArg (setAll · rest) (set_same same b)
      · -- The setting moves behind this one, towards the later one of its field.
        obtain ⟨z, found, later⟩ := later
        have behind : z ∈ rest := by
          rcases List.mem_cons.mp found with rfl | behind
          · exact absurd later.symm same
          · exact behind
        have moved := congrArg (setAll · rest) (set_comm same b)
        exact moved.trans (ih ⟨z, behind, later⟩ (b.set y))

theorem set_through {x : Setting} {after : List Setting}
    (apart : ∀ y ∈ after, x.field ≠ y.field) (b : Broker) :
    (b.set x).setAll after = (b.setAll after).set x := by
  induction after generalizing b with
  | nil => rfl
  | cons y rest ih =>
      have moved := congrArg (setAll · rest) (set_comm (apart y List.mem_cons_self) b)
      exact moved.trans (ih (fun z found => apart z (List.mem_cons_of_mem y found)) (b.set y))

theorem set_all_append (b : Broker) (before after : List Setting) :
    b.setAll (before ++ after) = (b.setAll before).setAll after := List.foldl_append

theorem set_all_without {α : Type} {read : Broker → α} {x : Setting}
    (kept : ∀ b, read (b.set x) = read b) (b : Broker) (before after : List Setting) :
    read (b.setAll (before ++ x :: after)) = read (b.setAll (before ++ after)) := by
  rw [set_all_append, set_all_append]
  change read (((b.setAll before).set x).setAll after) = _
  by_cases later : ∃ y ∈ after, y.field = x.field
  · rw [set_superseded later]
  · have apart : ∀ y ∈ after, x.field ≠ y.field :=
      fun y found same => later ⟨y, found, same.symm⟩
    rw [set_through apart, kept]

def lastOf {α : Type} (select : Setting → Option α) (script : List Setting) : Option α :=
  (script.filterMap select).getLast?

theorem last_cons {α : Type} (select : Setting → Option α) (x : Setting) (rest : List Setting) :
    lastOf select (x :: rest) = (lastOf select rest).or (select x) := by
  rw [lastOf, List.filterMap_cons, lastOf]
  cases select x with
  | none => exact Option.or_none.symm
  | some value =>
      change (value :: _).getLast? = _
      rw [List.getLast?_cons]
      cases (rest.filterMap select).getLast? <;> rfl

theorem last_eq_none_iff {α : Type} {select : Setting → Option α} {script : List Setting} :
    lastOf select script = none ↔ ∀ x ∈ script, select x = none := by
  rw [lastOf, List.getLast?_eq_none_iff, List.filterMap_eq_nil_iff]

-- A field holds the last value that a script gives it, and otherwise what it held before.
theorem set_all_last {α β : Type} {read : Broker → β} {select : Setting → Option α} {held : α → β}
    (step : ∀ b x, read (b.set x) = (select x).elim (read b) held) (b : Broker)
    (script : List Setting) :
    read (b.setAll script) = (lastOf select script).elim (read b) held := by
  induction script generalizing b with
  | nil => rfl
  | cons x rest ih =>
      change read ((b.set x).setAll rest) = _
      rw [ih, step, last_cons]
      cases lastOf select rest <;> rfl

theorem set_all_kept {α : Type} {read : Broker → α} (kept : ∀ b x, read (b.set x) = read b)
    (b : Broker) (script : List Setting) : read (b.setAll script) = read b := by
  induction script generalizing b with
  | nil => rfl
  | cons x rest ih => exact (ih (b.set x)).trans (kept b x)

theorem connack_set (b : Broker) (x : Setting) :
    (b.set x).connack = x.connack?.elim b.connack id := by
  cases x <;> rfl

theorem socket_error_set (b : Broker) (x : Setting) :
    (b.set x).socketError = x.socketError?.elim b.socketError some := by
  cases x <;> rfl

theorem refusal_set (b : Broker) (x : Setting) : (b.set x).refusal = b.refusal := by
  cases x <;> rfl

theorem connect_suback (b : Broker) (replies : List SubscribeReply) :
    (b.set (.suback replies)).connect = b.connect := rfl

theorem subscribe_other {x : Setting} (apart : x.field ≠ .suback) (b : Broker) :
    (b.set x).subscribe = b.subscribe := by
  cases x with
  | connack code => rfl
  | suback replies => exact absurd rfl apart
  | socketError number => rfl

theorem connect_socket_error {b : Broker} {number : Int32} (broken : b.socketError = some number) :
    b.connect = .error (.transport ⟨(IoFault.os number).text, number⟩) := by
  rw [connect, broken]
  rfl

theorem connect_refusal {b : Broker} {failure : ProtocolFailure} (unbroken : b.socketError = none)
    (refused : b.refusal = some failure) : b.connect = .error (.protocol failure) := by
  rw [connect, unbroken, refused]

theorem connect_connack {b : Broker} {code : ReturnCode} (unbroken : b.socketError = none)
    (willing : b.refusal = none) (sent : b.connack = code) (refused : code ≠ .success) :
    ∃ failure, code.failure? = some failure ∧ b.connect = .error (.protocol failure) := by
  have answered : b.connect = .error (Connection.Fault.refused code).toFailure := by
    rw [connect, unbroken, willing, sent]
    exact if_neg refused
  cases code with
  | success => exact absurd rfl refused
  | refusedProtocolVersion => exact ⟨_, rfl, answered⟩
  | badClientId => exact ⟨_, rfl, answered⟩
  | serviceUnavailable => exact ⟨_, rfl, answered⟩
  | badUserNamePassword => exact ⟨_, rfl, answered⟩
  | notAuthorized => exact ⟨_, rfl, answered⟩

theorem connect_ok_iff {b : Broker} :
    b.connect = .ok () ↔ b.socketError = none ∧ b.refusal = none ∧ b.connack = .success := by
  cases broken : b.socketError with
  | some number => simp [connect_socket_error broken]
  | none =>
      cases refused : b.refusal with
      | some failure => simp [connect_refusal broken refused]
      | none => simp [connect, broken, refused]

def scripted (refusal : Option Status) (script : List Setting) : Broker :=
  (refusal.elim willing unwilling).setAll script

section Scripted

variable (refusal : Option Status) (script : List Setting)

theorem scripted_connack :
    (scripted refusal script).connack = (lastOf Setting.connack? script).getD .success := by
  rw [scripted, set_all_last connack_set]
  cases refusal <;> cases lastOf Setting.connack? script <;> rfl

theorem scripted_socket_error :
    (scripted refusal script).socketError = lastOf Setting.socketError? script := by
  rw [scripted, set_all_last socket_error_set]
  cases refusal <;> cases lastOf Setting.socketError? script <;> rfl

theorem scripted_refusal : (scripted refusal script).refusal = refusal.map ProtocolFailure.mk := by
  rw [scripted, set_all_kept refusal_set]
  cases refusal <;> rfl

theorem scripted_unbroken :
    (scripted refusal script).socketError = none ↔ ∀ number, .socketError number ∉ script := by
  rw [scripted_socket_error, last_eq_none_iff]
  constructor
  · intro none number found
    cases none _ found
  · intro absent x found
    cases x with
    | socketError number => exact absurd found (absent number)
    | connack code => rfl
    | suback replies => rfl

end Scripted

structure Connects (refusal : Option Status) (script : List Setting) : Prop where
  accepted : (scripted refusal script).connect = .ok () ↔
    (∀ number, .socketError number ∉ script) ∧ refusal = none ∧
      ∀ code, lastOf Setting.connack? script = some code → code = .success
  socketError : ∀ number, lastOf Setting.socketError? script = some number →
    (scripted refusal script).connect = .error (.transport ⟨(IoFault.os number).text, number⟩)
  refused : (∀ number, .socketError number ∉ script) → ∀ status, refusal = some status →
    (scripted refusal script).connect = .error (.protocol ⟨status⟩)
  connack : (∀ number, .socketError number ∉ script) → refusal = none →
    ∀ code, lastOf Setting.connack? script = some code → code ≠ .success →
      ∃ failure, code.failure? = some failure ∧
        (scripted refusal script).connect = .error (.protocol failure)

theorem scripted_connects (refusal : Option Status) (script : List Setting) :
    Connects refusal script where
  accepted := by
    rw [connect_ok_iff, scripted_unbroken, scripted_refusal, scripted_connack,
      Option.map_eq_none_iff]
    cases lastOf Setting.connack? script <;> simp
  socketError := by
    intro number last
    exact connect_socket_error ((scripted_socket_error refusal script).trans last)
  refused := by
    rintro absent status rfl
    exact connect_refusal ((scripted_unbroken _ script).mpr absent) (scripted_refusal _ script)
  connack := by
    rintro absent rfl code last refused
    have sent : (scripted none script).connack = code := by
      rw [scripted_connack, last, Option.getD_some]
    exact connect_connack ((scripted_unbroken _ script).mpr absent) (scripted_refusal _ script)
      sent refused

end Broker

inductive Step.IsRequest : Step → Prop
  | connect (catching : Option Catching) (slot : Option String) :
      IsRequest (.connect catching slot)
  | subscribe (filters : List String) (catching : Option Catching) (slot : Option String) :
      IsRequest (.subscribe filters catching slot)

namespace Session

theorem raised_broker (s : Session) (f : AnyFailure) (catching : Option Catching)
    (slot : Option String) : (s.raised f catching slot).session.broker = s.broker := by
  cases catching <;> cases slot <;> rfl

theorem raised_result (s s' : Session) (f : AnyFailure) (catching : Option Catching)
    (slot : Option String) :
    (s.raised f catching slot).result = (s'.raised f catching slot).result := by
  cases catching <;> rfl

section Answered

variable {ε : Type} (asFailure : ε → AnyFailure) (reply : Except ε Unit)
  (catching : Option Catching) (slot : Option String)

theorem answered_broker (s : Session) :
    (s.answered asFailure reply catching slot).session.broker = s.broker := by
  cases reply with
  | ok => rfl
  | error e => exact s.raised_broker (asFailure e) catching slot

theorem answered_result (s s' : Session) :
    (s.answered asFailure reply catching slot).result =
      (s'.answered asFailure reply catching slot).result := by
  cases reply with
  | ok => rfl
  | error e => exact raised_result s s' (asFailure e) catching slot

end Answered

theorem request_broker (s : Session) {step : Step} (request : step.IsRequest) :
    (s.step step).session.broker = s.broker := by
  cases request with
  | connect catching slot => rw [step_connect, answered_broker]
  | subscribe filters catching slot => rw [step_subscribe, answered_broker]

theorem request_result {s s' : Session} (same : s.broker = s'.broker) {step : Step}
    (request : step.IsRequest) : (s.step step).result = (s'.step step).result := by
  cases request with
  | connect catching slot =>
      rw [step_connect, step_connect, same]
      exact answered_result .client _ catching slot s s'
  | subscribe filters catching slot =>
      rw [step_subscribe, step_subscribe, same]
      exact answered_result .protocol _ catching slot s s'

-- Requests in a row leave the broker as it is, and each has the result that it has when it is the
-- first.
theorem requests_answered {s s' : Session} (same : s'.broker = s.broker) {steps : List Step}
    (requests : ∀ step ∈ steps, step.IsRequest) :
    (∀ o ∈ s'.run steps, o.session.broker = s.broker) ∧
      (s'.run steps).map Outcome.result = steps.map fun step => (s.step step).result := by
  induction steps generalizing s' with
  | nil => exact ⟨fun _ reached => absurd reached List.not_mem_nil, rfl⟩
  | cons first rest ih =>
      have request := requests first List.mem_cons_self
      have kept : (s'.step first).session.broker = s.broker :=
        (s'.request_broker request).trans same
      obtain ⟨brokers, results⟩ :=
        ih kept fun step inside => requests step (List.mem_cons_of_mem first inside)
      refine ⟨?_, ?_⟩
      · intro o reached
        rcases List.mem_cons.mp reached with rfl | later
        · exact kept
        · exact brokers o later
      · rw [run, List.map_cons, List.map_cons, results, request_result same request]

end Session

namespace Broker

/-- A connection to a scripted broker fails by the first reason that is left at the end of the
script, and a subscription by the SUBACK alone; requests may be repeated in any order. -/
theorem script_decides (refusal : Option Status) (script before after : List Setting) :
    Connects refusal script ∧
    (∀ replies, (scripted refusal (before ++ .suback replies :: after)).connect =
      (scripted refusal (before ++ after)).connect) ∧
    (∀ x : Setting, x.field ≠ .suback → ∀ filters,
      (scripted refusal (before ++ x :: after)).subscribe filters =
        (scripted refusal (before ++ after)).subscribe filters) ∧
    (∀ x y : Setting, x.field ≠ y.field →
      scripted refusal (before ++ x :: y :: after) = scripted refusal (before ++ y :: x :: after)) ∧
    (∀ x : Setting, (∃ y ∈ after, y.field = x.field) →
      scripted refusal (before ++ x :: after) = scripted refusal (before ++ after)) ∧
    ∀ (s : Session) (requests : List Step), s.broker = scripted refusal script →
      (∀ step ∈ requests, step.IsRequest) →
        (∀ o ∈ s.run requests, o.session.broker = scripted refusal script) ∧
        (s.run requests).map Session.Outcome.result =
          requests.map fun step => (s.step step).result := by
  refine ⟨scripted_connects refusal script, ?_, ?_, ?_, ?_, ?_⟩
  · intro replies
    exact set_all_without (fun b => b.connect_suback replies) _ before after
  · intro x apart filters
    have without := set_all_without (subscribe_other apart) (refusal.elim willing unwilling)
      before after
    exact congrFun without filters
  · intro x y apart
    rw [scripted, set_all_append, scripted, set_all_append]
    exact congrArg (setAll · after) (set_comm apart _)
  · intro x later
    rw [scripted, set_all_append, scripted, set_all_append]
    exact set_superseded later _
  · intro s requests known asked
    rw [← known]
    exact Session.requests_answered rfl asked

theorem last_setting_decides :
    ∃ (script : List Setting) (unauthorized : ClientFailure),
      script = [.connack .badClientId, .suback [.refused], .connack .notAuthorized] ∧
      unauthorized = .protocol ⟨⟨"connection refused: not authorized", 5⟩⟩ ∧
      (scripted none script).connect = .error unauthorized ∧
      scripted none script = scripted none [.connack .notAuthorized, .suback [.refused]] ∧
      (scripted none script).subscribe =
        (scripted none [.suback [.refused], .connack .notAuthorized]).subscribe ∧
      (scripted (some ⟨"busy", 7⟩) script).connect = .error (.protocol ⟨⟨"busy", 7⟩⟩) ∧
      (scripted (some ⟨"busy", 7⟩) (.socketError 111 :: script)).connect =
        .error (.transport ⟨"Connection refused (os error 111)", 111⟩) ∧
      (Session.run ⟨scripted none script, .idle, .empty⟩
        [.subscribe ["a/#"] none none, .connect none none]).map Session.Outcome.result =
          [.failure (.protocol ⟨⟨"couldn't subscribe to 'a/#'", 0x80⟩⟩),
            .failure (.client unauthorized)] := by
  let script : List Setting :=
    [.connack .badClientId, .suback [.refused], .connack .notAuthorized]
  have absent : ∀ number, .socketError number ∉ script := by simp [script]
  obtain ⟨willing, _, subscribed, _, superseded, repeated⟩ :=
    script_decides none script [] [.suback [.refused], .connack .notAuthorized]
  obtain ⟨_, _, _, exchanged, _⟩ := script_decides none script [] []
  obtain ⟨_, told, connected⟩ := willing.connack absent rfl .notAuthorized rfl (by decide)
  cases told
  have asked : ∀ step ∈ [Step.subscribe ["a/#"] none none, .connect none none],
      step.IsRequest := by
    simp only [List.forall_mem_cons]
    exact ⟨.subscribe _ none none, .connect none none, nofun⟩
  refine ⟨script, _, rfl, rfl, connected, ?_, ?_, ?_, ?_, ?_⟩
  · have last := superseded (.connack .badClientId) ⟨.connack .notAuthorized, by simp, rfl⟩
    exact last.trans (exchanged (.suback [.refused]) (.connack .notAuthorized) (by decide))
  · funext filters
    exact subscribed (.connack .badClientId) (by decide) filters
  · exact (script_decides (some ⟨"busy", 7⟩) script [] []).1.refused absent _ rfl
  · exact (script_decides (some ⟨"busy", 7⟩) _ [] []).1.socketError 111 rfl
  · exact (repeated _ _ rfl asked).2.trans rfl

end Broker

end MqttFailure
