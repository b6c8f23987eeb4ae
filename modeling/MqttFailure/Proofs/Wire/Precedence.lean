import MqttFailure.Proofs.Wire.Texts
set_option autoImplicit false

namespace MqttFailure

open Json
open Json.Reader

variable {α σ τ : Type}

abbrev Demands := String → Option (Json → Option Mismatch)

namespace Demands

-- One member of a scan, with the keys that mattered before it. A key that
-- stands again is at fault whatever its value is.
def look (demands : Demands) (seen : List String) (m : String × Json) :
    Except Mismatch (List String) :=
  match demands m.1 with
  | none => .ok seen
  | some fault? =>
    if m.1 ∈ seen then .error (.duplicateField m.1)
    else
      match fault? m.2 with
      | some fault => .error fault
      | none => .ok (m.1 :: seen)

def scan (demands : Demands) (members : List (String × Json)) : Except Mismatch (List String) :=
  members.foldlM demands.look []

def required (key : String) (members : List (String × Json)) : Except Mismatch Json :=
  match under key members with
  | [] => .error (.missingField key)
  | v :: _ => .ok v

theorem look_unknown {demands : Demands} {m : String × Json} (unknown : demands m.1 = none)
    (seen : List String) : demands.look seen m = .ok seen := by
  rw [look, unknown]

theorem look_known {demands : Demands} {key : String} {fault? : Json → Option Mismatch}
    (known : demands key = some fault?) (seen : List String) (v : Json) :
    demands.look seen (key, v) =
      if key ∈ seen then .error (.duplicateField key)
      else
        match fault? v with
        | some fault => .error fault
        | none => .ok (key :: seen) := by
  rw [look, known]

theorem fold_filter {demands : Demands} (relevant : String → Bool)
    (others : ∀ key, relevant key = false → demands key = none) (members : List (String × Json))
    (seen : List String) :
    (members.filter fun m => relevant m.1).foldlM demands.look seen =
      members.foldlM demands.look seen := by
  induction members generalizing seen with
  | nil => rfl
  | cons m rest ih =>
      cases matters : relevant m.1 with
      | true =>
          rw [List.filter_cons_of_pos (by simpa using matters), List.foldlM_cons, List.foldlM_cons]
          congr 1
          funext seen'
          exact ih seen'
      | false =>
          rw [List.filter_cons_of_neg (by simp [matters]), List.foldlM_cons,
            look_unknown (others m.1 matters), ih]
          rfl

theorem under_filter (relevant : String → Bool) {key : String} (matters : relevant key = true)
    (members : List (String × Json)) :
    under key (members.filter fun m => relevant m.1) = under key members := by
  rw [under, List.filter_filter, under]
  congr 2
  funext m
  by_cases same : m.1 = key
  · simp [same, matters]
  · simp [same]

theorem required_filter (relevant : String → Bool) {key : String} (matters : relevant key = true)
    (members : List (String × Json)) :
    required key (members.filter fun m => relevant m.1) = required key members := by
  rw [required, under_filter relevant matters, required]

end Demands

inductive Alike (related : σ → τ → Prop) : Except Mismatch σ → Except Mismatch τ → Prop where
  | error (fault : Mismatch) : Alike related (.error fault) (.error fault)
  | ok {s : σ} {t : τ} : related s t → Alike related (.ok s) (.ok t)

theorem fold_alike {related : σ → τ → Prop} {step : σ → α → Except Mismatch σ}
    {step' : τ → α → Except Mismatch τ}
    (each : ∀ {s t}, related s t → ∀ a, Alike related (step s a) (step' t a)) (as : List α) {s : σ}
    {t : τ} (start : related s t) : Alike related (as.foldlM step s) (as.foldlM step' t) := by
  induction as generalizing s t with
  | nil => exact .ok start
  | cons a as ih =>
      rw [List.foldlM_cons, List.foldlM_cons]
      have first := each start a
      generalize step s a = x, step' t a = y at first
      cases first with
      | error fault => exact .error fault
      | ok next => exact ih next

def textFault? : Json → Option Mismatch
  | .text _ => none
  | v => some (.wrongType v.shape "a string")

def codeFault? : Json → Option Mismatch
  | .number (.integer n) =>
    if -0x80000000 ≤ n ∧ n < 0x80000000 then none else some (.outOfRange n "i32")
  | v => some (.wrongType v.shape "i32")

def kindFault? : Json → Option Mismatch
  | .text name =>
    if name ∈ Kind.all.map Kind.name then none
    else some (.unknownName name (Kind.all.map Kind.name))
  | v => some (.wrongType v.shape "variant identifier")

def Told (fault? : Json → Option Mismatch) (judge : Shape → Except Mismatch α) : Prop :=
  ∀ v, (∃ fault, fault? v = some fault ∧ judge v.shape = .error fault) ∨
    ∃ a, fault? v = none ∧ judge v.shape = .ok a

theorem text_told : Told textFault? Shape.asText := by
  intro v
  cases v with
  | text s => exact .inr ⟨s, rfl, rfl⟩
  | null => exact .inl ⟨_, rfl, rfl⟩
  | bool value => exact .inl ⟨_, rfl, rfl⟩
  | number value => exact .inl ⟨_, rfl, rfl⟩
  | array elements => exact .inl ⟨_, rfl, rfl⟩
  | object members => exact .inl ⟨_, rfl, rfl⟩

theorem code_told : Told codeFault? Shape.asCode := by
  intro v
  cases v with
  | number value =>
      cases value with
      | real negative size => exact .inl ⟨_, rfl, rfl⟩
      | integer n =>
          by_cases inside : -0x80000000 ≤ n ∧ n < 0x80000000
          · exact .inr ⟨Int32.ofInt n, if_pos inside, if_pos inside⟩
          · exact .inl ⟨.outOfRange n "i32", if_neg inside, if_neg inside⟩
  | null => exact .inl ⟨_, rfl, rfl⟩
  | bool value => exact .inl ⟨_, rfl, rfl⟩
  | text s => exact .inl ⟨_, rfl, rfl⟩
  | array elements => exact .inl ⟨_, rfl, rfl⟩
  | object members => exact .inl ⟨_, rfl, rfl⟩

theorem kind_told : Told kindFault? Kind.ofShape := by
  intro v
  cases v with
  | text name =>
      by_cases known : name ∈ Kind.all.map Kind.name
      · obtain ⟨k, _, same⟩ := List.mem_map.mp known
        refine .inr ⟨k, if_pos known, ?_⟩
        exact Kind.of_shape_ok.mpr (congrArg Shape.text same.symm)
      · refine .inl ⟨_, if_neg known, Kind.named_unknown ?_⟩
        intro k same
        exact known (List.mem_map.mpr ⟨k, k.mem_all, same⟩)
  | null => exact .inl ⟨_, rfl, rfl⟩
  | bool value => exact .inl ⟨_, rfl, rfl⟩
  | number value => exact .inl ⟨_, rfl, rfl⟩
  | array elements => exact .inl ⟨_, rfl, rfl⟩
  | object members => exact .inl ⟨_, rfl, rfl⟩

theorem place_alike {related : σ → List String → Prop} {fault? : Json → Option Mismatch}
    {judge : Shape → Except Mismatch α} (told : Told fault? judge) {held : Bool}
    {seen : List String} {key : String} (same : held = true ↔ key ∈ seen) (v : Json)
    {place : α → σ} (placed : ∀ a, related (place a) (key :: seen)) :
    Alike related
      (if held then .error (.duplicateField key) else (judge v.shape).map place)
      (if key ∈ seen then .error (.duplicateField key)
        else
          match fault? v with
          | some fault => .error fault
          | none => .ok (key :: seen)) := by
  by_cases again : key ∈ seen
  · rw [if_pos (same.mpr again), if_pos again]
    exact .error _
  · rw [if_neg fun holds => again (same.mp holds), if_neg again]
    rcases told v with ⟨fault, found, judged⟩ | ⟨a, fine, judged⟩
    · rw [found, judged]
      exact .error fault
    · rw [fine, judged]
      exact .ok (placed a)

theorem required_lands {judge : Shape → Except Mismatch α} {key : String}
    {members : List (String × Json)} {held : Option α}
    (lands : Lands judge none (under key members) held) :
    (held = none ∧ Demands.required key members = .error (.missingField key)) ∨
      ∃ v a, held = some a ∧ Demands.required key members = .ok v ∧ judge v.shape = .ok a := by
  rw [Demands.required]
  generalize under key members = vs at lands
  cases lands with
  | kept => exact .inl ⟨rfl, rfl⟩
  | @filled v a judged => exact .inr ⟨v, a, rfl, rfl, judged⟩

namespace Status

def demands : Demands := fun key =>
  if key = "message" then some textFault? else if key = "code" then some codeFault? else none

-- The members are scanned for the first fault; then the message is missed
-- before the code is.
def verdict (members : List (String × Json)) : Except Mismatch Status := do
  let _ ← demands.scan members
  let message ← Demands.required "message" members
  let code ← Demands.required "code" members
  return ⟨← message.shape.asText, ← code.shape.asCode⟩

structure Seen (f : Fields) (seen : List String) : Prop where
  message : f.message.isSome = true ↔ "message" ∈ seen
  code : f.code.isSome = true ↔ "code" ∈ seen

theorem take_alike {f : Fields} {seen : List String} (same : Seen f seen) (m : String × Json) :
    Alike Seen (f.take m) (demands.look seen m) := by
  obtain ⟨key, v⟩ := m
  by_cases message : key = "message"
  · subst message
    rw [Fields.take_message, Demands.look_known rfl]
    apply place_alike text_told same.message v
    intro s
    exact ⟨by simp, by simpa using same.code⟩
  · by_cases code : key = "code"
    · subst code
      rw [Fields.take_code, Demands.look_known rfl]
      apply place_alike code_told same.code v
      intro c
      exact ⟨by simpa using same.message, by simp⟩
    · rw [Fields.take_unknown f (m := (key, v)) message code,
        Demands.look_unknown (by simp [demands, message, code])]
      exact .ok same

theorem of_members_verdict (members : List (String × Json)) :
    ofMembers members = verdict members := by
  have start : Seen Fields.none [] := ⟨by simp [Fields.none], by simp [Fields.none]⟩
  have folded := fold_alike (fun same m => take_alike same m) members start
  rw [of_members_eq, verdict, Demands.scan]
  cases taken : members.foldlM Fields.take Fields.none with
  | error fault =>
      rw [taken] at folded
      generalize members.foldlM demands.look [] = scanned at folded
      cases folded
      rfl
  | ok f =>
      obtain ⟨message, code⟩ := Fields.fold_ok.mp taken
      rw [taken] at folded
      generalize members.foldlM demands.look [] = scanned at folded
      cases folded with
      | ok _ =>
          change Fields.finish f = (Demands.required "message" members >>= fun message =>
            Demands.required "code" members >>= fun code => message.shape.asText >>= fun text =>
              code.shape.asCode >>= fun number => pure ⟨text, number⟩)
          rw [Fields.finish]
          rcases required_lands message with ⟨held, missing⟩ | ⟨v, text, held, first, judged⟩
          · rw [held, missing]
            rfl
          · rw [held, first]
            rcases required_lands code with ⟨held', missing⟩ | ⟨v', number, held', first', judged'⟩
            · rw [held', missing]
              rfl
            · rw [held', first']
              change _ = (v.shape.asText >>= fun text => v'.shape.asCode >>= fun number => _)
              rw [judged, judged']
              rfl

end Status

namespace ClientFailure

def tagDemands : Demands := fun key => if key = "kind" then some kindFault? else none

def tagVerdict (members : List (String × Json)) : Except Mismatch Kind := do
  let _ ← tagDemands.scan members
  let tag ← Demands.required "kind" members
  Kind.ofShape tag.shape

def verdict (members : List (String × Json)) : Except Mismatch ClientFailure := do
  let kind ← tagVerdict members
  return ofKind kind (← Status.verdict (members.filter (·.1 ≠ "kind")))

def Seen (d : Draft) (seen : List String) : Prop := d.kind.isSome = true ↔ "kind" ∈ seen

theorem take_alike {d : Draft} {seen : List String} (same : Seen d seen) (m : String × Json) :
    Alike Seen (d.take m) (tagDemands.look seen m) := by
  obtain ⟨key, v⟩ := m
  by_cases kind : key = "kind"
  · subst kind
    rw [Draft.take_kind, Demands.look_known rfl]
    apply place_alike kind_told same v
    intro k
    simp [Seen]
  · rw [Draft.take_other d kind, Demands.look_unknown (by simp [tagDemands, kind])]
    exact .ok same

theorem of_object_verdict (members : List (String × Json)) :
    ofJson (.object members) = verdict members := by
  have start : Seen Draft.empty [] := by simp [Seen, Draft.empty]
  have folded := fold_alike (fun same m => take_alike same m) members start
  rw [ofJson, verdict, tagVerdict, Demands.scan]
  cases taken : members.foldlM Draft.take Draft.empty with
  | error fault =>
      rw [taken] at folded
      generalize members.foldlM tagDemands.look [] = scanned at folded
      cases folded
      rfl
  | ok d =>
      obtain ⟨lands, others⟩ := Draft.fold_ok.mp taken
      rw [taken] at folded
      generalize members.foldlM tagDemands.look [] = scanned at folded
      cases folded with
      | ok _ =>
          have kept : d.members.reverse = members.filter (·.1 ≠ "kind") := by
            simp [others, Draft.empty]
          change d.finish = ((Demands.required "kind" members >>= fun tag =>
            Kind.ofShape tag.shape) >>= fun kind => _)
          rw [Draft.finish, kept, Status.of_members_verdict]
          rcases required_lands lands with ⟨held, missing⟩ | ⟨v, k, held, first, judged⟩
          · rw [held, missing]
            rfl
          · rw [held, first]
            change _ = (Kind.ofShape v.shape >>= fun kind => _)
            rw [judged]
            rfl

end ClientFailure

namespace Status

theorem verdict_filter (relevant : String → Bool) (message : relevant "message" = true)
    (code : relevant "code" = true) (members : List (String × Json)) :
    verdict (members.filter fun m => relevant m.1) = verdict members := by
  have unknown (key : String) (other : relevant key = false) : demands key = none := by
    rw [demands, if_neg, if_neg]
    · rintro rfl
      simp [code] at other
    · rintro rfl
      simp [message] at other
  rw [verdict, Demands.scan, Demands.fold_filter relevant unknown,
    Demands.required_filter relevant message, Demands.required_filter relevant code, verdict,
    Demands.scan]

theorem verdict_relevant (members : List (String × Json)) :
    verdict (members.filter (·.1 ∈ ["message", "code"])) = verdict members :=
  verdict_filter (fun key => key ∈ ["message", "code"]) (by simp) (by simp) members

theorem verdict_without_kind (members : List (String × Json)) :
    verdict (members.filter (·.1 ≠ "kind")) = verdict members :=
  verdict_filter (fun key => key ≠ "kind") (by simp) (by simp) members

end Status

namespace ClientFailure

theorem tag_verdict_relevant (members : List (String × Json)) :
    tagVerdict (members.filter (·.1 ∈ ["kind", "message", "code"])) = tagVerdict members := by
  have unknown (key : String) (other : decide (key ∈ ["kind", "message", "code"]) = false) :
      tagDemands key = none := by
    simp_all [tagDemands]
  have scanned := Demands.fold_filter _ unknown members []
  have kind := Demands.required_filter (fun key => key ∈ ["kind", "message", "code"])
    (by simp : decide ("kind" ∈ ["kind", "message", "code"]) = true) members
  rw [tagVerdict, Demands.scan, scanned, kind, tagVerdict, Demands.scan]

theorem verdict_relevant (members : List (String × Json)) :
    verdict (members.filter (·.1 ∈ ["kind", "message", "code"])) = verdict members := by
  have status := Status.verdict_filter (fun key => key ∈ ["kind", "message", "code"]) (by simp)
    (by simp) members
  rw [verdict, tag_verdict_relevant, Status.verdict_without_kind, status, verdict,
    Status.verdict_without_kind]

theorem tag_verdict_once {members : List (String × Json)} {tag : Json}
    (once : under "kind" members = [tag]) : tagVerdict members = Kind.ofShape tag.shape := by
  have unknown (key : String) (other : decide (key = "kind") = false) : tagDemands key = none := by
    simp_all [tagDemands]
  obtain ⟨m, only, rfl⟩ := List.map_eq_singleton_iff.mp once
  obtain ⟨key, tag⟩ := m
  have named : key = "kind" := by
    have found : (key, tag) ∈ members.filter (·.1 = "kind") := only ▸ List.mem_singleton_self _
    simpa using (List.mem_filter.mp found).2
  subst named
  rw [tagVerdict, Demands.scan, ← Demands.fold_filter _ unknown, only, Demands.required, once,
    List.foldlM_cons, Demands.look_known rfl, if_neg List.not_mem_nil]
  rcases kind_told tag with ⟨fault, found, judged⟩ | ⟨_, fine, _⟩
  · rw [found, judged]
    rfl
  · rw [fine]
    rfl

theorem of_object_once {members : List (String × Json)} {tag : Json}
    (once : under "kind" members = [tag]) :
    ofJson (.object members) =
      (Kind.ofShape tag.shape >>= fun k => (Status.ofMembers members).map (ofKind k)) := by
  rw [of_object_verdict, verdict, tag_verdict_once once, Status.verdict_without_kind,
    Status.of_members_verdict]
  cases Status.verdict members <;> rfl

end ClientFailure

def ObjectText (js : List (String × Json)) (t : String) : Prop :=
  ∃ members : List (List Piece × Source), Source.members? .exact members = some js ∧
    (Source.object members).depth ≤ 127 ∧ (Source.object members).Fills t.toList

theorem client_verdict {js : List (String × Json)} {t : String} (object : ObjectText js t) :
    ClientFailure.decode t = mismatched (ClientFailure.verdict js) := by
  obtain ⟨members, known, fits, fills⟩ := object
  have meant : (Source.object members).json? .exact = some (.object js) := by
    rw [Source.json?, known]
    rfl
  have shallow : (Source.object members).depth ≤ ClientFailure.nesting := fits
  rw [ClientFailure.decode, ClientFailure.read,
    read_all_fills (ClientFailure.read_reads ClientFailure.nesting) fills,
    ClientFailure.outcome_sense meant shallow, ClientFailure.of_object_verdict]

theorem record_verdicts {js : List (String × Json)} {t : String} (object : ObjectText js t) :
    ProtocolFailure.decode t = (mismatched (Status.verdict js)).map ProtocolFailure.mk ∧
      ControlFailure.decode t = (mismatched (Status.verdict js)).map ControlFailure.mk := by
  obtain ⟨members, known, _, fills⟩ := object
  rw [ProtocolFailure.decode, ProtocolFailure.read,
    Status.read_all_object ProtocolFailure.mk _ known fills, ControlFailure.decode,
    ControlFailure.read, Status.read_all_object ControlFailure.mk _ known fills,
    Status.of_members_verdict]
  exact ⟨rfl, rfl⟩

/-- The fault that is reported of an object is the first one of a scan of its members; for a client
failure the scan for the kind comes first. -/
theorem object_fault_reported {js : List (String × Json)} {t : String} (object : ObjectText js t) :
    ProtocolFailure.decode t = (mismatched (Status.verdict js)).map ProtocolFailure.mk ∧
    ControlFailure.decode t = (mismatched (Status.verdict js)).map ControlFailure.mk ∧
    (∀ fault, ClientFailure.tagVerdict js = .error fault →
      ClientFailure.decode t = .error (.mismatch fault)) ∧
    (∀ kind, ClientFailure.tagVerdict js = .ok kind →
      ClientFailure.decode t =
        (mismatched (Status.verdict (js.filter (·.1 ≠ "kind")))).map (ClientFailure.ofKind kind)) ∧
    (∀ js' t', ObjectText js' t' →
      (js.filter (·.1 ∈ ["message", "code"]) = js'.filter (·.1 ∈ ["message", "code"]) →
        ProtocolFailure.decode t = ProtocolFailure.decode t' ∧
          ControlFailure.decode t = ControlFailure.decode t') ∧
      (js.filter (·.1 ∈ ["kind", "message", "code"]) =
          js'.filter (·.1 ∈ ["kind", "message", "code"]) →
        ClientFailure.decode t = ClientFailure.decode t')) := by
  obtain ⟨protocol, control⟩ := record_verdicts object
  have client := client_verdict object
  refine ⟨protocol, control, ?_, ?_, ?_⟩
  · intro fault found
    rw [client, ClientFailure.verdict, found]
    rfl
  · intro kind found
    rw [client, ClientFailure.verdict, found]
    cases Status.verdict (js.filter (·.1 ≠ "kind")) <;> rfl
  · intro js' t' object'
    obtain ⟨protocol', control'⟩ := record_verdicts object'
    refine ⟨?_, ?_⟩
    · intro same
      have verdicts : Status.verdict js = Status.verdict js' := by
        rw [← Status.verdict_relevant js, same, Status.verdict_relevant]
      rw [protocol, control, protocol', control', verdicts]
      exact ⟨rfl, rfl⟩
    · intro same
      have verdicts : ClientFailure.verdict js = ClientFailure.verdict js' := by
        rw [← ClientFailure.verdict_relevant js, same, ClientFailure.verdict_relevant]
      rw [client, client_verdict object', verdicts]

theorem kind_fault_before_message_fault :
    ClientFailure.decode "\x7b\"message\":1,\"kind\":\"x\"\x7d" =
        .error (.mismatch (.unknownName "x" (Kind.all.map Kind.name))) ∧
      ProtocolFailure.decode "\x7b\"message\":1,\"kind\":\"x\"\x7d" =
        .error (.mismatch (.wrongType (.number (.integer 1)) "a string")) ∧
      ProtocolFailure.decode "\x7b\"message\":1,\"kind\":\"x\"\x7d" =
        ProtocolFailure.decode "\x7b\"message\":1\x7d" := by
  have one : Numeral.Written ⟨false, ['1'], [], none⟩ ['1'] :=
    @Numeral.Written.mk none ['1'] _ _ _ _ (by simp) ⟨by decide, by simp⟩ (by decide)
      .absent .absent
  have message := Keyed.mk (plain_quoted ['m', 'e', 's', 's', 'a', 'g', 'e'] (by simp)) blank_nil
    blank_nil (Source.Written.numeral one)
  have kind := Keyed.mk (plain_quoted ['k', 'i', 'n', 'd'] (by simp)) blank_nil blank_nil
    (Source.Written.text (plain_quoted ['x'] (by simp)))
  have object : ObjectText [("message", .number (.integer 1)), ("kind", .text "x")]
      "\x7b\"message\":1,\"kind\":\"x\"\x7d" :=
    ⟨_, rfl, by decide, .mk blank_nil (.object (.items (.cons blank_nil message blank_nil
      (.last blank_nil kind blank_nil)))) blank_nil⟩
  have alone : ObjectText [("message", .number (.integer 1))] "\x7b\"message\":1\x7d" :=
    ⟨_, rfl, by decide, .mk blank_nil (.object (.items (.last blank_nil message blank_nil)))
      blank_nil⟩
  obtain ⟨protocol, _, tag, _, unknown⟩ := object_fault_reported object
  exact ⟨tag _ rfl, protocol, ((unknown _ _ alone).1 rfl).1⟩

end MqttFailure
