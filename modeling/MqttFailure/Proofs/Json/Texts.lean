import MqttFailure.Proofs.Json.Values
set_option autoImplicit false

namespace MqttFailure.Json

open Reader

variable {α β : Type}

theorem read_all_run {reader : Reader β} {ended : Except ReadError β} {t : String}
    {after : List Char} (ran : reader t.toList = ended.map (·, after)) (blank : Blank after) :
    readAll reader t = ended := by
  have quiet : after.all isBlank = true := List.all_eq_true.mpr blank
  rw [readAll, ran]
  cases ended with
  | error e => rfl
  | ok b => exact if_pos quiet

theorem read_all_fills {reader : Reader β} {outcome : Source → Except ReadError β}
    (reads : Reads reader Source.Written outcome) {v : Source} {t : String}
    (fills : v.Fills t.toList) : readAll reader t = outcome v := by
  generalize same : t.toList = cs at fills
  cases fills with
  | @mk before w after blank written blank' =>
      have stops : Stops after := List.append_nil after ▸ stops_blank blank' stops_nil
      exact read_all_run (same ▸ reads.forward blank written stops) blank'

theorem read_all_eq_ok {reader : Reader β} {outcome : Source → Except ReadError β}
    (reads : Reads reader Source.Written outcome) {t : String} {b : β} :
    readAll reader t = .ok b ↔ ∃ v : Source, v.Fills t.toList ∧ outcome v = .ok b := by
  constructor
  · intro ran
    rw [readAll] at ran
    split at ran
    · cases ran
    · rename_i a rest taken
      split at ran
      · rename_i quiet
        cases ran
        obtain ⟨before, v, w, same, blank, written, good⟩ := reads.backward taken
        exact ⟨v, same ▸ .mk blank written (List.all_eq_true.mp quiet), good⟩
      · cases ran
  · rintro ⟨v, fills, good⟩
    rw [read_all_fills reads fills, good]

inductive Source.Means (sense : Sense) : Source → Json → Prop where
  | null : Means sense .null .null
  | bool (value : Bool) : Means sense (.bool value) (.bool value)
  | numeral {parts : Numeral} {n : Number} :
      sense.number parts = some n → Means sense (.numeral parts) (.number n)
  | text {pieces : List Piece} {s : String} :
      sense.text pieces = some s → Means sense (.text pieces) (.text s)
  | array {elements : List Source} {js : List Json} :
      elements? sense elements = some js → Means sense (.array elements) (.array js)
  | object {members : List (List Piece × Source)} {js : List (String × Json)} :
      members? sense members = some js → Means sense (.object members) (.object js)

theorem Source.means_of_json {sense : Sense} {v : Source} {j : Json}
    (known : v.json? sense = some j) : Means sense v j := by
  cases v with
  | null =>
      cases known
      exact .null
  | bool value =>
      cases known
      exact .bool value
  | numeral parts =>
      obtain ⟨n, number, rfl⟩ := Option.map_eq_some_iff.mp known
      exact .numeral number
  | text pieces =>
      obtain ⟨s, text, rfl⟩ := Option.map_eq_some_iff.mp known
      exact .text text
  | array elements =>
      obtain ⟨js, inner, rfl⟩ := Option.map_eq_some_iff.mp known
      exact .array inner
  | object members =>
      obtain ⟨js, inner, rfl⟩ := Option.map_eq_some_iff.mp known
      exact .object inner

theorem Source.shape_of_json {sense : Sense} {v : Source} {j : Json}
    (known : v.json? sense = some j) : v.shape? sense = some j.shape := by
  cases means_of_json known with
  | null => rfl
  | bool value => rfl
  | numeral number =>
      rw [shape?, number]
      rfl
  | text text =>
      rw [shape?, text]
      rfl
  | array _ => rfl
  | object _ => rfl

theorem Source.json_of_shape {sense : Sense} {v : Source} {shape : Shape} {j : Json}
    (known : v.shape? sense = some shape) (whole : shape.json? = some j) :
    v.depth = 0 ∧ v.json? sense = some j := by
  cases v with
  | null =>
      cases known
      cases whole
      exact ⟨rfl, rfl⟩
  | bool value =>
      cases known
      cases whole
      exact ⟨rfl, rfl⟩
  | numeral parts =>
      obtain ⟨n, number, rfl⟩ := Option.map_eq_some_iff.mp known
      cases whole
      exact ⟨rfl, by rw [json?, number]; rfl⟩
  | text pieces =>
      obtain ⟨t, text, rfl⟩ := Option.map_eq_some_iff.mp known
      cases whole
      exact ⟨rfl, by rw [json?, text]; rfl⟩
  | array elements =>
      cases known
      cases whole
  | object members =>
      cases known
      cases whole

namespace Source

def Sensible (members : List (List Piece × Source)) : Prop :=
  ∀ m ∈ members, (Sense.exact.text m.1).isSome ∧ (m.2.json? .exact).isSome

theorem members_sensible {members : List (List Piece × Source)} :
    Sensible members ↔ ∃ js, members? .exact members = some js := by
  induction members with
  | nil => exact ⟨fun _ => ⟨[], rfl⟩, fun _ => nofun⟩
  | cons m rest ih =>
      obtain ⟨pieces, v⟩ := m
      rw [Sensible, List.forall_mem_cons, Option.isSome_iff_exists, Option.isSome_iff_exists]
      constructor
      · rintro ⟨⟨⟨key, named⟩, ⟨j, meant⟩⟩, others⟩
        obtain ⟨js, known⟩ := ih.mp others
        exact ⟨(key, j) :: js, by rw [members?, named, meant, known]; rfl⟩
      · rintro ⟨js, known⟩
        simp only [members?, Option.bind_eq_bind, Option.bind_eq_some_iff] at known
        obtain ⟨key, named, j, meant, js', known', _⟩ := known
        exact ⟨⟨⟨key, named⟩, ⟨j, meant⟩⟩, ih.mpr ⟨js', known'⟩⟩

end Source

def Source.judged (judge : Shape → Except Mismatch β) (v : Source) : Except ReadError β := do
  let shape ← v.shown .exact
  mismatched (judge shape)

theorem Source.judged_of_json {judge : Shape → Except Mismatch β} {v : Source} {j : Json}
    (known : v.json? .exact = some j) : v.judged judge = mismatched (judge j.shape) := by
  rw [judged, shown_eq_ok.mpr (shape_of_json known)]
  rfl

theorem judged_reads (judge : Shape → Except Mismatch β) {reason reason' : Mismatch}
    (no_array : judge .array = .error reason) (no_object : judge .object = .error reason') :
    Reads (do
      let shape ← head .exact
      Reader.judge (judge shape)) Source.Written (Source.judged judge) where
  forward := by
    intro v before w rest blank written stops
    by_cases scalar : v.depth = 0
    · rw [bind_run_map (head_forward exact_obeys scalar blank written stops), Source.judged,
        except_map_bind]
      congr 1
      funext shape
      exact judge_run _ rest
    · cases written with
      | array _ =>
          rw [List.cons_append, bind_run_ok (head_array _ blank _), no_array, Source.judged,
            Source.shown, judge_run]
          simp [mismatched, Except.map, bind, Except.bind, no_array]
      | object _ =>
          rw [List.cons_append, bind_run_ok (head_object _ blank _), no_object, Source.judged,
            Source.shown, judge_run]
          simp [mismatched, Except.map, bind, Except.bind, no_object]
      | null => cases scalar rfl
      | true => cases scalar rfl
      | false => cases scalar rfl
      | numeral _ => cases scalar rfl
      | text _ => cases scalar rfl
  backward := by
    intro cs rest b ran
    obtain ⟨shape, _, read, ended⟩ := bind_eq_ok.mp ran
    obtain ⟨judgement, rfl⟩ := judge_eq_ok.mp ended
    obtain ⟨before, blank, ⟨v, w, rfl, written, _, known⟩ | ⟨rfl, rfl⟩ | ⟨rfl, rfl⟩⟩ :=
      head_backward exact_obeys read
    · refine ⟨before, v, w, rfl, blank, written, ?_⟩
      rw [Source.judged, Source.shown_eq_ok.mpr known]
      exact mismatched_eq_ok.mpr judgement
    · rw [no_array] at judgement
      cases judgement
    · rw [no_object] at judgement
      cases judgement

structure Encloses {α : Type} (reader : Reader β) (close : Char) (written : α → List Char → Prop)
    (outcome : List α → Except ReadError β) : Prop where
  forward : ∀ {as : List α} {w : List Char}, Listed written as w →
    ∀ rest, reader (w ++ close :: rest) = (outcome as).map (·, rest)
  listed : ∀ {cs rest : List Char} {b : β}, reader cs = .ok (b, rest) →
    ∃ as w, cs = w ++ close :: rest ∧ Listed written as w

theorem fail_encloses {α : Type} (close : Char) (written : α → List Char → Prop) (e : ReadError) :
    Encloses (fail e : Reader β) close written fun _ => .error e where
  forward _ _ := rfl
  listed ran := absurd ran fail_ne_ok

theorem items_encloses {α σ : Type} (careful : Bool) {close : Char} {item : σ → Reader σ}
    {written : α → List Char → Prop} {step : σ → α → Except ReadError σ}
    (reads : ∀ state, Reads (item state) written (step state)) (fronted : Fronted written)
    (closing : Closing close) (state : σ) (finish : σ → Except Mismatch β) :
    Encloses (do
      let read ← items careful close item state
      judge (finish read)) close written
      fun as => do
        let read ← as.foldlM step state
        mismatched (finish read) where
  forward := by
    intro as w listed rest
    have folded := items_forward careful reads fronted closing listed state rest
    rw [bind_run_map folded, except_map_bind]
    congr 1
    funext read
    exact judge_run (finish read) rest
  listed := by
    intro cs rest b ran
    obtain ⟨read, _, taken, ended⟩ := bind_eq_ok.mp ran
    obtain ⟨_, rfl⟩ := judge_eq_ok.mp ended
    obtain ⟨as, w, same, listed, _⟩ := items_backward reads taken
    exact ⟨as, w, same, listed⟩

def Reader.byShape (array object : Reader β) (form : String) : Reader β := do
  match ← head .exact with
  | .array => array
  | .object => object
  | found => refuse (.wrongType found form)

def Source.byShape (elements : List Source → Except ReadError β)
    (members : List (List Piece × Source) → Except ReadError β) (form : String) :
    Source → Except ReadError β
  | .array es => elements es
  | .object ms => members ms
  | v => v.judged fun shape => .error (.wrongType shape form)

theorem Source.by_shape_scalar (elements : List Source → Except ReadError β)
    (members : List (List Piece × Source) → Except ReadError β) (form : String) {v : Source}
    (scalar : v.depth = 0) :
    v.byShape elements members form = v.judged fun shape => .error (.wrongType shape form) := by
  cases v with
  | array es => cases scalar
  | object ms => cases scalar
  | null => rfl
  | bool value => rfl
  | numeral parts => rfl
  | text pieces => rfl

section byShape

variable {array object : Reader β} {form : String} {elements : List Source → Except ReadError β}
  {members : List (List Piece × Source) → Except ReadError β}

theorem by_shape_whole {shape : Shape} {j : Json} {cs rest : List Char}
    (whole : shape.json? = some j) (ran : head .exact cs = .ok (shape, rest)) :
    Reader.byShape array object form cs = .error (.mismatch (.wrongType shape form)) := by
  rw [Reader.byShape, bind_run_ok ran]
  cases shape <;> cases whole <;> rfl

theorem by_shape_array {cs rest : List Char} (ran : head .exact cs = .ok (.array, rest)) :
    Reader.byShape array object form cs = array rest := by
  rw [Reader.byShape, bind_run_ok ran]

theorem by_shape_object {cs rest : List Char} (ran : head .exact cs = .ok (.object, rest)) :
    Reader.byShape array object form cs = object rest := by
  rw [Reader.byShape, bind_run_ok ran]

theorem by_shape_forward (arrays : Encloses array ']' Source.Written elements)
    (objects : Encloses object '}' (Keyed Source.Written) members) {v : Source}
    {before w rest : List Char} (blank : Blank before) (written : v.Written w)
    (stops : Stops rest) :
    Reader.byShape array object form (before ++ (w ++ rest)) =
      (v.byShape elements members form).map (·, rest) := by
  by_cases scalar : v.depth = 0
  · have ran := head_forward exact_obeys scalar blank written stops
    rw [Source.by_shape_scalar elements members form scalar, Source.judged]
    rcases Source.scalar_outcome 0 scalar with ⟨e, bad, _⟩ | ⟨shape, j, good, whole, _⟩
    · rw [bad] at ran ⊢
      exact bind_run_error ran
    · rw [good] at ran ⊢
      exact by_shape_whole whole ran
  · cases written with
    | @array es w listed =>
        rw [List.cons_append, List.append_assoc, List.singleton_append,
          by_shape_array (head_array _ blank _)]
        exact arrays.forward listed rest
    | @object ms w listed =>
        rw [List.cons_append, List.append_assoc, List.singleton_append,
          by_shape_object (head_object _ blank _)]
        exact objects.forward listed rest
    | null => exact absurd rfl scalar
    | true => exact absurd rfl scalar
    | false => exact absurd rfl scalar
    | numeral _ => exact absurd rfl scalar
    | text _ => exact absurd rfl scalar

theorem by_shape_backward (arrays : Encloses array ']' Source.Written elements)
    (objects : Encloses object '}' (Keyed Source.Written) members) {cs rest : List Char} {b : β}
    (ran : Reader.byShape array object form cs = .ok (b, rest)) :
    ∃ before v w, cs = before ++ (w ++ rest) ∧ Blank before ∧ Source.Written v w ∧
      v.byShape elements members form = .ok b := by
  obtain ⟨shape, mid, read, _⟩ := bind_eq_ok.mp ran
  obtain ⟨before, blank, ⟨v, w, rfl, _, scalar, known⟩ | ⟨rfl, rfl⟩ | ⟨rfl, rfl⟩⟩ :=
    head_backward exact_obeys read
  · rcases Source.scalar_shape .exact scalar with
      ⟨unknown, _⟩ | ⟨shape', j, known', whole, _⟩
    · rw [known] at unknown
      cases unknown
    · rw [known] at known'
      cases known'
      rw [by_shape_whole whole read] at ran
      cases ran
  · -- What was read between the brackets gives its outcome when it is read forward.
    rw [by_shape_array read] at ran
    obtain ⟨es, w, rfl, listed⟩ := arrays.listed ran
    rw [arrays.forward listed] at ran
    exact ⟨before, .array es, '[' :: (w ++ [']']), by simp, blank, .array listed, map_rest_ok ran⟩
  · rw [by_shape_object read] at ran
    obtain ⟨ms, w, rfl, listed⟩ := objects.listed ran
    rw [objects.forward listed] at ran
    exact ⟨before, .object ms, '{' :: (w ++ ['}']), by simp, blank, .object listed,
      map_rest_ok ran⟩

theorem by_shape_reads (arrays : Encloses array ']' Source.Written elements)
    (objects : Encloses object '}' (Keyed Source.Written) members) (form : String) :
    Reads (Reader.byShape array object form) Source.Written
      (Source.byShape elements members form) :=
  ⟨by_shape_forward arrays objects, by_shape_backward arrays objects⟩

end byShape

end MqttFailure.Json
