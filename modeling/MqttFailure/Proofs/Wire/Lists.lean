import MqttFailure.Proofs.Json.Parts
import MqttFailure.Proofs.Wire.Acceptance
set_option autoImplicit false

namespace MqttFailure

open Json
open Json.Reader

variable {α β ε : Type}

theorem map_m_congr {f g : α → Except ε β} {as : List α} (same : ∀ a ∈ as, f a = g a) :
    as.mapM f = as.mapM g := by
  induction as with
  | nil => rfl
  | cons a rest ih =>
      rw [List.forall_mem_cons] at same
      rw [List.mapM_cons, List.mapM_cons, same.1, ih same.2]

-- A fault decides, whatever comes behind it, if nothing before it has another one.
theorem map_m_error {f : α → Except ε β} {first : List α} {a : α} {e : ε}
    (earlier : ∀ a' ∈ first, (∃ b, f a' = .ok b) ∨ f a' = .error e) (bad : f a = .error e)
    (rest : List α) : (first ++ a :: rest).mapM f = .error e := by
  induction first with
  | nil =>
      rw [List.nil_append, List.mapM_cons, bad]
      rfl
  | cons a' first ih =>
      rw [List.forall_mem_cons] at earlier
      obtain ⟨⟨b, known⟩ | known, others⟩ := earlier
      · rw [List.cons_append, List.mapM_cons, known, ih others]
        rfl
      · rw [List.cons_append, List.mapM_cons, known]
        rfl

namespace Json

namespace Source

variable {sense : Sense}

theorem element_depth_le {elements : List Source} {e : Source} (found : e ∈ elements) :
    e.depth ≤ elementsDepth elements := by
  induction elements with
  | nil => cases found
  | cons first rest ih =>
      rcases List.mem_cons.mp found with rfl | found
      · exact Nat.le_max_left ..
      · exact Nat.le_trans (ih found) (Nat.le_max_right ..)

theorem member_depth_le {members : List (List Piece × Source)} {m : List Piece × Source}
    (found : m ∈ members) : m.2.depth ≤ membersDepth members := by
  induction members with
  | nil => cases found
  | cons first rest ih =>
      rcases List.mem_cons.mp found with rfl | found
      · exact Nat.le_max_left ..
      · exact Nat.le_trans (ih found) (Nat.le_max_right ..)

theorem outcome_within {v : Source} {depth depth' : Nat} (fits : v.depth ≤ depth)
    (fits' : v.depth ≤ depth') : v.outcome sense depth = v.outcome sense depth' := by
  cases v with
  | null => rw [outcome, outcome]
  | bool value => rw [outcome, outcome]
  | numeral parts => rw [outcome, outcome]
  | text pieces => rw [outcome, outcome]
  | array elements =>
      cases depth with
      | zero => cases fits
      | succ depth =>
          cases depth' with
          | zero => cases fits'
          | succ depth' =>
              have each : ∀ e ∈ elements, e.outcome sense depth = e.outcome sense depth' := by
                intro e found
                have inner := element_depth_le found
                exact outcome_within (Nat.le_trans inner (Nat.le_of_succ_le_succ fits))
                  (Nat.le_trans inner (Nat.le_of_succ_le_succ fits'))
              rw [outcome, outcome, map_m_congr each]
  | object members =>
      cases depth with
      | zero => cases fits
      | succ depth =>
          cases depth' with
          | zero => cases fits'
          | succ depth' =>
              have each : ∀ m ∈ members,
                  memberOutcome sense depth m = memberOutcome sense depth' m := by
                intro m found
                have inner := member_depth_le found
                have same : m.2.outcome sense depth = m.2.outcome sense depth' :=
                  outcome_within (Nat.le_trans inner (Nat.le_of_succ_le_succ fits))
                    (Nat.le_trans inner (Nat.le_of_succ_le_succ fits'))
                rw [memberOutcome, memberOutcome, same]
              rw [object_outcome, object_outcome, map_m_congr each]
termination_by depth

section deep

variable {depth : Nat}
  (single : ∀ (v : Source) (j : Json), v.json? sense = some j → depth < v.depth →
    v.outcome sense depth = .error (.malformed .recursionLimit))
include single

theorem elements_too_deep {elements : List Source} {js : List Json}
    (known : elements? sense elements = some js) (deep : depth < elementsDepth elements) :
    elements.mapM (outcome sense depth) = .error (.malformed .recursionLimit) := by
  induction elements generalizing js with
  | nil => cases deep
  | cons e rest ih =>
      simp only [elements?, Option.bind_eq_bind, Option.bind_eq_some_iff] at known
      obtain ⟨j, meant, js, known, _⟩ := known
      rw [List.mapM_cons]
      by_cases here : depth < e.depth
      · rw [single e j meant here]
        rfl
      · have fits := Nat.le_of_not_lt here
        rw [outcome_eq_ok.mpr ⟨fits, meant⟩, ih known (by rw [elementsDepth] at deep; omega)]
        rfl

theorem members_too_deep {members : List (List Piece × Source)} {js : List (String × Json)}
    (known : members? sense members = some js) (deep : depth < membersDepth members) :
    members.mapM (memberOutcome sense depth) = .error (.malformed .recursionLimit) := by
  induction members generalizing js with
  | nil => cases deep
  | cons m rest ih =>
      obtain ⟨pieces, v⟩ := m
      simp only [members?, Option.bind_eq_bind, Option.bind_eq_some_iff] at known
      obtain ⟨name, text, j, meant, js, known, _⟩ := known
      rw [List.mapM_cons]
      by_cases here : depth < v.depth
      · rw [memberOutcome, read_text_eq_ok.mpr text, single v j meant here]
        rfl
      · have first := member_outcome_eq_ok.mpr
          ⟨text, outcome_eq_ok.mpr ⟨Nat.le_of_not_lt here, meant⟩⟩
        rw [first, ih known (by rw [membersDepth] at deep; omega)]
        rfl

end deep

-- What makes sense but nests too deep is refused at the bracket that goes too far.
theorem outcome_deep {v : Source} {depth : Nat} {j : Json} (known : v.json? sense = some j)
    (deep : depth < v.depth) :
    v.outcome sense depth = .error (.malformed .recursionLimit) := by
  cases v with
  | array elements =>
      cases depth with
      | zero => rfl
      | succ depth =>
          obtain ⟨js, inner, _⟩ := Option.map_eq_some_iff.mp known
          rw [outcome, elements_too_deep (fun _ _ => outcome_deep) inner
            (Nat.lt_of_succ_lt_succ deep)]
          rfl
  | object members =>
      cases depth with
      | zero => rfl
      | succ depth =>
          obtain ⟨js, inner, _⟩ := Option.map_eq_some_iff.mp known
          rw [object_outcome, members_too_deep (fun _ _ => outcome_deep) inner
            (Nat.lt_of_succ_lt_succ deep)]
          rfl
  | null => cases deep
  | bool value => cases deep
  | numeral parts => cases deep
  | text pieces => cases deep
termination_by depth

end Source

end Json

namespace ClientFailure

namespace Draft

variable {depth depth' : Nat}

theorem member_within (d : Draft) {m : List Piece × Source} (fits : m.2.depth ≤ depth)
    (fits' : m.2.depth ≤ depth') : d.memberOutcome depth m = d.memberOutcome depth' m := by
  have behind (name : String) (named : Bool) :
      d.behindOutcome depth name named m.2 = d.behindOutcome depth' name named m.2 := by
    cases named with
    | true => rfl
    | false => rw [behindOutcome, behindOutcome, Source.outcome_within fits fits']
  simp only [memberOutcome, keyedOutcome, behind]

theorem members_within {members : List (List Piece × Source)}
    (fits : Source.membersDepth members ≤ depth) (fits' : Source.membersDepth members ≤ depth')
    (d : Draft) :
    members.foldlM (memberOutcome depth) d = members.foldlM (memberOutcome depth') d := by
  induction members generalizing d with
  | nil => rfl
  | cons m rest ih =>
      obtain ⟨here, others⟩ := Nat.max_le.mp fits
      obtain ⟨here', others'⟩ := Nat.max_le.mp fits'
      rw [List.foldlM_cons, List.foldlM_cons, member_within d here here']
      congr 1
      funext d'
      exact ih others others' d'

theorem member_deep {d d' : Draft} {m : List Piece × Source}
    (taken : d.memberOutcome depth' m = .ok d') (deep : depth < m.2.depth) :
    d.memberOutcome depth m = .error (.malformed .recursionLimit) := by
  obtain ⟨name, named, taken'⟩ := except_bind_eq_ok.mp taken
  obtain ⟨spotted, known, behind⟩ := except_bind_eq_ok.mp taken'
  rw [memberOutcome, keyed_outcome_named (read_text_eq_ok.mp named), known]
  change d.behindOutcome depth name spotted m.2 = _
  cases spotted with
  | true =>
      obtain ⟨k, judged, _⟩ := except_map_eq_ok.mp behind
      rw [(named_sensible judged).1] at deep
      cases deep
  | false =>
      obtain ⟨j, read, _⟩ := except_map_eq_ok.mp behind
      rw [behindOutcome, Source.outcome_deep (Source.outcome_eq_ok.mp read).2 deep]
      rfl

theorem members_deep {members : List (List Piece × Source)} {d d' : Draft}
    (taken : members.foldlM (memberOutcome depth') d = .ok d')
    (deep : depth < Source.membersDepth members) :
    members.foldlM (memberOutcome depth) d = .error (.malformed .recursionLimit) := by
  induction members generalizing d with
  | nil => cases deep
  | cons m rest ih =>
      rw [List.foldlM_cons] at taken ⊢
      obtain ⟨d'', first, taken'⟩ := except_bind_eq_ok.mp taken
      by_cases here : depth < m.2.depth
      · rw [member_deep first here]
        rfl
      · have fits := Nat.le_of_not_lt here
        obtain ⟨_, _, _, _, fits'⟩ := member_sensible first
        rw [member_within d fits fits', first]
        exact ih taken' (by rw [Source.membersDepth] at deep; omega)

end Draft

theorem outcome_within {depth depth' : Nat} {v : Source} (fits : v.depth ≤ depth)
    (fits' : v.depth ≤ depth') : outcome depth v = outcome depth' v := by
  by_cases scalar : v.depth = 0
  · rw [outcome_scalar scalar, outcome_scalar scalar]
  · cases depth with
    | zero => exact absurd (Nat.le_zero.mp fits) scalar
    | succ depth =>
        cases depth' with
        | zero => exact absurd (Nat.le_zero.mp fits') scalar
        | succ depth' =>
            cases v with
            | array elements =>
                have inner := Nat.le_of_succ_le_succ fits
                have inner' := Nat.le_of_succ_le_succ fits'
                cases elements with
                | nil => rfl
                | cons first rest =>
                    have each : ∀ e ∈ rest,
                        e.outcome .exact depth = e.outcome .exact depth' := by
                      intro e found
                      have below := Source.element_depth_le found
                      exact Source.outcome_within (Nat.le_trans below (Nat.max_le.mp inner).2)
                        (Nat.le_trans below (Nat.max_le.mp inner').2)
                    rw [outcome, outcome, map_m_congr each]
            | object members =>
                rw [outcome, outcome, Draft.members_within (Nat.le_of_succ_le_succ fits)
                  (Nat.le_of_succ_le_succ fits')]
            | null => exact absurd rfl scalar
            | bool value => exact absurd rfl scalar
            | numeral parts => exact absurd rfl scalar
            | text pieces => exact absurd rfl scalar

theorem outcome_deep {depth depth' : Nat} {v : Source} {e : ClientFailure}
    (good : outcome depth' v = .ok e) (deep : depth < v.depth) :
    outcome depth v = .error (.malformed .recursionLimit) := by
  cases v with
  | array elements =>
      cases depth with
      | zero => rfl
      | succ depth =>
          cases depth' with
          | zero => cases good
          | succ depth' =>
              cases elements with
              | nil => cases good
              | cons first rest =>
                  obtain ⟨k, judged, good'⟩ := except_bind_eq_ok.mp good
                  obtain ⟨js, read, _⟩ := except_bind_eq_ok.mp good'
                  have known := (Source.elements_outcome_eq_ok.mp read).2
                  have scalar := (named_sensible judged).1
                  have behind : depth < Source.elementsDepth rest := by
                    rw [Source.depth, Source.elementsDepth, scalar] at deep
                    omega
                  rw [outcome, judged,
                    Source.elements_too_deep (fun _ _ => Source.outcome_deep) known behind]
                  rfl
  | object members =>
      cases depth with
      | zero => rfl
      | succ depth =>
          cases depth' with
          | zero => cases good
          | succ depth' =>
              obtain ⟨d, taken, _⟩ := except_bind_eq_ok.mp good
              rw [outcome, Draft.members_deep taken (Nat.lt_of_succ_lt_succ deep)]
              rfl
  | null => cases deep
  | bool value => cases deep
  | numeral parts => cases deep
  | text pieces => cases deep

theorem decode_fills {t : String} {v : Source} (fills : v.Fills t.toList) :
    decode t = outcome nesting v :=
  read_all_fills (read_reads nesting) fills

section list

variable {parts : List String} {t : String} {source : String → Source}

theorem decode_list_of (list : ListOf parts t.toList)
    (each : ∀ part ∈ parts, (source part).Fills part.toList) :
    decodeList t = parts.mapM (outcome (nesting - 1) ∘ source) := by
  rw [decodeList, read_all_fills list_reads (list.fills each)]
  exact List.mapM_map

theorem element_within {part : String} {v : Source} (fills : v.Fills part.toList)
    (shallow : ∀ depth, Nested depth part → depth ≤ 126) :
    outcome (nesting - 1) v = decode part := by
  have fits : v.depth ≤ 126 := shallow v.depth ⟨v, fills, rfl⟩
  rw [decode_fills fills]
  exact outcome_within fits (Nat.le_succ_of_le fits)

theorem element_deep {part : String} {v : Source} (fills : v.Fills part.toList)
    (deep : 126 < v.depth) {e : ClientFailure} (alone : decode part = .ok e) :
    outcome (nesting - 1) v = .error (.malformed .recursionLimit) := by
  rw [decode_fills fills] at alone
  exact outcome_deep alone deep

theorem element_read {part : String} {v : Source} (fills : v.Fills part.toList)
    {e : ClientFailure} (alone : decode part = .ok e) :
    outcome (nesting - 1) v = .ok e ∨
      outcome (nesting - 1) v = .error (.malformed .recursionLimit) := by
  by_cases fits : v.depth ≤ 126
  · rw [decode_fills fills] at alone
    have same : outcome (nesting - 1) v = outcome nesting v :=
      outcome_within fits (Nat.le_succ_of_le fits)
    exact .inl (same.trans alone)
  · exact .inr (element_deep fills (Nat.lt_of_not_le fits) alone)

end list

/-- A list is read as its elements are one by one, or with the fault of the first that has one. It
is a level of nesting itself, so behind readable elements one of depth 127 makes it malformed. -/
theorem list_read_by_elements {parts : List String} {t : String} (list : ListOf parts t.toList)
    (values : ∀ part ∈ parts, ∃ depth, Nested depth part) :
    ((∀ part ∈ parts, ∀ depth, Nested depth part → depth ≤ 126) →
      decodeList t = parts.mapM decode) ∧
    ∀ (first : List String) (part : String) (rest : List String), parts = first ++ part :: rest →
      (∀ earlier ∈ first, ∃ e, decode earlier = .ok e) →
      Nested 127 part → (∃ e, decode part = .ok e) →
        decodeList t = .error (.malformed .recursionLimit) := by
  obtain ⟨source, fills⟩ := sources_exist values
  rw [decode_list_of list fills]
  constructor
  · intro shallow
    exact map_m_congr fun part found => element_within (fills part found) (shallow part found)
  · rintro first part rest rfl earlier ⟨v, filled, deepest⟩ ⟨e, alone⟩
    have here := fills part (List.mem_append_right first List.mem_cons_self)
    have deep : 126 < (source part).depth := by
      rw [← depth_determined filled here, deepest]
      decide
    have malformed :
        (outcome (nesting - 1) ∘ source) part = .error (.malformed .recursionLimit) :=
      element_deep here deep alone
    refine map_m_error (fun part' found => ?_) malformed rest
    obtain ⟨e', alone'⟩ := earlier part' found
    have read := element_read (fills part' (List.mem_append_left _ found)) alone'
    exact read.imp_left fun known => ⟨e', known⟩

def bracketText : Nat → List Char
  | 0 => ['[', ']']
  | depth + 1 => '[' :: (bracketText depth ++ [']'])

def bracketed (depth : Nat) : String :=
  String.ofList (['{', '"', 'k', 'i', 'n', 'd', '"', ':', '"', 'o', 't', 'h', 'e', 'r', '"', ',',
    '"', 'm', 'e', 's', 's', 'a', 'g', 'e', '"', ':', '"', '"', ',',
    '"', 'c', 'o', 'd', 'e', '"', ':', '0', ',', '"', 'x', '"', ':'] ++
    (bracketText depth ++ ['}']))

end ClientFailure

end MqttFailure
