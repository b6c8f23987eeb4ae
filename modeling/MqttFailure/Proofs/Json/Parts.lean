import Mathlib.Tactic.Choose
import MqttFailure.Proofs.Json.Texts
set_option autoImplicit false

namespace MqttFailure.Json

open Reader

variable {α β : Type}

def Nested (depth : Nat) (t : String) : Prop := ∃ v : Source, v.Fills t.toList ∧ v.depth = depth

theorem depth_determined {t : String} {v v' : Source} (fills : v.Fills t.toList)
    (fills' : v'.Fills t.toList) : v.depth = v'.depth := by
  have bound {v v' : Source} (fills : v.Fills t.toList) (fills' : v'.Fills t.toList) :
      v'.depth ≤ v.depth := by
    have reads := value_reads loose_obeys v.depth
    obtain ⟨j, known⟩ := v.loose_json
    have read := (read_all_fills reads fills).trans
      (Source.outcome_eq_ok.mpr ⟨Nat.le_refl v.depth, known⟩)
    rw [read_all_fills reads fills', Source.outcome_eq_ok] at read
    exact read.1
  exact Nat.le_antisymm (bound fills' fills) (bound fills fills')

theorem sources_exist {parts : List String} (values : ∀ part ∈ parts, ∃ depth, Nested depth part) :
    ∃ source : String → Source, ∀ part ∈ parts, (source part).Fills part.toList := by
  have inhabited : Nonempty Source := ⟨.null⟩
  choose! depth source fills _ using values
  exact ⟨source, fills⟩

def Verbatim (part : String) (w : List Char) : Prop := w = part.toList

inductive ListOf (parts : List String) : List Char → Prop where
  | mk {before w after : List Char} :
      Blank before → Listed Verbatim parts w → Blank after →
      ListOf parts (before ++ '[' :: (w ++ ']' :: after))

inductive ObjectOf (members : List (List Piece × String)) : List Char → Prop where
  | mk {before w after : List Char} :
      Blank before → Listed (Keyed Verbatim) members w → Blank after →
      ObjectOf members (before ++ '{' :: (w ++ '}' :: after))

def Holds (written : α → List Char → Prop) (written' : β → List Char → Prop) (f : α → β) (a : α) :
    Prop :=
  ∀ w, written a w → ∃ before w' after,
    w = before ++ (w' ++ after) ∧ Blank before ∧ written' (f a) w' ∧ Blank after

section items

variable {written : α → List Char → Prop} {written' : β → List Char → Prop} {f : α → β}
  {as : List α} {w : List Char}

theorem separated_map (separated : Separated written as w)
    (each : ∀ a ∈ as, Holds written written' f a) : Separated written' (as.map f) w := by
  induction separated with
  | @last a before w after blank text blank' =>
      obtain ⟨before', w', after', rfl, inner, text', inner'⟩ := each a List.mem_cons_self w text
      have same : before ++ (before' ++ (w' ++ after') ++ after) =
          (before ++ before') ++ (w' ++ (after' ++ after)) := by simp
      rw [same]
      exact .last (blank_append blank inner) text' (blank_append inner' blank')
  | @cons a as before w after ws blank text blank' _ ih =>
      obtain ⟨before', w', after', rfl, inner, text', inner'⟩ := each a List.mem_cons_self w text
      have others := ih fun a' found => each a' (List.mem_cons_of_mem a found)
      have same : before ++ (before' ++ (w' ++ after') ++ (after ++ ',' :: ws)) =
          (before ++ before') ++ (w' ++ ((after' ++ after) ++ ',' :: ws)) := by simp
      rw [same]
      exact .cons (blank_append blank inner) text' (blank_append inner' blank') others

theorem listed_map (listed : Listed written as w) (each : ∀ a ∈ as, Holds written written' f a) :
    Listed written' (as.map f) w := by
  cases listed with
  | empty blank => exact .empty blank
  | items separated => exact .items (separated_map separated each)

end items

section parts

variable {source : String → Source}

theorem part_holds {part : String} (fills : (source part).Fills part.toList) :
    Holds Verbatim Source.Written source part := by
  rintro _ rfl
  generalize part.toList = cs at fills
  cases fills with
  | mk blank written blank' => exact ⟨_, _, _, rfl, blank, written, blank'⟩

theorem keyed_part_holds {m : List Piece × String} (fills : (source m.2).Fills m.2.toList) :
    Holds (Keyed Verbatim) (Keyed Source.Written) (Prod.map id source) m := by
  intro w keyed
  cases keyed with
  | @mk key part name before after w quoted blank blank' verbatim =>
      obtain ⟨before', w', after', rfl, inner, written, inner'⟩ := part_holds fills w verbatim
      refine ⟨[], name ++ (before ++ ':' :: ((after ++ before') ++ w')), after', ?_, blank_nil,
        .mk quoted blank (blank_append blank' inner) written, inner'⟩
      simp

theorem ListOf.fills {parts : List String} {cs : List Char} (list : ListOf parts cs)
    (each : ∀ part ∈ parts, (source part).Fills part.toList) :
    (Source.array (parts.map source)).Fills cs := by
  cases list with
  | mk blank listed blank' =>
      have written := Source.Written.array (listed_map listed fun part found =>
        part_holds (each part found))
      simpa using Source.Fills.mk blank written blank'

theorem ObjectOf.fills {members : List (List Piece × String)} {cs : List Char}
    (object : ObjectOf members cs)
    (each : ∀ part ∈ members.map (·.2), (source part).Fills part.toList) :
    (Source.object (members.map (Prod.map id source))).Fills cs := by
  cases object with
  | mk blank listed blank' =>
      have written := Source.Written.object (listed_map listed fun m found =>
        keyed_part_holds (each m.2 (List.mem_map_of_mem found)))
      simpa using Source.Fills.mk blank written blank'

end parts

end MqttFailure.Json
