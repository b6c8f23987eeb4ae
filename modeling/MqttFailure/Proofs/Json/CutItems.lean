import MqttFailure.Proofs.Json.Cuts
import MqttFailure.Proofs.Json.Texts
set_option autoImplicit false

namespace MqttFailure.Json

namespace Reader

variable {α β γ σ : Type}

theorem more_hungry (careful : Bool) (close : Char) : TooShort (more careful close []) :=
  ⟨.within close, rfl⟩

theorem takes_keyed {reader : Reader β} {outcome : List Piece × Source → Except ReadError β}
    (reads : Reads reader (Keyed Source.Written) outcome) {key : String} {j : Json} {depth : Nat}
    (faithful : Faithful depth j) {b : β}
    (good : ∀ {m : List Piece × Source}, Sense.exact.text m.1 = some key →
      m.2.json? .exact = some j → m.2.depth ≤ depth → outcome m = .ok b) :
    Takes reader (string key ++ ':' :: compactChars j) b := by
  obtain ⟨pieces, v, keyed, named, meant, fits⟩ := member_faithful key faithful
  intro rest stops
  exact reads.forward_ok blank_nil keyed stops (good named meant fits)

theorem keyed_hungry {judged : String → Except Mismatch γ} {behind : String → γ → Reader β}
    {name : String} {found : γ} (judgement : judged name = .ok found) {w : List Char}
    (hungry : Hungry (behind name found) w) :
    Hungry (do
      let name ← key .exact
      let found ← judge (judged name)
      colon
      behind name found) (string name ++ ':' :: w) := by
  intro p inside proper
  have judged_run (cs : List Char) : (do
      let found ← judge (judged name)
      colon
      behind name found : Reader β) cs = (colon >>= fun _ => behind name found) cs := by
    rw [judgement]
    rfl
  rcases prefix_split inside proper with ⟨inside, proper⟩ | ⟨q, rfl, inside, proper⟩
  · exact .inl ((key_needs name p inside proper).bind _)
  · rcases prefix_cons inside proper with rfl | ⟨q, rfl, inside, proper⟩
    · rw [bind_run_ok (key_takes name [] stops_nil), judged_run]
      exact .inl ⟨.object, rfl⟩
    · rw [bind_run_ok (key_takes name _ (stops_cons rfl q)), judged_run]
      have parted : colon (':' :: q) = .ok ((), q) := colon_run blank_nil q
      rw [bind_run_ok parted]
      exact hungry q inside proper

-- Items as a writer puts them, without blanks, and what a reader goes through. All of
-- them begin alike.
inductive Sequence (item : σ → Reader σ) (first : Char) : σ → List Char → Prop where
  | last {state after : σ} {w : List Char} :
      w.head? = some first → Takes (item state) w after → Hungry (item state) w →
      Sequence item first state w
  | cons {state after : σ} {w ws : List Char} :
      w.head? = some first → Takes (item state) w after → Hungry (item state) w →
      Sequence item first after ws → Sequence item first state (w ++ ',' :: ws)

theorem sequence_front {item : σ → Reader σ} {first : Char} {state : σ} {ws : List Char}
    (sequence : Sequence item first state ws) : ∃ tail, ws = first :: tail := by
  have opens : ws.head? = some first := by
    cases sequence with
    | last opens _ _ => exact opens
    | cons opens _ _ _ => rw [List.head?_append, opens, Option.some_or]
  obtain ⟨tail, same⟩ := List.head?_eq_some_iff.mp opens
  exact ⟨tail, same⟩

variable {careful : Bool} {close : Char} {item : σ → Reader σ} {state : σ}

theorem run_unfinished {p : List Char}
    (ended : TooShort (item state p) ∨ ∃ after, item state p = .ok (after, [])) :
    TooShort (run careful close item state p) := by
  apply TooShort.loop
  rcases ended with ended | ⟨after, taken⟩
  · exact ended.bind _
  · rw [bind_run_ok taken]
    exact (more_hungry careful close).bind _

-- The cut is inside the item, right behind it, or behind the comma or bracket
-- that follows it.
theorem run_item_cut {after : σ} {w v p : List Char} {c : Char} (takes : Takes (item state) w after)
    (hungry : Hungry (item state) w) (inside : p <+: w ++ c :: v) (proper : p ≠ w ++ c :: v) :
    TooShort (run careful close item state p) ∨ ∃ q, p = w ++ c :: q ∧ q <+: v ∧ q ≠ v := by
  rcases prefix_split inside proper with ⟨inside, proper⟩ | ⟨q, rfl, inside, proper⟩
  · exact .inl (run_unfinished (hungry p inside proper))
  · rcases prefix_cons inside proper with rfl | ⟨q, rfl, inside, proper⟩
    · exact .inl (run_unfinished (.inr ⟨after, takes [] stops_nil⟩))
    · exact .inr ⟨q, rfl, inside, proper⟩

theorem item_round_needs (careful : Bool) {after : σ} {first : Char} {w ws q : List Char}
    (takes : Takes (item state) w after) (visible : isBlank first = false) (other : first ≠ close)
    (inside : q <+: first :: ws) :
    TooShort (itemRound careful close item state (w ++ ',' :: q)) ∨
      itemRound careful close item state (w ++ ',' :: q) = .ok (.more after, q) := by
  have taken := takes _ (stops_cons (c := ',') rfl q)
  cases q with
  | cons c q =>
      obtain ⟨rfl, _⟩ := List.cons_prefix_cons.mp inside
      exact .inr (item_round_comma taken blank_nil careful
        (foresee_visible blank_nil visible other q))
  | nil =>
      cases careful with
      | false =>
          refine .inr ?_
          rw [itemRound, bind_run_ok taken]
          rfl
      | true =>
          refine .inl ⟨.value, ?_⟩
          rw [itemRound, bind_run_ok taken]
          rfl

theorem run_needs {first : Char} {ws : List Char} (sequence : Sequence item first state ws)
    (visible : isBlank first = false) (other : first ≠ close) :
    Needs (run careful close item state) (ws ++ [close]) := by
  induction sequence with
  | last _ takes hungry =>
      intro p inside proper
      rcases run_item_cut takes hungry inside proper with ended | ⟨q, _, inside, proper⟩
      · exact ended
      · exact absurd (List.prefix_nil.mp inside) proper
  | @cons state after w ws _ takes hungry behind ih =>
      intro p inside proper
      rw [List.append_assoc, List.cons_append] at inside proper
      rcases run_item_cut takes hungry inside proper with ended | ⟨q, rfl, inside, proper⟩
      · exact ended
      · obtain ⟨tail, front⟩ := sequence_front behind
        have inside' : q <+: first :: (tail ++ [close]) := by
          rw [← List.cons_append, ← front]
          exact inside
        rw [run_run]
        rcases item_round_needs careful takes visible other inside' with short | went
        · exact short.loop
        · have shorter : q.length < (w ++ ',' :: q).length := by
            simp only [List.length_append, List.length_cons]
            omega
          rw [loop_more went shorter]
          exact ih q inside proper

theorem items_needs {first : Char} {ws : List Char} (sequence : Sequence item first state ws)
    (visible : isBlank first = false) (other : first ≠ close) :
    Needs (items careful close item state) (ws ++ [close]) := by
  intro p inside proper
  have ended : TooShort (run careful close item state p) :=
    run_needs sequence visible other p inside proper
  obtain ⟨tail, rfl⟩ := sequence_front sequence
  rcases prefix_cons inside proper with rfl | ⟨q, rfl, _, _⟩
  · exact ⟨.within close, rfl⟩
  · have looked := closes_other blank_nil visible other q
    rw [List.nil_append] at looked
    rw [items, bind_run_ok looked]
    exact ended

theorem by_shape_array_needs {array object : Reader β} {form : String} {w : List Char}
    (needs : Needs array w) : Needs (Reader.byShape array object form) ('[' :: w) := by
  intro p inside proper
  rcases prefix_cons inside proper with rfl | ⟨q, rfl, inside, proper⟩
  · exact ⟨.value, rfl⟩
  · have opened : Reader.byShape array object form ('[' :: q) = array q :=
      by_shape_array (head_array _ blank_nil q)
    rw [opened]
    exact needs q inside proper

theorem by_shape_object_needs {array object : Reader β} {form : String} {w : List Char}
    (needs : Needs object w) : Needs (Reader.byShape array object form) ('{' :: w) := by
  intro p inside proper
  rcases prefix_cons inside proper with rfl | ⟨q, rfl, inside, proper⟩
  · exact ⟨.value, rfl⟩
  · have opened : Reader.byShape array object form ('{' :: q) = object q :=
      by_shape_object (head_object _ blank_nil q)
    rw [opened]
    exact needs q inside proper

theorem read_all_needs {reader : Reader α} {t : String} (needs : Needs reader t.toList)
    {p s : String} (cut : p ++ s = t) (some : s ≠ "") : TooShort (readAll reader p) := by
  have whole : p.toList ++ s.toList = t.toList := by rw [← cut, String.toList_append]
  have proper : p.toList ≠ t.toList := by
    intro same
    rw [← same, List.append_right_eq_self] at whole
    exact some (String.toList_eq_nil_iff.mp whole)
  obtain ⟨place, short⟩ := needs p.toList ⟨s.toList, whole⟩ proper
  exact ⟨place, by rw [readAll, short]⟩

end Reader

end MqttFailure.Json
