import MqttFailure.Broker
set_option autoImplicit false

namespace MqttFailure.Broker

open Connection (SubscribeReply QoS)

structure FirstRefused (replies : List SubscribeReply) (filters : List String) (i : Nat)
    (filter : String) : Prop where
  asked : filters[i]? = some filter
  refused : replies[i]? = some .refused
  granted : ∀ j < i, ∃ qos, replies[j]? = some (.granted qos)

namespace FirstRefused

variable {replies : List SubscribeReply} {filters : List String} {i : Nat} {found : String}

theorem at_front (filter : String) :
    FirstRefused (.refused :: replies) (filter :: filters) 0 filter where
  asked := rfl
  refused := rfl
  granted := nofun

theorem eq_front {filter : String}
    (first : FirstRefused (.refused :: replies) (filter :: filters) i found) : filter = found := by
  cases i with
  | zero => exact Option.some.inj first.asked
  | succ i =>
      obtain ⟨qos, granted⟩ := first.granted 0 i.succ_pos
      cases granted

theorem behind (qos : QoS) (filter : String) (first : FirstRefused replies filters i found) :
    FirstRefused (.granted qos :: replies) (filter :: filters) (i + 1) found where
  asked := first.asked
  refused := first.refused
  granted := by
    intro j early
    cases j with
    | zero => exact ⟨qos, rfl⟩
    | succ j => exact first.granted j (Nat.lt_of_succ_lt_succ early)

theorem ahead {qos : QoS} {filter : String}
    (first : FirstRefused (.granted qos :: replies) (filter :: filters) i found) :
    ∃ i', FirstRefused replies filters i' found := by
  cases i with
  | zero => cases first.refused
  | succ i =>
      exact ⟨i, first.asked, first.refused,
        fun j early => first.granted (j + 1) (Nat.succ_lt_succ early)⟩

end FirstRefused

variable (b : Broker)

theorem subscribe_no_filter (replies : List SubscribeReply) :
    (b.set (.suback replies)).subscribe [] = .ok () := rfl

theorem subscribe_no_reply (filters : List String) :
    (b.set (.suback [])).subscribe filters = .ok () := by
  cases filters <;> rfl

theorem subscribe_granted (qos : QoS) (replies : List SubscribeReply) (filter : String)
    (filters : List String) :
    (b.set (.suback (.granted qos :: replies))).subscribe (filter :: filters) =
      (b.set (.suback replies)).subscribe filters := rfl

theorem subscribe_refused (replies : List SubscribeReply) (filter : String)
    (filters : List String) :
    (b.set (.suback (.refused :: replies))).subscribe (filter :: filters) =
      .error ⟨⟨"couldn't subscribe to '" ++ filter ++ "'", 0x80⟩⟩ := rfl

theorem subscribe_error_iff {replies : List SubscribeReply} {filters : List String}
    {e : ProtocolFailure} :
    (b.set (.suback replies)).subscribe filters = .error e ↔
      ∃ i filter, FirstRefused replies filters i filter ∧
        e = ⟨⟨"couldn't subscribe to '" ++ filter ++ "'", 0x80⟩⟩ := by
  induction filters generalizing replies with
  | nil =>
      rw [subscribe_no_filter]
      refine ⟨nofun, ?_⟩
      rintro ⟨i, filter, first, _⟩
      cases first.asked
  | cons filter filters ih =>
      cases replies with
      | nil =>
          rw [subscribe_no_reply]
          refine ⟨nofun, ?_⟩
          rintro ⟨i, filter', first, _⟩
          cases first.refused
      | cons reply replies =>
          cases reply with
          | granted qos =>
              rw [subscribe_granted, ih]
              constructor
              · rintro ⟨i, found, first, rfl⟩
                exact ⟨i + 1, found, first.behind qos filter, rfl⟩
              · rintro ⟨i, found, first, rfl⟩
                obtain ⟨i', first'⟩ := first.ahead
                exact ⟨i', found, first', rfl⟩
          | refused =>
              rw [subscribe_refused]
              constructor
              · intro same
                exact ⟨0, filter, .at_front filter, (Except.error.inj same).symm⟩
              · rintro ⟨i, found, first, rfl⟩
                rw [first.eq_front]

theorem subscribe_ok_iff {replies : List SubscribeReply} {filters : List String} :
    (b.set (.suback replies)).subscribe filters = .ok () ↔
      ∀ i filter, ¬ FirstRefused replies filters i filter := by
  cases answered : (b.set (.suback replies)).subscribe filters with
  | error e =>
      obtain ⟨i, filter, first, _⟩ := b.subscribe_error_iff.mp answered
      exact ⟨nofun, fun none => absurd first (none i filter)⟩
  | ok =>
      refine ⟨fun _ i filter first => ?_, fun _ => rfl⟩
      have refused := b.subscribe_error_iff.mpr ⟨i, filter, first, rfl⟩
      rw [answered] at refused
      cases refused

theorem subscribe_append {replies : List SubscribeReply} {filters : List String}
    (paired : filters.length = replies.length) (replies' : List SubscribeReply)
    (filters' : List String) :
    (b.set (.suback (replies ++ replies'))).subscribe (filters ++ filters') =
      (b.set (.suback replies)).subscribe filters >>= fun _ =>
        (b.set (.suback replies')).subscribe filters' := by
  induction filters generalizing replies with
  | nil =>
      obtain rfl := List.length_eq_zero_iff.mp paired.symm
      rfl
  | cons filter filters ih =>
      cases replies with
      | nil => cases paired
      | cons reply replies =>
          cases reply with
          | granted qos => exact ih (Nat.succ.inj paired)
          | refused => rfl

theorem subscribe_replies {replies : List SubscribeReply} {filters : List String}
    (enough : filters.length ≤ replies.length) (more : List SubscribeReply) :
    (b.set (.suback (replies ++ more))).subscribe filters =
      (b.set (.suback (replies.take filters.length))).subscribe filters := by
  have paired : filters.length = (replies.take filters.length).length := by
    rw [List.length_take, Nat.min_eq_left enough]
  have parted := b.subscribe_append paired (replies.drop filters.length ++ more) []
  rw [← List.append_assoc, List.take_append_drop, List.append_nil] at parted
  rw [parted]
  exact bind_pure_unit

theorem subscribe_filters {replies : List SubscribeReply} {filters : List String}
    (enough : replies.length ≤ filters.length) (more : List String) :
    (b.set (.suback replies)).subscribe (filters ++ more) =
      (b.set (.suback replies)).subscribe (filters.take replies.length) := by
  have paired : (filters.take replies.length).length = replies.length := by
    rw [List.length_take, Nat.min_eq_left enough]
  have parted := b.subscribe_append paired [] (filters.drop replies.length ++ more)
  rw [← List.append_assoc, List.take_append_drop, List.append_nil, subscribe_no_reply] at parted
  rw [parted]
  exact bind_pure_unit

/-- A subscription fails exactly with the first filter that is refused, and is granted where there
is none. -/
theorem subscribe_first_refused (replies : List SubscribeReply) (filters : List String) :
    (∀ e, (b.set (.suback replies)).subscribe filters = .error e ↔
      ∃ i filter, FirstRefused replies filters i filter ∧
        e = ⟨⟨"couldn't subscribe to '" ++ filter ++ "'", 0x80⟩⟩) ∧
    ((b.set (.suback replies)).subscribe filters = .ok () ↔
      ∀ i filter, ¬ FirstRefused replies filters i filter) ∧
    (filters.length ≤ replies.length → ∀ more,
      (b.set (.suback (replies ++ more))).subscribe filters =
        (b.set (.suback replies)).subscribe filters) ∧
    (replies.length ≤ filters.length → ∀ more,
      (b.set (.suback replies)).subscribe (filters ++ more) =
        (b.set (.suback replies)).subscribe filters) ∧
    (filters.length = replies.length → ∀ replies' filters',
      (b.set (.suback (replies ++ replies'))).subscribe (filters ++ filters') =
        (b.set (.suback replies)).subscribe filters >>= fun _ =>
          (b.set (.suback replies')).subscribe filters') := by
  refine ⟨fun e => b.subscribe_error_iff, b.subscribe_ok_iff, ?_, ?_, b.subscribe_append⟩
  · intro enough more
    have alone := b.subscribe_replies enough []
    rw [List.append_nil] at alone
    rw [alone, b.subscribe_replies enough more]
  · intro enough more
    have alone := b.subscribe_filters enough []
    rw [List.append_nil] at alone
    rw [alone, b.subscribe_filters enough more]

theorem second_filter_refused :
    ∃ e : ProtocolFailure, e = ⟨⟨"couldn't subscribe to 'b/#'", 0x80⟩⟩ ∧
      (willing.set (.suback [.granted .atLeastOnce, .refused, .refused])).subscribe
        ["a", "b/#", "c"] = .error e ∧
      (willing.set (.suback [.granted .atLeastOnce, .refused, .refused])).subscribe
        ["a", "b/#"] = .error e ∧
      (willing.set (.suback [.granted .atLeastOnce, .refused])).subscribe
        ["a", "b/#", "c"] = .error e := by
  obtain ⟨refused, _, replies, filters, appended⟩ :=
    subscribe_first_refused willing [.granted .atLeastOnce, .refused] ["a", "b/#"]
  have second : FirstRefused [.granted .atLeastOnce, .refused] ["a", "b/#"] 1 "b/#" :=
    (FirstRefused.at_front "b/#").behind .atLeastOnce "a"
  have failed := (refused _).mpr ⟨1, "b/#", second, rfl⟩
  refine ⟨_, rfl, ?_, ?_, ?_⟩
  · exact (appended rfl [.refused] ["c"]).trans (by rw [failed]; rfl)
  · exact (replies (Nat.le_refl 2) [.refused]).trans failed
  · exact (filters (Nat.le_refl 2) ["c"]).trans failed

end MqttFailure.Broker
