import MqttFailure.Chain.Caught
set_option autoImplicit false

namespace MqttFailure

inductive Link.Shows : Link → Kind → Prop
  | client (text : String) (e : ClientFailure) : Shows ⟨text, some (.client e)⟩ e.kind
  | protocol (text : String) (e : ProtocolFailure) : Shows ⟨text, some (.protocol e)⟩ .protocol
  | control (text : String) (e : ControlFailure) : Shows ⟨text, some (.control e)⟩ .control

theorem Link.shows_iff {link : Link} {k : Kind} :
    link.Shows k ↔ ∃ f, link.failure = some f ∧ f.kind = k := by
  constructor
  · intro shown
    cases shown with
    | client text e => exact ⟨.client e, rfl, rfl⟩
    | protocol text e => exact ⟨.protocol e, rfl, rfl⟩
    | control text e => exact ⟨.control e, rfl, rfl⟩
  · rcases link with ⟨text, failure⟩
    rintro ⟨f, rfl, rfl⟩
    cases f with
    | client e => exact .client text e
    | protocol e => exact .protocol text e
    | control e => exact .control text e

theorem Link.plain_iff {link : Link} : link.failure = none ↔ ∀ k, ¬ link.Shows k := by
  simp [Link.shows_iff, Option.eq_none_iff_forall_ne_some]

namespace Chain

theorem failure_behind {above : Chain} (silent : ∀ link ∈ above, link.failure = none)
    (below : Chain) : failure? (above ++ below) = failure? below := by
  rw [failure?, List.findSome?_append, List.findSome?_eq_none_iff.mpr silent, Option.none_or]
  rfl

theorem failure_at (above : Chain) (text : String) (f : AnyFailure) (below : Chain) :
    failure? (above ++ ⟨text, some f⟩ :: below) = failure? (above ++ [⟨text, some f⟩]) := by
  simp only [failure?, List.findSome?_append, List.findSome?_cons]

theorem kind_eq_some_iff {chain : Chain} {k : Kind} :
    chain.kind? = some k ↔ ∃ above link below,
      chain = above ++ link :: below ∧ link.Shows k ∧ ∀ other ∈ above, other.failure = none := by
  simp only [kind?, failure?, Option.map_eq_some_iff, List.findSome?_eq_some_iff, Link.shows_iff]
  constructor
  · rintro ⟨f, ⟨above, link, below, split, found, silent⟩, shown⟩
    exact ⟨above, link, below, split, ⟨f, found, shown⟩, silent⟩
  · rintro ⟨above, link, below, split, ⟨f, found, shown⟩, silent⟩
    exact ⟨f, ⟨above, link, below, split, found, silent⟩, shown⟩

theorem kind_eq_none_iff {chain : Chain} :
    chain.kind? = none ↔ ∀ link ∈ chain, ∀ k, ¬ link.Shows k := by
  simp only [kind?, failure?, Option.map_eq_none_iff, List.findSome?_eq_none_iff, Link.plain_iff]

theorem split_at_iff {chain : Chain} {P Q : Link → Prop} :
    (∃ above link below, chain = above ++ link :: below ∧ P link ∧ ∀ other ∈ above, Q other) ↔
      ∃ (i : Nat) (link : Link), chain[i]? = some link ∧ P link ∧
        ∀ j < i, ∀ other, chain[j]? = some other → Q other := by
  constructor
  · rintro ⟨above, link, below, rfl, here, before⟩
    refine ⟨above.length, link, by simp, here, ?_⟩
    intro j early other found
    rw [List.getElem?_append_left early] at found
    exact before other (List.mem_of_getElem? found)
  · rintro ⟨i, link, found, here, before⟩
    obtain ⟨inside, rfl⟩ := List.getElem?_eq_some_iff.mp found
    refine ⟨chain.take i, chain[i], chain.drop (i + 1), by simp, here, ?_⟩
    intro other early
    obtain ⟨j, earlier, rfl⟩ := List.mem_take_iff_getElem.mp early
    exact before j (by omega) _ (List.getElem?_eq_getElem _)

end Chain

inductive Wrapping where
  | text (message : String)
  | foreign (message : String)
  deriving DecidableEq

namespace Caught

def wrapped (e : Caught) : Wrapping → Caught
  | .text message => e.under (.text message)
  | .foreign message => bare (.foreign (Payload.foreign message e.chain))

def wrappedIn (e : Caught) (wrappings : List Wrapping) : Caught := wrappings.foldl wrapped e

theorem chain_wrapped (e : Caught) (w : Wrapping) :
    ∃ outermost, (e.wrapped w).chain = outermost :: e.chain ∧ outermost.failure = none := by
  cases w with
  | text message => exact ⟨Link.plain message, rfl, rfl⟩
  | foreign message => exact ⟨⟨message, none⟩, rfl, rfl⟩

theorem kind_wrapped (e : Caught) (w : Wrapping) : (e.wrapped w).kind? = e.kind? := by
  obtain ⟨outermost, added, silent⟩ := e.chain_wrapped w
  have same : Chain.failure? ([outermost] ++ e.chain) = e.chain.failure? :=
    Chain.failure_behind (by simpa using silent) e.chain
  rw [kind?, kind?, Chain.kind?, Chain.kind?, added, ← same, List.singleton_append]

theorem kind_wrapped_in (e : Caught) (wrappings : List Wrapping) :
    (e.wrappedIn wrappings).kind? = e.kind? := by
  induction wrappings generalizing e with
  | nil => rfl
  | cons w rest ih => exact (ih (e.wrapped w)).trans (e.kind_wrapped w)

end Caught

/-- The kind of a chain is the one that its first failure shows. What is put around an error does
not matter, nor what is behind the failure. -/
theorem Chain.first_failure_decides (chain : Chain) :
    (∀ k, chain.kind? = some k ↔ ∃ (i : Nat) (link : Link), chain[i]? = some link ∧ link.Shows k ∧
      ∀ j < i, ∀ other, chain[j]? = some other → ∀ k', ¬ other.Shows k') ∧
    (chain.kind? = none ↔ ∀ link ∈ chain, ∀ k, ¬ link.Shows k) ∧
    (∀ (e : Caught) (wrappings : List Wrapping), (e.wrappedIn wrappings).kind? = e.kind?) ∧
    ∀ (above : Chain) (text : String) (f : AnyFailure) (below : Chain),
      kind? (above ++ ⟨text, some f⟩ :: below) = kind? (above ++ [⟨text, some f⟩]) := by
  refine ⟨fun k => ?_, kind_eq_none_iff, Caught.kind_wrapped_in, ?_⟩
  · simp only [← Link.plain_iff]
    exact kind_eq_some_iff.trans split_at_iff
  · intro above text f below
    rw [kind?, kind?, failure_at]

end MqttFailure
