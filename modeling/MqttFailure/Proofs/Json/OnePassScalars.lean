import MqttFailure.Proofs.Json.Heads
import MqttFailure.Proofs.Json.OnePass
set_option autoImplicit false

namespace MqttFailure.Json

namespace Reader

open Text (utf8Length hexValue?)

variable {α β : Type} {texts : Texts}

-- On a text that is not empty and does not end inside a numeral, the reader
-- stops before the end, and its answer stands.
structure Halts (reader : Reader α) : Prop where
  shrinks : ∀ {cs rest : List Char} {a : α}, reader cs = .ok (a, rest) → rest <:+ cs
  stands : ∀ {cs : List Char}, Settled cs → cs ≠ [] → ∀ s, Stands s (reader cs) (reader (cs ++ s))
  leaves : ∀ {cs rest : List Char} {a : α}, Settled cs → cs ≠ [] → reader cs = .ok (a, rest) →
    rest ≠ []

theorem pure_halts (a : α) : Halts (pure a : Reader α) where
  shrinks := by
    intro cs rest a ran
    obtain ⟨_, rfl⟩ := pure_eq_ok.mp ran
    exact List.suffix_refl cs
  stands {cs} _ _ _ := .ok a cs
  leaves := by
    intro cs rest a _ some ran
    obtain ⟨_, rfl⟩ := pure_eq_ok.mp ran
    exact some

theorem fail_halts (e : ReadError) : Halts (fail e : Reader α) where
  shrinks ran := absurd ran fail_ne_ok
  stands _ _ s := stands_error s e
  leaves _ _ ran := absurd ran fail_ne_ok

theorem bind_halts {first : Reader α} {after : α → Reader β} (halts : Halts first)
    (others : ∀ a, Halts (after a)) : Halts (first >>= after) where
  shrinks := by
    intro cs rest b ran
    obtain ⟨a, mid, read, behind⟩ := bind_eq_ok.mp ran
    exact ((others a).shrinks behind).trans (halts.shrinks read)
  stands := by
    intro cs settled some s
    have stands := halts.stands settled some s
    cases read : first cs with
    | error e =>
        rw [read] at stands
        rw [bind_run_error read]
        exact stands.carry fun e' ran => bind_run_error ran
    | ok result =>
        obtain ⟨a, mid⟩ := result
        have settled' := settled_suffix settled (halts.shrinks read)
        have some' := halts.leaves settled some read
        rw [read] at stands
        rw [bind_run_ok read, bind_run_ok stands.of_ok]
        exact (others a).stands settled' some' s
  leaves := by
    intro cs rest b settled some ran
    obtain ⟨a, mid, read, behind⟩ := bind_eq_ok.mp ran
    have settled' := settled_suffix settled (halts.shrinks read)
    exact (others a).leaves settled' (halts.leaves settled some read) behind

theorem ite_halts {c : Prop} [Decidable c] {yes no : Reader α} (halts : Halts yes)
    (other : Halts no) : Halts (if c then yes else no) := by
  split
  · exact halts
  · exact other

theorem one_of_halts {chars : List Char} (all : ∀ c ∈ chars, ofNumerals c = true) :
    Halts (oneOf chars) where
  shrinks := by
    intro cs rest taken ran
    obtain ⟨rfl, _⟩ := one_of_ok ran
    exact List.suffix_append ..
  stands := by
    intro cs _ some s
    cases cs with
    | nil => exact absurd rfl some
    | cons c tail =>
        by_cases known : c ∈ chars
        · simpa only [oneOf, List.cons_append, if_pos known] using .ok (Option.some c) tail
        · simpa only [oneOf, List.cons_append, if_neg known] using .ok none (c :: tail)
  leaves := by
    intro cs rest taken settled some ran none
    subst none
    obtain ⟨rfl, known⟩ := one_of_ok ran
    cases taken with
    | none => exact some rfl
    | some c =>
        have last := settled c rfl
        rw [all c (known c rfl)] at last
        cases last

theorem digit_of_numerals {c : Char} (digit : c.isDigit = true) : ofNumerals c = true := by
  simp [ofNumerals, digit]

theorem digits_halts (atEnd : ReadError) : Halts (Reader.digits atEnd) where
  shrinks := by
    intro cs rest ds ran
    rw [(digits_ok ran).1]
    exact List.suffix_append ..
  stands := by
    intro cs settled some s
    cases cs with
    | nil => exact absurd rfl some
    | cons c tail =>
        by_cases digit : c.isDigit = true
        · -- The last character is no digit, so the digits end where they ended before.
          have ends : tail.dropWhile Char.isDigit ≠ [] := by
            intro none
            have all : ∀ d ∈ c :: tail, ofNumerals d = true := by
              intro d found
              rcases List.mem_cons.mp found with rfl | found
              · exact digit_of_numerals digit
              · rw [← List.takeWhile_append_dropWhile (p := Char.isDigit) (l := tail), none,
                  List.append_nil] at found
                exact digit_of_numerals (List.all_eq_true.mp List.all_takeWhile d found)
            exact unsettled_all some all settled
          have short : (tail.takeWhile Char.isDigit).length ≠ tail.length := by
            intro same
            have parts := congrArg List.length
              (List.takeWhile_append_dropWhile (p := Char.isDigit) (l := tail))
            rw [List.length_append] at parts
            exact ends (List.eq_nil_of_length_eq_zero (by omega))
          have taken : (tail ++ s).takeWhile Char.isDigit = tail.takeWhile Char.isDigit := by
            rw [List.takeWhile_append, if_neg short]
          have left : (tail ++ s).dropWhile Char.isDigit = tail.dropWhile Char.isDigit ++ s := by
            rw [List.dropWhile_append, if_neg (by simpa using ends)]
          simp only [Reader.digits, List.cons_append, if_pos digit, taken, left]
          exact .ok _ _
        · simp only [Reader.digits, List.cons_append, if_neg digit]
          exact .malformed _ _
  leaves := by
    intro cs rest ds settled some ran none
    subst none
    obtain ⟨rfl, _, all⟩ := digits_ok ran
    rw [List.append_nil] at settled some
    exact unsettled_all some (fun c found => digit_of_numerals (all c found)) settled

theorem fraction_halts (atEnd : ReadError) : Halts (fraction atEnd) := by
  refine bind_halts (one_of_halts (by simp [ofNumerals])) fun point => ?_
  exact ite_halts (digits_halts atEnd) (pure_halts [])

theorem exponent_halts (atEnd : ReadError) : Halts (exponent atEnd) := by
  refine bind_halts (one_of_halts (by simp [ofNumerals])) fun mark => ?_
  refine ite_halts ?_ (pure_halts none)
  refine bind_halts (one_of_halts (by simp [ofNumerals])) fun sign => ?_
  exact bind_halts (digits_halts atEnd) fun ds => pure_halts _

theorem numeral_halts (atEnd : ReadError) : Halts (numeral atEnd) := by
  rw [numeral_eq]
  refine bind_halts (one_of_halts (by simp [ofNumerals])) fun minus => ?_
  refine bind_halts (digits_halts atEnd) fun whole => ?_
  refine ite_halts (fail_halts _) ?_
  refine bind_halts (fraction_halts atEnd) fun fraction => ?_
  exact bind_halts (exponent_halts atEnd) fun exponent => pure_halts _

theorem exact_number_halts : Halts exactNumber := by
  refine bind_halts (numeral_halts _) fun parts => ?_
  cases parts.number? with
  | some value => exact pure_halts value
  | none => exact fail_halts _

theorem loose_number_halts : Halts looseNumber :=
  bind_halts (numeral_halts _) fun _ => pure_halts _

theorem hex_value_size {c : Char} {n : Nat} (known : hexValue? c = some n) : c.utf8Size = 1 := by
  have below {d : Char} (least : c ≤ d) (small : d.toNat < 0x80) : c.utf8Size = 1 := by
    have bound : c.toNat ≤ d.toNat := least
    have ascii : c.toNat ≤ 127 := by omega
    exact Char.utf8Size_eq_one_iff.mpr ascii
  unfold hexValue? at known
  split at known
  · rename_i range
    exact below range.2 (by decide)
  · split at known
    · rename_i range
      exact below range.2 (by decide)
    · split at known
      · rename_i range
        exact below range.2 (by decide)
      · cases known

theorem hex_digits_length {cs : List Char} (digits : ∀ c ∈ cs, ∃ n, hexValue? c = some n) :
    utf8Length cs = cs.length := by
  induction cs with
  | nil => rfl
  | cons c cs ih =>
      obtain ⟨n, known⟩ := digits c List.mem_cons_self
      have behind := ih fun d found => digits d (List.mem_cons_of_mem c found)
      have step : utf8Length (c :: cs) = c.utf8Size + utf8Length cs := rfl
      rw [step, hex_value_size known, behind, List.length_cons]
      omega

theorem hex_quad_digits {a b c d : Char} {unit : Nat} (known : hexQuad? a b c d = some unit) :
    ∀ e ∈ [a, b, c, d], ∃ n, hexValue? e = some n := by
  simp only [hexQuad?, Option.bind_eq_bind, Option.bind_eq_some_iff] at known
  obtain ⟨_, first, _, second, _, third, _, fourth, _⟩ := known
  simp [first, second, third, fourth]

theorem utf8_length_append (cs s : List Char) :
    utf8Length (cs ++ s) = utf8Length cs + utf8Length s := by
  induction cs with
  | nil => simp [utf8Length]
  | cons c cs ih =>
      have step (ds : List Char) : utf8Length (c :: ds) = c.utf8Size + utf8Length ds := rfl
      rw [List.cons_append, step, step, ih]
      omega

theorem code_unit_error {cs : List Char} {e : ReadError} (ran : codeUnit cs = .error e) :
    (utf8Length (cs.take 4) < 4 ∧ e = .truncated .string) ∨
      (4 ≤ utf8Length (cs.take 4) ∧ e = .malformed .invalidEscape) := by
  unfold codeUnit at ran
  split at ran
  · rename_i short
    cases ran
    exact .inl ⟨short, rfl⟩
  · rename_i short
    have enough : 4 ≤ utf8Length (cs.take 4) := by omega
    split at ran
    · split at ran
      · cases ran
      · cases ran
        exact .inr ⟨enough, rfl⟩
    · cases ran
      exact .inr ⟨enough, rfl⟩

-- Four bytes in fewer than four characters are not four digits, and do not become
-- four digits when characters are added.
theorem code_unit_never {cs : List Char} {fault : SyntaxFault}
    (ran : codeUnit cs = .error (.malformed fault)) {a b c d : Char} {unit : Nat}
    (known : hexQuad? a b c d = some unit) {s rest : List Char} :
    cs ++ s ≠ a :: b :: c :: d :: rest := by
  intro same
  have front : cs <+: [a, b, c, d] ++ rest := ⟨s, same⟩
  rcases code_unit_error ran with ⟨_, other⟩ | ⟨enough, _⟩
  · cases other
  · by_cases few : cs.length < 4
    · have inside : cs <+: [a, b, c, d] :=
        List.prefix_of_prefix_length_le front (List.prefix_append ..) (Nat.le_of_lt few)
      have size := hex_digits_length fun e found => hex_quad_digits known e (inside.subset found)
      rw [List.take_of_length_le (Nat.le_of_lt few)] at enough
      omega
    · have inside : [a, b, c, d] <+: cs :=
        List.prefix_of_prefix_length_le (List.prefix_append ..) front (by simpa using few)
      obtain ⟨behind, rfl⟩ := inside
      rw [List.cons_append, List.cons_append, List.cons_append, List.cons_append,
        code_unit_run known] at ran
      cases ran

theorem code_unit_one_pass : OnePass texts codeUnit where
  shrinks := by
    intro cs rest value ran
    obtain ⟨a, b, c, d, rfl, _⟩ := code_unit_ok ran
    exact ⟨[a, b, c, d], rfl⟩
  stands := by
    intro cs _ s
    cases ran : codeUnit cs with
    | ok result =>
        obtain ⟨value, rest⟩ := result
        obtain ⟨a, b, c, d, rfl, known⟩ := code_unit_ok ran
        have ran' : codeUnit (a :: b :: c :: d :: rest ++ s) = .ok (value, rest ++ s) :=
          code_unit_run known (rest ++ s)
        rw [ran']
        exact .ok value rest
    | error e =>
        rcases code_unit_error ran with ⟨_, rfl⟩ | ⟨enough, rfl⟩
        · exact .truncated .string _
        · cases ran' : codeUnit (cs ++ s) with
          | ok result =>
              obtain ⟨value, rest⟩ := result
              obtain ⟨a, b, c, d, same, known⟩ := code_unit_ok ran'
              exact absurd same (code_unit_never ran known)
          | error e =>
              rcases code_unit_error ran' with ⟨short, _⟩ | ⟨_, rfl⟩
              · rw [List.take_append, utf8_length_append] at short
                omega
              · exact .malformed _ _

theorem short_escape_one_pass (c : Char) :
    OnePass texts (match shortEscape? c with
      | some meant => pure meant
      | none => fail (.malformed .invalidEscape)) := by
  cases shortEscape? c with
  | some meant => exact pure_one_pass meant
  | none => exact fail_one_pass _

theorem exact_escape_one_pass : OnePass texts exactEscape := by
  refine bind_one_pass (next_one_pass _) fun c => ?_
  refine ite_one_pass ?_ (short_escape_one_pass c)
  refine bind_one_pass code_unit_one_pass fun unit => ?_
  refine ite_one_pass (fail_one_pass _) (ite_one_pass ?_ (pure_one_pass _))
  refine bind_one_pass (literal_one_pass _ _ _) fun _ => ?_
  refine bind_one_pass code_unit_one_pass fun second => ?_
  exact ite_one_pass (pure_one_pass _) (fail_one_pass _)

theorem loose_escape_one_pass : OnePass texts looseEscape := by
  refine bind_one_pass (next_one_pass _) fun c => ?_
  refine ite_one_pass ?_ (short_escape_one_pass c)
  exact bind_one_pass code_unit_one_pass fun unit => pure_one_pass _

structure Steady (s : Scanner) : Prop where
  escape : ∀ texts, OnePass texts s.escape
  number : Halts s.number

theorem exact_steady : Steady .exact := ⟨fun _ => exact_escape_one_pass, exact_number_halts⟩

theorem loose_steady : Steady .loose := ⟨fun _ => loose_escape_one_pass, loose_number_halts⟩

variable {s : Scanner}

theorem string_body_one_pass (steady : Steady s) : OnePass texts (stringBody s.escape) := by
  refine iterate_one_pass (fun read => bind_one_pass ?_ fun c => ?_) []
  · refine bind_one_pass (next_one_pass _) fun c => ?_
    refine ite_one_pass (pure_one_pass _) (ite_one_pass ?_ ?_)
    · exact bind_one_pass (steady.escape texts) fun meant => pure_one_pass _
    · exact ite_one_pass (fail_one_pass _) (pure_one_pass _)
  · cases c with
    | some c => exact pure_one_pass _
    | none => exact pure_one_pass _

theorem key_one_pass (steady : Steady s) : OnePass texts (key s) := by
  refine blanks_one_pass ?_ rfl
  exact bind_one_pass (literal_one_pass _ _ _) fun _ => string_body_one_pass steady

theorem colon_one_pass : OnePass texts colon := blanks_one_pass (literal_one_pass _ _ _) rfl

end Reader

end MqttFailure.Json
