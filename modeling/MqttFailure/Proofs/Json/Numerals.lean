import MqttFailure.Proofs.Json.Running
set_option autoImplicit false

namespace MqttFailure.Json

def continuesNumeral (c : Char) : Bool := c.isDigit || c = '.' || c = 'e' || c = 'E'

def Stops (rest : List Char) : Prop := ∀ c ∈ rest.head?, continuesNumeral c = false

theorem stops_nil : Stops [] := by
  simp [Stops]

theorem stops_cons {c : Char} (ends : continuesNumeral c = false) (rest : List Char) :
    Stops (c :: rest) := by
  simpa [Stops] using ends

theorem blank_ends {c : Char} (blank : isBlank c = true) : continuesNumeral c = false := by
  simp only [isBlank, Bool.or_eq_true, decide_eq_true_eq] at blank
  rcases blank with ((rfl | rfl) | rfl) | rfl <;> rfl

theorem stops_blank {after : List Char} (blank : Blank after) {rest : List Char}
    (stops : Stops rest) : Stops (after ++ rest) := by
  cases after with
  | nil => exact stops
  | cons c after => exact stops_cons (blank_ends (blank c (by simp))) _

namespace Reader

def NoDigit (rest : List Char) : Prop := ∀ c ∈ rest.head?, c.isDigit = false

theorem digits_run {ds rest : List Char} (digits : Digits ds) (ends : NoDigit rest)
    (atEnd : ReadError) : Reader.digits atEnd (ds ++ rest) = .ok (ds, rest) := by
  obtain ⟨some, all⟩ := digits
  cases ds with
  | nil => exact (some rfl).elim
  | cons d ds =>
      have tail : ∀ c ∈ ds, c.isDigit = true := fun c found => all c (List.mem_cons_of_mem d found)
      have stop : rest.takeWhile Char.isDigit = [] ∧ rest.dropWhile Char.isDigit = rest := by
        cases rest with
        | nil => exact ⟨rfl, rfl⟩
        | cons c rest =>
            have other : ¬ c.isDigit = true := by simpa using ends c rfl
            exact ⟨List.takeWhile_cons_of_neg other, List.dropWhile_cons_of_neg other⟩
      simp only [Reader.digits, List.cons_append, all d List.mem_cons_self, if_true,
        List.takeWhile_append_of_pos tail, List.dropWhile_append_of_pos tail, stop,
        List.append_nil]

theorem digits_ok {atEnd : ReadError} {cs ds rest : List Char}
    (ran : Reader.digits atEnd cs = .ok (ds, rest)) : cs = ds ++ rest ∧ Digits ds := by
  cases cs with
  | nil => cases ran
  | cons c cs =>
      by_cases digit : c.isDigit = true
      · simp only [Reader.digits, digit, if_true, Except.ok.injEq, Prod.mk.injEq] at ran
        obtain ⟨rfl, rfl⟩ := ran
        refine ⟨by simp, List.cons_ne_nil _ _, ?_⟩
        intro d found
        rcases List.mem_cons.mp found with rfl | found
        · exact digit
        · exact List.all_eq_true.mp List.all_takeWhile d found
      · simp [Reader.digits, digit] at ran

theorem one_of_run {chars : List Char} (taken : Option Char) (known : ∀ c ∈ taken, c ∈ chars)
    {rest : List Char} (other : taken = none → ∀ c ∈ rest.head?, c ∉ chars) :
    oneOf chars (taken.toList ++ rest) = .ok (taken, rest) := by
  cases taken with
  | some c => simp [oneOf, known c rfl]
  | none =>
      cases rest with
      | nil => rfl
      | cons c rest => simp [oneOf, other rfl c rfl]

theorem one_of_ok {chars cs rest : List Char} {taken : Option Char}
    (ran : oneOf chars cs = .ok (taken, rest)) :
    cs = taken.toList ++ rest ∧ ∀ c ∈ taken, c ∈ chars := by
  cases cs with
  | nil =>
      cases ran
      exact ⟨rfl, by simp⟩
  | cons c cs =>
      by_cases known : c ∈ chars
      · simp only [oneOf, known, if_true, Except.ok.injEq, Prod.mk.injEq] at ran
        obtain ⟨rfl, rfl⟩ := ran
        exact ⟨rfl, by simpa using known⟩
      · simp only [oneOf, known, if_false, Except.ok.injEq, Prod.mk.injEq] at ran
        obtain ⟨rfl, rfl⟩ := ran
        exact ⟨rfl, by simp⟩

def fraction (atEnd : ReadError) : Reader (List Char) := do
  let point ← oneOf ['.']
  if point.isSome then Reader.digits atEnd else pure []

def exponent (atEnd : ReadError) : Reader (Option (Bool × List Char)) := do
  let mark ← oneOf ['e', 'E']
  if mark.isSome then
    let sign ← oneOf ['+', '-']
    let ds ← Reader.digits atEnd
    return some (sign = some '-', ds)
  else return none

theorem numeral_eq (atEnd : ReadError) :
    numeral atEnd = (do
      let minus ← oneOf ['-']
      let whole ← Reader.digits atEnd
      if whole.head? = some '0' ∧ 1 < whole.length then fail (.malformed .invalidNumber)
      else
        let fraction ← fraction atEnd
        let exponent ← exponent atEnd
        return ⟨minus.isSome, whole, fraction, exponent⟩) := by
  unfold numeral
  congr 1
  funext minus
  congr 1
  funext whole
  by_cases zero : whole.head? = some '0' ∧ 1 < whole.length
  · simp only [zero]
    rfl
  · simp only [zero, if_false, fraction, exponent, bind_assoc]
    congr 1
    funext point
    have marked (fraction : List Char) :
        (oneOf ['e', 'E'] >>= fun mark =>
          if mark.isSome = true then do
            let sign ← oneOf ['+', '-']
            let exponent ← Reader.digits atEnd
            pure (⟨minus.isSome, whole, fraction, some (sign = some '-', exponent)⟩ : Numeral)
          else pure ⟨minus.isSome, whole, fraction, none⟩) =
        (oneOf ['e', 'E'] >>= fun mark =>
          (if mark.isSome = true then do
            let sign ← oneOf ['+', '-']
            let ds ← Reader.digits atEnd
            pure (some (decide (sign = some '-'), ds))
          else pure none) >>= fun exponent =>
            pure (⟨minus.isSome, whole, fraction, exponent⟩ : Numeral)) := by
      congr 1
      funext mark
      split <;> simp only [bind_assoc, pure_bind]
    split <;> simp only [marked]

theorem stops_no_digit {rest : List Char} (stops : Stops rest) : NoDigit rest := by
  intro c first
  have ends := stops c first
  simp only [continuesNumeral, Bool.or_eq_false_iff] at ends
  exact ends.1.1.1

theorem no_digit_cons {c : Char} (other : c.isDigit = false) (rest : List Char) :
    NoDigit (c :: rest) := by
  simpa [NoDigit] using other

theorem stops_other {rest chars : List Char} (stops : Stops rest)
    (marks : ∀ c ∈ chars, continuesNumeral c = true) : ∀ c ∈ rest.head?, c ∉ chars := by
  intro c first known
  have ends := stops c first
  rw [marks c known] at ends
  cases ends

theorem digits_other {ds chars : List Char} (digits : Digits ds)
    (marks : ∀ c ∈ chars, c.isDigit = false) (rest : List Char) :
    ∀ c ∈ (ds ++ rest).head?, c ∉ chars := by
  obtain ⟨some, all⟩ := digits
  cases ds with
  | nil => exact (some rfl).elim
  | cons d ds =>
      intro c first known
      obtain rfl : d = c := by simpa using first
      have digit := all d List.mem_cons_self
      rw [marks d known] at digit
      cases digit

theorem fraction_run {ds w rest : List Char} (written : Numeral.Fraction ds w)
    (ends : NoDigit rest) (other : ∀ c ∈ rest.head?, c ∉ ['.']) (atEnd : ReadError) :
    fraction atEnd (w ++ rest) = .ok (ds, rest) := by
  cases written with
  | absent =>
      have none : oneOf ['.'] ([] ++ rest) = .ok (none, rest) :=
        one_of_run none (by simp) fun _ => other
      rw [fraction, bind_run_ok none]
      rfl
  | present digits =>
      have point : oneOf ['.'] ('.' :: ds ++ rest) = .ok (some '.', ds ++ rest) :=
        one_of_run (some '.') (by simp) (by simp)
      rw [fraction, bind_run_ok point]
      exact digits_run digits ends atEnd

theorem fraction_ok {atEnd : ReadError} {cs ds rest : List Char}
    (ran : fraction atEnd cs = .ok (ds, rest)) :
    ∃ w, cs = w ++ rest ∧ Numeral.Fraction ds w := by
  obtain ⟨point, mid, taken, went⟩ := bind_eq_ok.mp ran
  obtain ⟨rfl, known⟩ := one_of_ok taken
  cases point with
  | none =>
      obtain ⟨rfl, rfl⟩ := pure_eq_ok.mp went
      exact ⟨[], rfl, .absent⟩
  | some c =>
      obtain ⟨rfl, digits⟩ := digits_ok went
      obtain rfl : c = '.' := by simpa using known c rfl
      exact ⟨'.' :: ds, rfl, .present digits⟩

theorem exponent_run {parts : Option (Bool × List Char)} {w rest : List Char}
    (written : Numeral.Exponent parts w) (stops : Stops rest) (atEnd : ReadError) :
    exponent atEnd (w ++ rest) = .ok (parts, rest) := by
  cases written with
  | absent =>
      have none : oneOf ['e', 'E'] ([] ++ rest) = .ok (none, rest) :=
        one_of_run none (by simp) fun _ => stops_other stops (by simp [continuesNumeral])
      rw [exponent, bind_run_ok none]
      rfl
  | @present mark sign ds known signed digits =>
      have marked : oneOf ['e', 'E'] (mark :: (sign.toList ++ ds) ++ rest) =
          .ok (some mark, sign.toList ++ (ds ++ rest)) := by
        rw [List.cons_append, List.append_assoc]
        exact one_of_run (some mark) (by simpa using known) (by simp)
      have taken : oneOf ['+', '-'] (sign.toList ++ (ds ++ rest)) = .ok (sign, ds ++ rest) :=
        one_of_run sign signed fun _ => digits_other digits (by simp) rest
      rw [exponent, bind_run_ok marked, Option.isSome_some, if_pos rfl, bind_run_ok taken,
        bind_run_ok (digits_run digits (stops_no_digit stops) atEnd)]
      rfl

theorem exponent_ok {atEnd : ReadError} {parts : Option (Bool × List Char)} {cs rest : List Char}
    (ran : exponent atEnd cs = .ok (parts, rest)) :
    ∃ w, cs = w ++ rest ∧ Numeral.Exponent parts w := by
  obtain ⟨mark, mid, taken, went⟩ := bind_eq_ok.mp ran
  obtain ⟨rfl, known⟩ := one_of_ok taken
  cases mark with
  | none =>
      obtain ⟨rfl, rfl⟩ := pure_eq_ok.mp went
      exact ⟨[], rfl, .absent⟩
  | some mark =>
      obtain ⟨sign, _, signed, behind⟩ := bind_eq_ok.mp went
      obtain ⟨rfl, plusMinus⟩ := one_of_ok signed
      obtain ⟨ds, _, read, ended⟩ := bind_eq_ok.mp behind
      obtain ⟨rfl, digits⟩ := digits_ok read
      obtain ⟨rfl, rfl⟩ := pure_eq_ok.mp ended
      refine ⟨mark :: (sign.toList ++ ds), ?_, .present (known mark rfl) plusMinus digits⟩
      simp

theorem exponent_front {w rest : List Char} {parts : Option (Bool × List Char)}
    (exponent : Numeral.Exponent parts w) (stops : Stops rest) :
    NoDigit (w ++ rest) ∧ ∀ c ∈ (w ++ rest).head?, c ∉ ['.'] := by
  cases exponent with
  | absent => exact ⟨stops_no_digit stops, stops_other stops (by simp [continuesNumeral])⟩
  | @present mark sign ds known _ _ =>
      obtain rfl | rfl : mark = 'e' ∨ mark = 'E' := by simpa using known
      · exact ⟨no_digit_cons rfl _, by simp⟩
      · exact ⟨no_digit_cons rfl _, by simp⟩

theorem numeral_run {parts : Numeral} {w rest : List Char} (written : parts.Written w)
    (stops : Stops rest) (atEnd : ReadError) :
    numeral atEnd (w ++ rest) = .ok (parts, rest) := by
  cases written with
  | @mk minus whole ds parts w w' known digits zero fraction exponent =>
      have front := exponent_front exponent stops
      have signed : oneOf ['-'] (minus.toList ++ (whole ++ (w ++ w')) ++ rest) =
          .ok (minus, whole ++ (w ++ (w' ++ rest))) := by
        simp only [List.append_assoc]
        exact one_of_run minus known fun _ => digits_other digits (by simp) _
      have ends : NoDigit (w ++ (w' ++ rest)) := by
        cases fraction with
        | present _ => exact no_digit_cons rfl _
        | absent => exact front.1
      have proper : ¬ (whole.head? = some '0' ∧ 1 < whole.length) :=
        fun ⟨first, long⟩ => Nat.not_le.mpr long (zero first)
      rw [numeral_eq, bind_run_ok signed, bind_run_ok (digits_run digits ends atEnd),
        if_neg proper, bind_run_ok (fraction_run fraction front.1 front.2 atEnd),
        bind_run_ok (exponent_run exponent stops atEnd)]
      rfl

theorem numeral_ok {atEnd : ReadError} {parts : Numeral} {cs rest : List Char}
    (ran : numeral atEnd cs = .ok (parts, rest)) :
    ∃ w, cs = w ++ rest ∧ parts.Written w := by
  rw [numeral_eq] at ran
  obtain ⟨minus, _, signed, unsigned⟩ := bind_eq_ok.mp ran
  obtain ⟨rfl, known⟩ := one_of_ok signed
  obtain ⟨whole, _, read, behind⟩ := bind_eq_ok.mp unsigned
  obtain ⟨rfl, digits⟩ := digits_ok read
  by_cases zero : whole.head? = some '0' ∧ 1 < whole.length
  · rw [if_pos zero] at behind
    exact absurd behind fail_ne_ok
  · rw [if_neg zero] at behind
    obtain ⟨ds, _, pointed, last⟩ := bind_eq_ok.mp behind
    obtain ⟨w, rfl, fraction⟩ := fraction_ok pointed
    obtain ⟨exp, _, marked, ended⟩ := bind_eq_ok.mp last
    obtain ⟨w', rfl, exponent⟩ := exponent_ok marked
    obtain ⟨rfl, rfl⟩ := pure_eq_ok.mp ended
    have proper : whole.head? = some '0' → whole.length ≤ 1 :=
      fun first => Nat.not_lt.mp fun long => zero ⟨first, long⟩
    exact ⟨minus.toList ++ (whole ++ (w ++ w')), by simp,
      .mk known digits proper fraction exponent⟩

theorem exact_number_run {parts : Numeral} {w rest : List Char} (written : parts.Written w)
    (stops : Stops rest) :
    exactNumber (w ++ rest) = (orMalformed .numberOutOfRange parts.number?).map (·, rest) := by
  rw [exactNumber, bind_run_ok (numeral_run written stops _)]
  cases parts.number? <;> rfl

theorem exact_number_ok {cs rest : List Char} {value : Number}
    (ran : exactNumber cs = .ok (value, rest)) :
    ∃ parts w, cs = w ++ rest ∧ Numeral.Written parts w ∧ parts.number? = some value := by
  obtain ⟨parts, _, read, judged⟩ := bind_eq_ok.mp ran
  obtain ⟨w, rfl, written⟩ := numeral_ok read
  cases known : parts.number? with
  | none =>
      rw [known] at judged
      exact absurd judged fail_ne_ok
  | some meant =>
      rw [known] at judged
      obtain ⟨rfl, rfl⟩ := pure_eq_ok.mp judged
      exact ⟨parts, w, rfl, written, known⟩

theorem loose_number_run {parts : Numeral} {w rest : List Char} (written : parts.Written w)
    (stops : Stops rest) : looseNumber (w ++ rest) = .ok (.integer 0, rest) := by
  rw [looseNumber, bind_run_ok (numeral_run written stops _)]
  rfl

theorem loose_number_ok {cs rest : List Char} {value : Number}
    (ran : looseNumber cs = .ok (value, rest)) :
    ∃ parts w, cs = w ++ rest ∧ Numeral.Written parts w ∧ value = .integer 0 := by
  obtain ⟨parts, _, read, judged⟩ := bind_eq_ok.mp ran
  obtain ⟨w, rfl, written⟩ := numeral_ok read
  obtain ⟨rfl, rfl⟩ := pure_eq_ok.mp judged
  exact ⟨parts, w, rfl, written, rfl⟩

end Reader

end MqttFailure.Json
