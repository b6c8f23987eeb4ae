import MqttFailure.Proofs.Json.Running
set_option autoImplicit false

namespace MqttFailure.Json.Reader

open Text (utf8Length)

theorem code_unit_run {a b c d : Char} {value : Nat} (digits : hexQuad? a b c d = some value)
    (rest : List Char) : codeUnit (a :: b :: c :: d :: rest) = .ok (value, rest) := by
  have long : ¬ utf8Length [a, b, c, d] < 4 := by
    have sizes := And.intro (And.intro a.utf8Size_pos b.utf8Size_pos)
      (And.intro c.utf8Size_pos d.utf8Size_pos)
    simp only [utf8Length, List.foldr_cons, List.foldr_nil]
    omega
  have same : (a :: b :: c :: d :: rest).take 4 = [a, b, c, d] := rfl
  rw [codeUnit, same, if_neg long]
  simp only [digits]

theorem code_unit_ok {cs rest : List Char} {value : Nat}
    (ran : codeUnit cs = .ok (value, rest)) :
    ∃ a b c d, cs = a :: b :: c :: d :: rest ∧ hexQuad? a b c d = some value := by
  unfold codeUnit at ran
  split at ran
  · cases ran
  · split at ran
    · split at ran
      · rename_i digits
        cases ran
        exact ⟨_, _, _, _, rfl, digits⟩
      · cases ran
    · cases ran

theorem short_escape_letter {letter c : Char} (known : shortEscape? letter = some c) :
    letter ≠ 'u' := by
  rintro rfl
  cases known

theorem exact_escape_short {letter c : Char} (known : shortEscape? letter = some c)
    (rest : List Char) : exactEscape (letter :: rest) = .ok (c, rest) := by
  rw [exactEscape, bind_run_ok (next_eq_ok.mpr rfl), if_neg (short_escape_letter known)]
  simp only [known]
  rfl

theorem exact_escape_unit {a b c d : Char} {value : Nat} (digits : hexQuad? a b c d = some value)
    (rest : List Char) :
    exactEscape ('u' :: a :: b :: c :: d :: rest) =
      if isTrailing value then .error (.malformed .loneSurrogate)
      else if isLeading value then
        (literal .string .missingSurrogate ['\\', 'u'] >>= fun _ => codeUnit >>= fun second =>
          if isTrailing second then pure (pairedChar value second)
          else fail (.malformed .loneSurrogate)) rest
      else .ok (Char.ofNat value, rest) := by
  rw [exactEscape, bind_run_ok (next_eq_ok.mpr rfl), if_pos rfl,
    bind_run_ok (code_unit_run digits rest), ite_run, ite_run]
  rfl

theorem exact_escape_pair {a b c d e f g h : Char} {first second : Nat}
    (digits : hexQuad? a b c d = some first) (digits' : hexQuad? e f g h = some second)
    (whole : ¬ isTrailing first = true) (leading : isLeading first = true) (rest : List Char) :
    exactEscape ('u' :: a :: b :: c :: d :: '\\' :: 'u' :: e :: f :: g :: h :: rest) =
      if isTrailing second then .ok (pairedChar first second, rest)
      else .error (.malformed .loneSurrogate) := by
  have opened : literal .string .missingSurrogate ['\\', 'u']
      ('\\' :: 'u' :: e :: f :: g :: h :: rest) = .ok ((), e :: f :: g :: h :: rest) :=
    literal_append .string .missingSurrogate ['\\', 'u'] _
  rw [exact_escape_unit digits, if_neg whole, if_pos leading, bind_run_ok opened,
    bind_run_ok (code_unit_run digits' rest), ite_run]
  rfl

theorem exact_escape_alone {a b c d : Char} {value : Nat} (digits : hexQuad? a b c d = some value)
    (whole : ¬ isTrailing value = true) (leading : isLeading value = true) {rest : List Char}
    (other : literal .string .missingSurrogate ['\\', 'u'] rest =
      .error (.malformed .missingSurrogate)) :
    exactEscape ('u' :: a :: b :: c :: d :: rest) = .error (.malformed .missingSurrogate) := by
  rw [exact_escape_unit digits, if_neg whole, if_pos leading, bind_run_error other]

theorem loose_escape_short {letter c : Char} (known : shortEscape? letter = some c)
    (rest : List Char) : looseEscape (letter :: rest) = .ok (c, rest) := by
  rw [looseEscape, bind_run_ok (next_eq_ok.mpr rfl), if_neg (short_escape_letter known)]
  simp only [known]
  rfl

theorem loose_escape_unit {a b c d : Char} {value : Nat} (digits : hexQuad? a b c d = some value)
    (rest : List Char) :
    looseEscape ('u' :: a :: b :: c :: d :: rest) = .ok (Char.ofNat value, rest) := by
  rw [looseEscape, bind_run_ok (next_eq_ok.mpr rfl), if_pos rfl,
    bind_run_ok (code_unit_run digits rest)]
  rfl

def stringRound (escape : Reader Char) (read : List Char) :
    Reader (Step (List Char) String) := do
  match ← stringChar escape with
  | some c => return .more (c :: read)
  | none => return .done (String.ofList read.reverse)

theorem string_body_run (escape : Reader Char) (cs : List Char) :
    stringBody escape cs = loop (stringRound escape) [] cs := rfl

theorem string_round_quote (escape : Reader Char) (read rest : List Char) :
    stringRound escape read ('"' :: rest) = .ok (.done (String.ofList read.reverse), rest) := rfl

theorem string_round_plain (escape : Reader Char) (read rest : List Char) {c : Char}
    (quote : c ≠ '"') (backslash : c ≠ '\\') (printable : 0x20 ≤ c.toNat) :
    stringRound escape read (c :: rest) = .ok (.more (c :: read), rest) := by
  have taken : stringChar escape (c :: rest) = .ok (some c, rest) := by
    rw [stringChar, bind_run_ok (next_eq_ok.mpr rfl), if_neg quote, if_neg backslash,
      if_neg (Nat.not_lt.mpr printable)]
    rfl
  rw [stringRound, bind_run_ok taken]
  rfl

theorem string_round_escape (escape : Reader Char) (read rest : List Char) :
    stringRound escape read ('\\' :: rest) =
      (escape rest).map fun (c, rest) => (.more (c :: read), rest) := by
  have taken : stringChar escape ('\\' :: rest) =
      (escape rest).map fun (c, rest) => (some c, rest) := by
    rw [stringChar, bind_run_ok (next_eq_ok.mpr rfl), if_neg (by decide), if_pos rfl, bind_run]
    cases escape rest <;> rfl
  rw [stringRound, bind_run, taken]
  cases escape rest <;> rfl

theorem string_round_escape_ok {escape : Reader Char} {c : Char} {cs rest : List Char}
    (meant : escape cs = .ok (c, rest)) (read : List Char) :
    stringRound escape read ('\\' :: cs) = .ok (.more (c :: read), rest) := by
  rw [string_round_escape, meant]
  rfl

theorem string_round_escape_error {escape : Reader Char} {cs : List Char} {e : ReadError}
    (refused : escape cs = .error e) (read : List Char) :
    stringRound escape read ('\\' :: cs) = .error e := by
  rw [string_round_escape, refused]
  rfl

def finished (read rest : List Char) (fault : SyntaxFault) (following : Option (List Char)) :
    Except ReadError (String × List Char) :=
  (orMalformed fault following).map fun cs => (String.ofList (read.reverse ++ cs), rest)

theorem finished_cons (read rest : List Char) (c : Char) (fault : SyntaxFault)
    (following : Option (List Char)) :
    finished (c :: read) rest fault following =
      finished read rest fault (following.map (c :: ·)) := by
  cases following with
  | none => rfl
  | some cs => simp [finished, orMalformed, Except.map]

theorem string_loop_plain {escape : Reader Char} {w : List Char} {c : Char}
    (written : (Piece.char c).Written w)
    (short : ∀ letter, shortEscape? letter = some c → ∀ cs, escape (letter :: cs) = .ok (c, cs))
    (read cs : List Char) :
    loop (stringRound escape) read (w ++ cs) = loop (stringRound escape) (c :: read) cs := by
  cases written with
  | plain quote backslash printable =>
      exact loop_more (string_round_plain escape read cs quote backslash printable) (by simp)
  | @short letter _ known =>
      apply loop_more (string_round_escape_ok (short letter known cs) read)
      simp only [List.length_cons]
      omega

theorem surrogate_fault_trailing {first : Nat} (trailing : isTrailing first = true)
    (tail : List Piece) : surrogateFault (.unit first :: tail) = .loneSurrogate := by
  rw [surrogateFault.eq_def]
  exact if_pos trailing

theorem surrogate_fault_plain {first : Nat} (whole : ¬ isTrailing first = true)
    (plain : ¬ isLeading first = true) (tail : List Piece) :
    surrogateFault (.unit first :: tail) = surrogateFault tail := by
  rw [surrogateFault.eq_def]
  exact (if_neg whole).trans (if_neg plain)

theorem surrogate_fault_leading {first : Nat} (whole : ¬ isTrailing first = true)
    (leading : isLeading first = true) (tail : List Piece) :
    surrogateFault (.unit first :: tail) =
      match tail with
      | .unit second :: rest => if isTrailing second then surrogateFault rest else .loneSurrogate
      | _ => .missingSurrogate := by
  rw [surrogateFault.eq_def]
  exact (if_neg whole).trans (if_pos leading)

theorem string_loop_alone {first : Nat} {pieces : List Piece} {w body : List Char}
    (written : (Piece.unit first).Written w) (spelled : Spelled pieces body)
    (whole : ¬ isTrailing first = true) (leading : isLeading first = true)
    (alone : ∀ second tail, pieces = .unit second :: tail → ¬ isTrailing second = true)
    (read rest : List Char) :
    loop (stringRound exactEscape) read (w ++ (body ++ '"' :: rest)) =
      .error (.malformed (surrogateFault (.unit first :: pieces))) := by
  rw [surrogate_fault_leading whole leading]
  cases written with
  | quad digits =>
      apply loop_error
      apply string_round_escape_error
      cases spelled with
      | nil => exact exact_escape_alone digits whole leading (literal_other _ _ [] (by decide))
      | @cons piece tail w ws next spelled =>
          cases next with
          | plain quote backslash printable =>
              exact exact_escape_alone digits whole leading (literal_other _ _ [] backslash)
          | short known =>
              apply exact_escape_alone digits whole leading
              exact literal_other _ _ ['\\'] (short_escape_letter known)
          | quad digits' =>
              have lone := alone _ _ rfl
              refine (exact_escape_pair digits digits' whole leading _).trans ?_
              simp only [if_neg lone]

theorem string_loop_pair {first second : Nat} {w w' : List Char}
    (written : (Piece.unit first).Written w) (written' : (Piece.unit second).Written w')
    (whole : ¬ isTrailing first = true) (leading : isLeading first = true)
    (trailing : isTrailing second = true) (read cs : List Char) :
    loop (stringRound exactEscape) read (w ++ (w' ++ cs)) =
      loop (stringRound exactEscape) (pairedChar first second :: read) cs := by
  cases written with
  | quad digits =>
      cases written' with
      | quad digits' =>
          have meant := (exact_escape_pair digits digits' whole leading cs).trans (if_pos trailing)
          apply loop_more (string_round_escape_ok meant read)
          simp only [List.length_cons]
          omega

theorem string_loop_unit {escape : Reader Char} {w : List Char} {value : Nat} {c : Char}
    (written : (Piece.unit value).Written w)
    (meant : ∀ a b c' d, hexQuad? a b c' d = some value → ∀ cs,
      escape ('u' :: a :: b :: c' :: d :: cs) = .ok (c, cs)) (read cs : List Char) :
    loop (stringRound escape) read (w ++ cs) = loop (stringRound escape) (c :: read) cs := by
  cases written with
  | quad digits =>
      apply loop_more (string_round_escape_ok (meant _ _ _ _ digits cs) read)
      simp only [List.length_cons]
      omega

theorem string_loop_exact {pieces : List Piece} {body : List Char} (spelled : Spelled pieces body)
    (read rest : List Char) :
    loop (stringRound exactEscape) read (body ++ '"' :: rest) =
      finished read rest (surrogateFault pieces) (chars? pieces) := by
  -- The cases are the end, a character, a lone trailing unit, a pair, a leading
  -- unit before another unit, before anything else, and a unit that is neither.
  fun_induction chars? pieces generalizing body read with
  | case1 =>
      cases spelled
      simpa [finished, orMalformed, Except.map] using
        loop_done (string_round_quote exactEscape read rest)
  | case2 c tail ih =>
      cases spelled with
      | cons written spelled =>
          rw [List.append_assoc, string_loop_plain written fun _ known => exact_escape_short known,
            ih spelled, finished_cons]
          rfl
  | case3 first tail trailing =>
      cases spelled with
      | cons written spelled =>
          cases written with
          | quad digits =>
              apply loop_error
              apply string_round_escape_error
              rw [surrogate_fault_trailing trailing]
              exact (exact_escape_unit digits _).trans (if_pos trailing)
  | case4 first whole leading second tail trailing ih =>
      cases spelled with
      | cons written spelled =>
          cases spelled with
          | cons written' spelled =>
              rw [List.append_assoc, List.append_assoc,
                string_loop_pair written written' whole leading trailing, ih spelled, finished_cons,
                surrogate_fault_leading whole leading]
              simp only [if_pos trailing]
  | case5 first whole leading second tail lone =>
      cases spelled with
      | cons written spelled =>
          rw [List.append_assoc]
          apply string_loop_alone written spelled whole leading
          rintro second' tail' same
          cases same
          exact lone
  | case6 first tail whole leading other =>
      cases spelled with
      | cons written spelled =>
          rw [List.append_assoc]
          apply string_loop_alone written spelled whole leading
          intro second tail' same
          exact (other second tail' same).elim
  | case7 first tail whole plain ih =>
      cases spelled with
      | cons written spelled =>
          rw [List.append_assoc, string_loop_unit written, ih spelled, finished_cons,
            surrogate_fault_plain whole plain]
          intro a b c d digits cs
          rw [exact_escape_unit digits, if_neg whole, if_neg plain]

theorem string_loop_loose {pieces : List Piece} {body : List Char} (spelled : Spelled pieces body)
    (fault : SyntaxFault) (read rest : List Char) :
    loop (stringRound looseEscape) read (body ++ '"' :: rest) =
      finished read rest fault (some (pieces.map Piece.anyChar)) := by
  induction spelled generalizing read with
  | nil =>
      simpa [finished, orMalformed, Except.map] using
        loop_done (string_round_quote looseEscape read rest)
  | @cons piece tail w ws written spelled ih =>
      have step : loop (stringRound looseEscape) read (w ++ (ws ++ '"' :: rest)) =
          loop (stringRound looseEscape) (piece.anyChar :: read) (ws ++ '"' :: rest) := by
        cases piece with
        | char c => exact string_loop_plain written (fun _ known => loose_escape_short known) ..
        | unit value =>
            exact string_loop_unit written (fun _ _ _ _ digits => loose_escape_unit digits) ..
      rw [List.append_assoc, step, ih, finished_cons]
      rfl

theorem string_round_ok {escape : Reader Char} {read cs mid : List Char}
    {step : Step (List Char) String} (ran : stringRound escape read cs = .ok (step, mid)) :
    (step = .done (String.ofList read.reverse) ∧ cs = '"' :: mid) ∨
      ∃ c, step = .more (c :: read) ∧
        ((cs = c :: mid ∧ (Piece.char c).Written [c]) ∨
          ∃ tail, cs = '\\' :: tail ∧ escape tail = .ok (c, mid)) := by
  cases cs with
  | nil => cases ran
  | cons d tail =>
      by_cases quote : d = '"'
      · subst quote
        rw [string_round_quote] at ran
        cases ran
        exact .inl ⟨rfl, rfl⟩
      · by_cases backslash : d = '\\'
        · subst backslash
          rw [string_round_escape] at ran
          cases meant : escape tail with
          | error e =>
              rw [meant] at ran
              cases ran
          | ok result =>
              rw [meant] at ran
              cases ran
              exact .inr ⟨result.1, rfl, .inr ⟨tail, rfl, meant⟩⟩
        · by_cases printable : 0x20 ≤ d.toNat
          · rw [string_round_plain escape read tail quote backslash printable] at ran
            cases ran
            exact .inr ⟨d, rfl, .inl ⟨rfl, .plain quote backslash printable⟩⟩
          · obtain ⟨taken, rest, first, second⟩ := bind_eq_ok.mp ran
            rw [stringChar, bind_run_ok (next_eq_ok.mpr rfl), if_neg quote, if_neg backslash,
              if_pos (Nat.not_le.mp printable)] at first
            exact absurd first fail_ne_ok

theorem spelled_append {pieces pieces' : List Piece} {w w' : List Char}
    (spelled : Spelled pieces w) (spelled' : Spelled pieces' w') :
    Spelled (pieces ++ pieces') (w ++ w') := by
  induction spelled with
  | nil => exact spelled'
  | cons written _ ih =>
      rw [List.append_assoc]
      exact .cons written ih

theorem spelled_one {piece : Piece} {w : List Char} (written : piece.Written w) :
    Spelled [piece] w := by
  simpa using Spelled.cons written .nil

theorem plain_quoted (cs : List Char)
    (plain : ∀ c ∈ cs, c ≠ '"' ∧ c ≠ '\\' ∧ 0x20 ≤ c.toNat) :
    Quoted (cs.map .char) ('"' :: (cs ++ ['"'])) := by
  refine .mk ?_
  induction cs with
  | nil => exact .nil
  | cons c rest ih =>
      obtain ⟨first, others⟩ := List.forall_mem_cons.mp plain
      exact .cons (.plain first.1 first.2.1 first.2.2) (ih others)

theorem chars_unit {value : Nat} (whole : ¬ isTrailing value = true)
    (plain : ¬ isLeading value = true) (tail : List Piece) :
    chars? (.unit value :: tail) = (chars? tail).map (Char.ofNat value :: ·) := by
  rw [chars?.eq_def]
  exact (if_neg whole).trans (if_neg plain)

theorem chars_pair {first second : Nat} (whole : ¬ isTrailing first = true)
    (leading : isLeading first = true) (trailing : isTrailing second = true) (tail : List Piece) :
    chars? (.unit first :: .unit second :: tail) =
      (chars? tail).map (pairedChar first second :: ·) := by
  rw [chars?.eq_def]
  exact (if_neg whole).trans ((if_pos leading).trans (if_pos trailing))

def Escapes (escape : Reader Char) (chars : List Piece → Option (List Char)) : Prop :=
  ∀ cs c rest, escape cs = .ok (c, rest) →
    ∃ pieces w, '\\' :: cs = w ++ rest ∧ Spelled pieces w ∧
      ∀ tail, chars (pieces ++ tail) = (chars tail).map (c :: ·)

theorem exact_escapes : Escapes exactEscape chars? := by
  intro cs c rest meant
  obtain ⟨letter, mid, taken, ran⟩ := bind_eq_ok.mp meant
  obtain rfl := next_eq_ok.mp taken
  by_cases unit : letter = 'u'
  · subst unit
    rw [if_pos rfl] at ran
    obtain ⟨first, mid', read, judged⟩ := bind_eq_ok.mp ran
    obtain ⟨a, b, c', d, rfl, digits⟩ := code_unit_ok read
    have written : (Piece.unit first).Written ['\\', 'u', a, b, c', d] := .quad digits
    rw [ite_run] at judged
    split at judged
    · exact absurd judged fail_ne_ok
    · rename_i whole
      rw [ite_run] at judged
      split at judged
      · rename_i leading
        obtain ⟨_, mid'', opened, followed⟩ := bind_eq_ok.mp judged
        obtain rfl := literal_eq_ok.mp opened
        obtain ⟨second, _, read', paired⟩ := bind_eq_ok.mp followed
        obtain ⟨e, f, g, h, rfl, digits'⟩ := code_unit_ok read'
        have written' : (Piece.unit second).Written ['\\', 'u', e, f, g, h] := .quad digits'
        rw [ite_run] at paired
        split at paired
        · rename_i trailing
          obtain ⟨rfl, rfl⟩ := pure_eq_ok.mp paired
          exact ⟨_, _, rfl, spelled_append (spelled_one written) (spelled_one written'),
            chars_pair whole leading trailing⟩
        · exact absurd paired fail_ne_ok
      · rename_i plain
        obtain ⟨rfl, rfl⟩ := pure_eq_ok.mp judged
        exact ⟨_, _, rfl, spelled_one written, chars_unit whole plain⟩
  · rw [if_neg unit] at ran
    cases known : shortEscape? letter with
    | none =>
        rw [known] at ran
        exact absurd ran fail_ne_ok
    | some meant =>
        rw [known] at ran
        obtain ⟨rfl, rfl⟩ := pure_eq_ok.mp ran
        exact ⟨_, _, rfl, spelled_one (.short known), fun tail => rfl⟩

theorem loose_escapes : Escapes looseEscape Sense.loose.chars := by
  intro cs c rest meant
  obtain ⟨letter, mid, taken, ran⟩ := bind_eq_ok.mp meant
  obtain rfl := next_eq_ok.mp taken
  by_cases unit : letter = 'u'
  · subst unit
    rw [if_pos rfl] at ran
    obtain ⟨value, mid', read, went⟩ := bind_eq_ok.mp ran
    obtain ⟨a, b, c', d, rfl, digits⟩ := code_unit_ok read
    obtain ⟨rfl, rfl⟩ := pure_eq_ok.mp went
    exact ⟨_, _, rfl, spelled_one (.quad digits), fun tail => rfl⟩
  · rw [if_neg unit] at ran
    cases known : shortEscape? letter with
    | none =>
        rw [known] at ran
        exact absurd ran fail_ne_ok
    | some meant =>
        rw [known] at ran
        obtain ⟨rfl, rfl⟩ := pure_eq_ok.mp ran
        exact ⟨_, _, rfl, spelled_one (.short known), fun tail => rfl⟩

theorem string_loop_ok {escape : Reader Char} {chars : List Piece → Option (List Char)}
    (empty : chars [] = some [])
    (plain : ∀ c tail, chars (.char c :: tail) = (chars tail).map (c :: ·))
    (escapes : Escapes escape chars) {read cs rest : List Char} {s : String}
    (ran : loop (stringRound escape) read cs = .ok (s, rest)) :
    ∃ pieces body following, cs = body ++ '"' :: rest ∧ Spelled pieces body ∧
      chars pieces = some following ∧ s = String.ofList (read.reverse ++ following) := by
  -- A round may take two code units at once, so the induction is on what is left.
  rcases loop_eq_ok ran with ended | ⟨read', mid, went, shorter, ran⟩
  · rcases string_round_ok ended with ⟨same, rfl⟩ | ⟨c, same, _⟩
    · cases same
      exact ⟨[], [], [], rfl, .nil, empty, by simp⟩
    · cases same
  · rcases string_round_ok went with ⟨same, _⟩ | ⟨c, same, taken⟩
    · cases same
    · cases same
      obtain ⟨pieces, body, following, rfl, spelled, known, rfl⟩ :=
        string_loop_ok empty plain escapes ran
      have joined : String.ofList ((c :: read).reverse ++ following) =
          String.ofList (read.reverse ++ c :: following) := by
        simp
      rcases taken with ⟨rfl, written⟩ | ⟨tail, rfl, meant⟩
      · exact ⟨_, _, _, rfl, .cons written spelled, by rw [plain, known]; rfl, joined⟩
      · obtain ⟨first, w, same, spelled', stands⟩ := escapes _ _ _ meant
        refine ⟨first ++ pieces, w ++ body, c :: following, ?_, spelled_append spelled' spelled,
          ?_, joined⟩
        · rw [same, List.append_assoc]
        · rw [stands, known]
          rfl
termination_by cs.length

end MqttFailure.Json.Reader
