import BookmarkSearch.Proofs.Toml.Escapes

/-!
A string reads back from whichever form it has been written in, provided that no further quote
stands behind it: of a run of quotes the last three close a string between tripled ones.
-/

namespace BookmarkSearch.Toml

/-! Tripled quotes. -/

theorem countQuotes_cons_self (quote : Char) (cs : List Char) :
    countQuotes quote (quote :: cs) = countQuotes quote cs + 1 := by
  simp [countQuotes]

theorem countQuotes_cons_ne {quote c : Char} (other : c ≠ quote) (cs : List Char) :
    countQuotes quote (c :: cs) = 0 := by
  simp [countQuotes, other]

theorem countQuotes_eq_zero {quote : Char} {cs : List Char} (apart : cs.head? ≠ some quote) :
    countQuotes quote cs = 0 := by
  cases cs with
  | nil => rfl
  | cons c rest =>
    exact countQuotes_cons_ne (fun same => apart (congrArg some same)) rest

/-- A run of quotes ends where another character stands. -/
theorem countQuotes_append {quote : Char} {cs : List Char} (other : ∃ c ∈ cs, c ≠ quote)
    (tail : List Char) : countQuotes quote (cs ++ tail) = countQuotes quote cs := by
  induction cs with
  | nil => simp at other
  | cons c rest ih =>
    by_cases same : c = quote
    · subst same
      have further : ∃ d ∈ rest, d ≠ c := by
        obtain ⟨d, member, differs⟩ := other
        exact ⟨d, (List.mem_cons.mp member).resolve_left differs, differs⟩
      rw [List.cons_append, countQuotes_cons_self, countQuotes_cons_self, ih further]
    · rw [List.cons_append, countQuotes_cons_ne same, countQuotes_cons_ne same]

theorem countQuotes_replicate (quote : Char) (n : Nat) {tail : List Char}
    (apart : tail.head? ≠ some quote) :
    countQuotes quote (List.replicate n quote ++ tail) = n := by
  induction n with
  | zero => exact countQuotes_eq_zero apart
  | succ n ih => rw [List.replicate_succ, List.cons_append, countQuotes_cons_self, ih]

/-- The quotes in front of the last three belong to the string. -/
theorem closeTripled?_replicate (quote : Char) (n : Nat) {rest : List Char}
    (apart : rest.head? ≠ some quote) :
    closeTripled? quote (List.replicate n quote ++ quote :: quote :: quote :: rest) =
      some (List.replicate n quote, rest) := by
  have joined : List.replicate n quote ++ quote :: quote :: quote :: rest =
      List.replicate (n + 3) quote ++ rest := by
    rw [← List.replicate_append_replicate, List.append_assoc]
    rfl
  have after : (List.replicate (n + 3) quote ++ rest).drop (n + 3) = rest := by simp
  rw [joined, closeTripled?, countQuotes_replicate quote (n + 3) apart, after]
  exact if_pos (by omega)

theorem closeTripled?_cons {quote c : Char} (other : c ≠ quote) (tail : List Char) :
    closeTripled? quote (c :: tail) = none := by
  rw [closeTripled?, countQuotes_cons_ne other]
  rfl

/-- A string that is nothing but quotes to its end is closed at once, any other goes on. -/
theorem closeTripled?_cases {quote : Char} (cs : List Char) {rest : List Char}
    (few : countQuotes quote cs ≤ 2)
    (apart : rest.head? ≠ some quote) :
    ((∀ c ∈ cs, c = quote) ∧ cs.length ≤ 2 ∧
      closeTripled? quote (cs ++ quote :: quote :: quote :: rest) = some (cs, rest)) ∨
    closeTripled? quote (cs ++ quote :: quote :: quote :: rest) = none := by
  by_cases quotes : ∀ c ∈ cs, c = quote
  · left
    have run : cs = List.replicate cs.length quote := List.eq_replicate_of_mem quotes
    have counted : countQuotes quote cs = cs.length := by
      have ended : ([] : List Char).head? ≠ some quote := by simp
      have whole := countQuotes_replicate quote cs.length ended
      rwa [List.append_nil, ← run] at whole
    have closed := closeTripled?_replicate quote cs.length apart
    rw [← run] at closed
    exact ⟨quotes, by omega, closed⟩
  · right
    have other : ∃ c ∈ cs, c ≠ quote := by
      simpa only [Classical.not_forall, exists_prop] using quotes
    rw [closeTripled?, countQuotes_append other]
    exact if_neg (by omega)

theorem ne_of_isPlain {c : Char} (plain : isPlain c = true) : c ≠ '\n' ∧ c ≠ '\r' := by
  constructor
  all_goals
    rintro rfl
    cases plain

theorem readTripledBasic_close {cs ending rest : List Char} (fuel : Nat)
    (closed : closeTripled? '"' cs = some (ending, rest)) (short : ending.length ≤ 2) :
    readTripledBasic (fuel + 1) cs = some (ending, rest) := by
  unfold readTripledBasic
  rw [closed]
  exact if_pos short

theorem readTripledBasic_cons {fuel : Nat} {c : Char} {cs s rest : List Char}
    (opened : closeTripled? '"' (c :: cs) = none) (slashless : c ≠ '\\')
    (fit : isPlain c = true ∨ c = '\n') (later : readTripledBasic fuel cs = some (s, rest)) :
    readTripledBasic (fuel + 1) (c :: cs) = some (c :: s, rest) := by
  obtain plain | rfl := fit
  · obtain ⟨noBreak, noReturn⟩ := ne_of_isPlain plain
    rw [readTripledBasic, opened]
    · simp only [plain, ↓reduceIte, later, Option.map_some]
    · exact slashless
    · exact noBreak
    · exact fun _ carriage => absurd carriage noReturn
  · simp only [readTripledBasic, opened, later, Option.map_some]

theorem readTripledLiteral_close {cs ending rest : List Char} (fuel : Nat)
    (closed : closeTripled? '\'' cs = some (ending, rest)) (short : ending.length ≤ 2) :
    readTripledLiteral (fuel + 1) cs = some (ending, rest) := by
  unfold readTripledLiteral
  rw [closed]
  exact if_pos short

theorem readTripledLiteral_cons {fuel : Nat} {c : Char} {cs s rest : List Char}
    (opened : closeTripled? '\'' (c :: cs) = none)
    (fit : isPlain c = true ∨ c = '\n') (later : readTripledLiteral fuel cs = some (s, rest)) :
    readTripledLiteral (fuel + 1) (c :: cs) = some (c :: s, rest) := by
  obtain plain | rfl := fit
  · obtain ⟨noBreak, noReturn⟩ := ne_of_isPlain plain
    rw [readTripledLiteral, opened]
    · simp only [plain, ↓reduceIte, later, Option.map_some]
    · exact noBreak
    · exact fun _ carriage => absurd carriage noReturn
  · simp only [readTripledLiteral, opened, later, Option.map_some]

namespace Written

/-- Unescaped quotes never make up three. -/
theorem countQuotes_le {tripled : Bool} {run : Nat} {s cs : List Char}
    (written : Written tripled run s cs) (few : run ≤ 2) : countQuotes '"' cs + run ≤ 2 := by
  induction written with
  | @done run =>
    have none : countQuotes '"' [] = 0 := rfl
    omega
  | quote _ fewer _ ih =>
    have counted := ih fewer
    rw [countQuotes_cons_self]
    omega
  | escape =>
    rw [countQuotes_cons_ne (by decide)]
    omega
  | plain quoteless =>
    rw [countQuotes_cons_ne quoteless]
    omega

theorem plain_of_head? {tripled : Bool} {run : Nat} {s cs : List Char}
    (written : Written tripled run s cs) (oneLine : '\n' ∉ s) :
    ∀ c ∈ cs.head?, isPlain c = true := by
  rintro c first
  cases written with
  | done => cases first
  | quote =>
    cases first
    rfl
  | escape =>
    cases first
    rfl
  | plain _ _ fit =>
    cases first
    apply fit.resolve_right
    rintro ⟨-, rfl⟩
    exact oneLine List.mem_cons_self

/-- Nothing but quotes is written as it is. -/
theorem eq_of_quotes {tripled : Bool} {run : Nat} {s cs : List Char}
    (written : Written tripled run s cs) (quotes : ∀ c ∈ cs, c = '"') : cs = s := by
  induction written with
  | done => rfl
  | quote _ _ _ ih => rw [ih fun c member => quotes c (List.mem_cons_of_mem _ member)]
  | escape => exact absurd (quotes '\\' List.mem_cons_self) (by decide)
  | plain quoteless => exact absurd (quotes _ List.mem_cons_self) quoteless

theorem readTripledBasic_eq {run fuel : Nat} {s cs rest : List Char}
    (written : Written true run s cs) (few : run ≤ 2) (enough : s.length < fuel)
    (apart : rest.head? ≠ some '"') :
    readTripledBasic fuel (cs ++ '"' :: '"' :: '"' :: rest) = some (s, rest) := by
  induction written generalizing fuel with
  | done =>
    obtain ⟨fuel, rfl⟩ := Nat.exists_eq_succ_of_ne_zero (Nat.ne_zero_of_lt enough)
    exact readTripledBasic_close fuel (closeTripled?_replicate '"' 0 apart) (Nat.zero_le 2)
  | @quote run s cs inside fewer written ih =>
    obtain ⟨fuel, rfl⟩ := Nat.exists_eq_succ_of_ne_zero (Nat.ne_zero_of_lt enough)
    have whole := Written.quote inside fewer written
    have counted := whole.countQuotes_le few
    obtain ⟨quotes, short, closed⟩ | opened :=
      closeTripled?_cases ('"' :: cs) (Nat.le_of_add_right_le counted) apart
    · rw [← whole.eq_of_quotes quotes]
      exact readTripledBasic_close fuel closed short
    · have later := ih fewer (Nat.lt_of_succ_lt_succ enough)
      exact readTripledBasic_cons opened (by decide) (.inl rfl) later
  | @escape _ c body s cs stands _ ih =>
    obtain ⟨fuel, rfl⟩ := Nat.exists_eq_succ_of_ne_zero (Nat.ne_zero_of_lt enough)
    have later := ih (Nat.zero_le 2) (Nat.lt_of_succ_lt_succ enough)
    have slash : '\\' ≠ '"' := by decide
    have opened := closeTripled?_cons slash
      (body ++ (cs ++ '"' :: '"' :: '"' :: rest))
    obtain ⟨character, unfolded⟩ := stands (cs ++ '"' :: '"' :: '"' :: rest)
    rw [List.cons_append, List.append_assoc, readTripledBasic, opened]
    simp [unfolded, character, later]
  | @plain _ c s cs quoteless slashless fit _ ih =>
    obtain ⟨fuel, rfl⟩ := Nat.exists_eq_succ_of_ne_zero (Nat.ne_zero_of_lt enough)
    have later := ih (Nat.zero_le 2) (Nat.lt_of_succ_lt_succ enough)
    exact readTripledBasic_cons (closeTripled?_cons quoteless _) slashless
      (fit.imp_right And.right) later

end Written

/-! Single quotes. -/

theorem countQuotes_add_le_longestRun (quote : Char) (now : Nat) (s : List Char) :
    countQuotes quote s + now ≤ longestRun quote now s := by
  induction s generalizing now with
  | nil => exact Nat.le_of_eq (Nat.zero_add now)
  | cons c rest ih =>
    rw [longestRun]
    by_cases same : c = quote
    · subst same
      have further := ih (now + 1)
      rw [countQuotes_cons_self]
      simp only [beq_self_eq_true, ↓reduceIte]
      omega
    · have other : (c == quote) = false := beq_eq_false_iff_ne.mpr same
      rw [countQuotes_cons_ne same, Nat.zero_add]
      simp only [other, Bool.false_eq_true, ↓reduceIte]
      exact Nat.le_max_left now _

theorem longestRun_cons_self (quote : Char) (now : Nat) (rest : List Char) :
    longestRun quote now (quote :: rest) = longestRun quote (now + 1) rest := by
  simp [longestRun]

theorem longestRun_cons_ne {quote c : Char} (other : c ≠ quote) (now : Nat) (rest : List Char) :
    longestRun quote now (c :: rest) = max now (longestRun quote 0 rest) := by
  simp [longestRun, other]

theorem ne_of_longestRun {quote : Char} {now : Nat} {s : List Char}
    (nowhere : longestRun quote now s = 0) : ∀ c ∈ s, c ≠ quote := by
  induction s generalizing now with
  | nil => simp
  | cons c rest ih =>
    by_cases same : c = quote
    · subst same
      have counted := countQuotes_add_le_longestRun c now (c :: rest)
      rw [countQuotes_cons_self] at counted
      omega
    · rw [longestRun_cons_ne same] at nowhere
      have later : longestRun quote 0 rest = 0 := by omega
      exact List.forall_mem_cons.mpr ⟨same, ih later⟩

theorem readLiteral_append {s : List Char} (rest : List Char)
    (inside : ∀ c ∈ s, c ≠ '\'' ∧ isPlain c = true) :
    readLiteral (s ++ '\'' :: rest) = some (s, rest) := by
  induction s with
  | nil => rfl
  | cons c s ih =>
    obtain ⟨⟨other, plain⟩, others⟩ := List.forall_mem_cons.mp inside
    have differs : (c == '\'') = false := beq_eq_false_iff_ne.mpr other
    simp only [List.cons_append, readLiteral, differs, plain, ih others]
    rfl

theorem readTripledLiteral_append {fuel now : Nat} {s rest : List Char}
    (safe : ∀ c ∈ s, needsCode c = false) (few : longestRun '\'' now s ≤ 2)
    (enough : s.length < fuel) (apart : rest.head? ≠ some '\'') :
    readTripledLiteral fuel (s ++ '\'' :: '\'' :: '\'' :: rest) = some (s, rest) := by
  induction s generalizing fuel now with
  | nil =>
    obtain ⟨fuel, rfl⟩ := Nat.exists_eq_succ_of_ne_zero (Nat.ne_zero_of_lt enough)
    exact readTripledLiteral_close fuel (closeTripled?_replicate '\'' 0 apart) (Nat.zero_le 2)
  | cons c s ih =>
    obtain ⟨fuel, rfl⟩ := Nat.exists_eq_succ_of_ne_zero (Nat.ne_zero_of_lt enough)
    have counted := countQuotes_add_le_longestRun '\'' now (c :: s)
    obtain ⟨-, short, closed⟩ | opened :=
      closeTripled?_cases (c :: s) (Nat.le_trans (Nat.le_of_add_right_le counted) few) apart
    · exact readTripledLiteral_close fuel closed short
    · have others := (List.forall_mem_cons.mp safe).2
      have fit := isPlain_of_not_needsCode (safe c List.mem_cons_self)
      have shorter : s.length < fuel := Nat.lt_of_succ_lt_succ enough
      apply readTripledLiteral_cons opened fit
      by_cases same : c = '\''
      · subst same
        rw [longestRun_cons_self] at few
        exact ih others few shorter
      · rw [longestRun_cons_ne same] at few
        exact ih others (Nat.le_trans (Nat.le_max_right now _) few) shorter

/-! The whole string with its quotes. -/

def opening (s : List Char) : List Char := if s.contains '\n' then ['\n'] else []

/-- Only the line break that the writer put there is left out. -/
theorem withoutFirstBreak_opening {s cs : List Char} {quote : Char} (mark : isPlain quote = true)
    (front : '\n' ∉ s → ∀ c ∈ cs.head?, isPlain c = true) (rest : List Char) :
    withoutFirstBreak (opening s ++ (cs ++ quote :: rest)) = cs ++ quote :: rest := by
  by_cases breaks : '\n' ∈ s
  · have opened : opening s = ['\n'] := if_pos (List.contains_iff_mem.mpr breaks)
    rw [opened]
    rfl
  · have bare : opening s = [] := if_neg fun found => breaks (List.contains_iff_mem.mp found)
    obtain ⟨c, tail, same, plain⟩ :
        ∃ c tail, cs ++ quote :: rest = c :: tail ∧ isPlain c = true := by
      cases cs with
      | nil => exact ⟨quote, rest, rfl, mark⟩
      | cons c cs => exact ⟨c, _, rfl, front breaks c rfl⟩
    obtain ⟨noBreak, noReturn⟩ := ne_of_isPlain plain
    rw [bare, List.nil_append, withoutFirstBreak, same, afterBreak?]
    · rfl
    · rintro rest ⟨rfl, rfl⟩
      exact noBreak rfl
    · rintro rest ⟨rfl, rfl⟩
      exact noReturn rfl

def basic (s : List Char) : List Char := '"' :: writeBasic false 0 s ++ ['"']

def literal (s : List Char) : List Char := '\'' :: s ++ ['\'']

def tripledBasic (s : List Char) : List Char :=
  ['"', '"', '"'] ++ opening s ++ writeBasic true 0 s ++ ['"', '"', '"']

def tripledLiteral (s : List Char) : List Char :=
  ['\'', '\'', '\''] ++ opening s ++ s ++ ['\'', '\'', '\'']

/-- Single quotes are taken only for a string that can do without escapes. -/
theorem writeQuoted_cases (s : List Char) :
    writeQuoted s = basic s ∨ writeQuoted s = tripledBasic s ∨
    (writeQuoted s = literal s ∧ ∀ c ∈ s, c ≠ '\'' ∧ isPlain c = true) ∨
    (writeQuoted s = tripledLiteral s ∧ (∀ c ∈ s, needsCode c = false) ∧
      longestRun '\'' 0 s ≤ 2) := by
  unfold writeQuoted
  extract_lets doubles singles codes slashes breaks _ _ basic tripledBasic
  have safe (noCode : codes = false) : ∀ c ∈ s, needsCode c = false := fun c member =>
    Bool.eq_false_iff.mpr (List.any_eq_false.mp noCode c member)
  split_ifs with bare quoteless few fewSingles
  · exact .inl rfl
  · simp only [Bool.and_eq_true, Bool.not_eq_true', beq_iff_eq, and_assoc] at quoteless
    obtain ⟨noCode, noQuote, noBreak⟩ := quoteless
    have inside : ∀ c ∈ s, c ≠ '\'' ∧ isPlain c = true := by
      intro c member
      have other : c ≠ '\n' := by
        rintro rfl
        exact Bool.false_ne_true (noBreak.symm.trans (List.contains_iff_mem.mpr member))
      exact ⟨ne_of_longestRun noQuote c member,
        (isPlain_of_not_needsCode (safe noCode c member)).resolve_right other⟩
    exact .inr (.inr (.inl ⟨rfl, inside⟩))
  · exact .inr (.inl rfl)
  · simp only [Bool.and_eq_true, Bool.not_eq_true', decide_eq_true_eq] at fewSingles
    exact .inr (.inr (.inr ⟨rfl, safe fewSingles.1, fewSingles.2⟩))
  · exact .inr (.inl rfl)
  · exact .inl rfl

theorem writeQuoted_front (s : List Char) :
    ∃ c tail, writeQuoted s = c :: tail ∧ (c = '"' ∨ c = '\'') := by
  rcases writeQuoted_cases s with form | form | ⟨form, -⟩ | ⟨form, -⟩
  · exact ⟨_, _, form, .inl rfl⟩
  · exact ⟨_, _, form, .inl rfl⟩
  · exact ⟨_, _, form, .inr rfl⟩
  · exact ⟨_, _, form, .inr rfl⟩

/-- A string between single marks is not taken for one between tripled marks. -/
theorem append_ne_quotes {quote : Char} {cs rest : List Char} (front : cs.head? ≠ some quote)
    (apart : rest.head? ≠ some quote) (tail : List Char) :
    cs ++ quote :: rest ≠ quote :: quote :: tail := by
  intro same
  cases cs with
  | nil =>
    obtain ⟨-, rfl⟩ := List.cons.inj same
    exact apart rfl
  | cons c cs =>
    obtain ⟨rfl, -⟩ := List.cons.inj same
    exact front rfl

theorem readQuoted_basic (s : List Char) {rest : List Char} (apart : rest.head? ≠ some '"') :
    readQuoted (basic s ++ rest) = some (String.ofList s, rest) := by
  have written := written_writeBasic false 0 s
  have text : basic s ++ rest = '"' :: (writeBasic false 0 s ++ '"' :: rest) := by simp [basic]
  have enough : s.length < (basic s ++ rest).length + 1 := by
    have shorter := written.length_le
    simp only [basic, List.length_append, List.length_cons]
    omega
  rw [text] at enough ⊢
  rw [readQuoted, written.readBasic_eq rest enough]
  · rfl
  · exact fun tail tripled => append_ne_quotes written.head?_ne_quote apart tail tripled

theorem readQuoted_literal {s rest : List Char} (apart : rest.head? ≠ some '\'')
    (inside : ∀ c ∈ s, c ≠ '\'' ∧ isPlain c = true) :
    readQuoted (literal s ++ rest) = some (String.ofList s, rest) := by
  have text : literal s ++ rest = '\'' :: (s ++ '\'' :: rest) := by simp [literal]
  have front : s.head? ≠ some '\'' := fun first =>
    (inside '\'' (List.mem_of_head? first)).1 rfl
  rw [text, readQuoted, readLiteral_append rest inside]
  · rfl
  · exact fun tail tripled => append_ne_quotes front apart tail tripled

theorem readQuoted_tripledBasic (s : List Char) {rest : List Char} (apart : rest.head? ≠ some '"') :
    readQuoted (tripledBasic s ++ rest) = some (String.ofList s, rest) := by
  have written := written_writeBasic true 0 s
  have text : tripledBasic s ++ rest =
      '"' :: '"' :: '"' :: (opening s ++ (writeBasic true 0 s ++ '"' :: '"' :: '"' :: rest)) := by
    simp [tripledBasic]
  have enough : s.length < (tripledBasic s ++ rest).length + 1 := by
    have shorter := written.length_le
    simp only [tripledBasic, List.length_append, List.length_cons]
    omega
  rw [text] at enough ⊢
  rw [readQuoted, withoutFirstBreak_opening rfl written.plain_of_head?,
    written.readTripledBasic_eq (Nat.zero_le 2) enough apart]
  rfl

theorem readQuoted_tripledLiteral {s rest : List Char} (apart : rest.head? ≠ some '\'')
    (safe : ∀ c ∈ s, needsCode c = false) (few : longestRun '\'' 0 s ≤ 2) :
    readQuoted (tripledLiteral s ++ rest) = some (String.ofList s, rest) := by
  have text : tripledLiteral s ++ rest =
      '\'' :: '\'' :: '\'' :: (opening s ++ (s ++ '\'' :: '\'' :: '\'' :: rest)) := by
    simp [tripledLiteral]
  have enough : s.length < (tripledLiteral s ++ rest).length + 1 := by
    simp only [tripledLiteral, List.length_append, List.length_cons]
    omega
  have front (oneLine : '\n' ∉ s) : ∀ c ∈ s.head?, isPlain c = true := by
    intro c first
    have member : c ∈ s := List.mem_of_head? first
    apply (isPlain_of_not_needsCode (safe c member)).resolve_right
    rintro rfl
    exact oneLine member
  rw [text] at enough ⊢
  rw [readQuoted, withoutFirstBreak_opening rfl front,
    readTripledLiteral_append safe few enough apart]
  rfl

/-- A string reads back, unless a further quote stands behind it. -/
theorem readQuoted_writeQuoted (s : List Char) {rest : List Char} (doubles : rest.head? ≠ some '"')
    (singles : rest.head? ≠ some '\'') :
    readQuoted (writeQuoted s ++ rest) = some (String.ofList s, rest) := by
  obtain form | form | ⟨form, inside⟩ | ⟨form, safe, few⟩ := writeQuoted_cases s
  · rw [form]
    exact readQuoted_basic s doubles
  · rw [form]
    exact readQuoted_tripledBasic s doubles
  · rw [form]
    exact readQuoted_literal singles inside
  · rw [form]
    exact readQuoted_tripledLiteral singles safe few

-- Two quotes that belong to the string stand in front of the three that close it.
example : writeQuoted ['\\', '\'', '\''] =
    ['\'', '\'', '\'', '\\', '\'', '\'', '\'', '\'', '\''] := by decide

end BookmarkSearch.Toml
