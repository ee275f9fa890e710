import BookmarkSearch.Proofs.Text.Digits
import BookmarkSearch.Proofs.Toml.Quoted
import BookmarkSearch.Toml.Reader

/-!
Values that have been written stand for themselves again, up to the end of their line: strings,
truth values and natural numbers.
-/

namespace BookmarkSearch.Toml

open Text

structure Denotes (value : List Char) (item : Item) : Prop where
  visible : ∀ rest, skipGaps (value ++ rest) = value ++ rest
  reads : ∀ fuel room rest,
    readValue (fuel + 1) room (value ++ '\n' :: rest) = some (item, '\n' :: rest)

theorem skipGaps_cons {c : Char} (visible : isGap c = false) (rest : List Char) :
    skipGaps (c :: rest) = c :: rest := by
  simp [skipGaps, visible]

theorem readValue_quote {c : Char} (mark : c = '"' ∨ c = '\'') (fuel room : Nat)
    (cs : List Char) : readValue (fuel + 1) room (c :: cs) =
      (readQuoted (c :: cs)).map fun (s, rest) => (.scalar (.string s), rest) := by
  rcases mark with rfl | rfl
  · rw [readValue]
  · rw [readValue]

theorem denotes_quoted (s : String) :
    Denotes (writeQuoted s.toList) (.scalar (.string s)) := by
  obtain ⟨c, tail, front, mark⟩ := writeQuoted_front s.toList
  constructor
  · intro rest
    rw [front]
    rcases mark with rfl | rfl
    · exact skipGaps_cons rfl _
    · exact skipGaps_cons rfl _
  · intro fuel room rest
    have noDouble : ('\n' :: rest).head? ≠ some '"' := by simp
    have noSingle : ('\n' :: rest).head? ≠ some '\'' := by simp
    have read := readQuoted_writeQuoted s.toList noDouble noSingle
    rw [String.ofList_toList, front] at read
    rw [front]
    exact (readValue_quote mark fuel room _).trans (congrArg (Option.map _) read)

theorem denotes_flag (flag : Bool) : Denotes (toString flag).toList (.scalar (.boolean flag)) := by
  cases flag
  · exact ⟨fun rest => skipGaps_cons rfl _, fun fuel room rest => rfl⟩
  · exact ⟨fun rest => skipGaps_cons rfl _, fun fuel room rest => rfl⟩

/-! Numbers. -/

theorem digitRun?_digits {ds : List Char} (nonempty : ds ≠ [])
    (digits : ∀ c ∈ ds, c.isDigit = true) : digitRun? Char.isDigit ds = some ds := by
  induction ds with
  | nil => exact absurd rfl nonempty
  | cons c rest ih =>
    obtain ⟨digit, others⟩ := List.forall_mem_cons.mp digits
    cases rest with
    | nil => exact if_pos digit
    | cons d rest =>
      have later := ih (List.cons_ne_nil d rest) others
      rw [digitRun?, later, if_pos digit]
      · rfl
      · simp
      · rintro tail ⟨rfl, rfl⟩
        cases others '_' List.mem_cons_self

theorem decimalRun?_toDigits (n : Nat) :
    decimalRun? (Nat.toDigits 10 n) = some (Nat.toDigits 10 n) := by
  have run := digitRun?_digits Nat.toDigits_ne_nil fun c member => digit_of_mem (n := n) member
  rw [decimalRun?, run]
  apply if_neg
  rintro ⟨zero, long⟩
  rcases Nat.eq_zero_or_pos n with rfl | positive
  · exact absurd long (by decide)
  · exact head?_toDigits positive zero

theorem integer?_toDigits (n : Nat) : integer? (Nat.toDigits 10 n) = some (n : Int) := by
  have unsigned : splitSign (Nat.toDigits 10 n) = (false, false, Nat.toDigits 10 n) := by
    unfold splitSign
    split
    · rename_i plus
      exact absurd plus (toDigits_ne List.mem_cons_self rfl)
    · rename_i minus
      exact absurd minus (toDigits_ne List.mem_cons_self rfl)
    · rfl
  -- No letter stands behind the first digit, so no other base is meant.
  have letterless {c : Char} (letter : c.isDigit = false) (ds : List Char) :
      Nat.toDigits 10 n ≠ '0' :: c :: ds :=
    toDigits_ne (List.mem_cons_of_mem '0' List.mem_cons_self) letter
  rw [integer?, unsigned]
  split
  · rename_i base
    exact absurd (Prod.mk.inj (Prod.mk.inj base).2).2 (letterless rfl _)
  · rename_i base
    exact absurd (Prod.mk.inj (Prod.mk.inj base).2).2 (letterless rfl _)
  · rename_i base
    exact absurd (Prod.mk.inj (Prod.mk.inj base).2).2 (letterless rfl _)
  · rename_i decimal
    obtain ⟨rfl, rest⟩ := Prod.mk.inj decimal
    obtain ⟨-, rfl⟩ := Prod.mk.inj rest
    rw [decimalRun?_toDigits]
    exact congrArg (fun value : Nat => some (value : Int)) (naturalOf_toDigits n)

theorem scalar?_toDigits (n : Nat) : scalar? (Nat.toDigits 10 n) = some (.integer n) := by
  have notTrue : Nat.toDigits 10 n ≠ ['t', 'r', 'u', 'e'] := toDigits_ne List.mem_cons_self rfl
  have notFalse : Nat.toDigits 10 n ≠ ['f', 'a', 'l', 's', 'e'] :=
    toDigits_ne List.mem_cons_self rfl
  rw [scalar?, if_neg notTrue, if_neg notFalse, integer?_toDigits]
  rfl

theorem endsScalar_of_isDigit {c : Char} (digit : c.isDigit = true) : endsScalar c = false := by
  rw [← Bool.not_eq_true]
  intro ends
  simp only [endsScalar, isGap, Bool.or_eq_true, beq_iff_eq, or_assoc] at ends
  rcases ends with rfl | rfl | rfl | rfl | rfl | rfl | rfl | rfl | rfl | rfl | rfl | rfl | rfl
  all_goals cases digit

theorem denotes_number (n : Nat) : Denotes (toString n).toList (.scalar (.integer n)) := by
  rw [toList_toString]
  obtain ⟨d, ds, digits⟩ := List.exists_cons_of_ne_nil (Nat.toDigits_ne_nil (n := n) (b := 10))
  have first : d.isDigit = true := digit_of_mem (n := n) (by rw [digits]; exact List.mem_cons_self)
  have inside : ∀ c ∈ Nat.toDigits 10 n, (!endsScalar c) = true := by
    intro c member
    rw [endsScalar_of_isDigit (digit_of_mem member)]
    rfl
  constructor
  · intro rest
    rw [digits]
    apply skipGaps_cons
    rw [← Bool.not_eq_true]
    intro gap
    simp only [isGap, Bool.or_eq_true, beq_iff_eq] at gap
    rcases gap with rfl | rfl
    all_goals cases first
  · intro fuel room rest
    have ends : ∀ c ∈ ('\n' :: rest).head?, (!endsScalar c) = false := by
      rintro c ⟨⟩
      rfl
    have word : (Nat.toDigits 10 n ++ '\n' :: rest).takeWhile (!endsScalar ·) =
        Nat.toDigits 10 n := Unicode.takeWhile_run inside ends
    have after : (Nat.toDigits 10 n ++ '\n' :: rest).dropWhile (!endsScalar ·) = '\n' :: rest :=
      Unicode.dropWhile_run inside ends
    have read : readScalar (Nat.toDigits 10 n ++ '\n' :: rest) =
        some (.integer n, '\n' :: rest) := by
      simp only [readScalar, word, after, scalar?_toDigits]
      rfl
    rw [digits, List.cons_append] at read ⊢
    rw [readValue, read]
    · rfl
    all_goals
      rintro rest ⟨rfl, -⟩
      cases first

end BookmarkSearch.Toml
