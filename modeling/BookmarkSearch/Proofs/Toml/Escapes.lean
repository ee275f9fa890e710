import BookmarkSearch.Toml.Quoted
import Mathlib.Tactic.SplitIfs

/-!
What is written between double quotes reads back: a character stands for itself, or an escape stands
for it.
-/

namespace BookmarkSearch.Toml

open Text

/-- What may follow a backslash to stand for a character. It is no line break, so that the
backslash cannot be taken for the end of a line. -/
def StandsFor (c : Char) (body : List Char) : Prop :=
  ∀ tail, readEscape (body ++ tail) = some (c, tail) ∧ afterFold? (body ++ tail) = none

def codeDigits (n : Nat) : List Char := List.replicate (4 - (upperHex n).length) '0' ++ upperHex n

theorem codeDigits_spec : ∀ n < 128, (codeDigits n).length = 4 ∧
    (codeDigits n).all isHexDigit = true ∧ naturalOf 16 (codeDigits n) = n := by decide

theorem toNat_lt_of_needsCode {c : Char} (control : needsCode c = true) : c.toNat < 128 := by
  simp only [needsCode, Bool.or_eq_true, Bool.and_eq_true, decide_eq_true_eq, beq_iff_eq] at control
  omega

theorem readCode_codeDigits {c : Char} (control : needsCode c = true) (tail : List Char) :
    readCode 4 (codeDigits c.toNat ++ tail) = some (c, tail) := by
  obtain ⟨four, hex, value⟩ := codeDigits_spec c.toNat (toNat_lt_of_needsCode control)
  have digits : (codeDigits c.toNat ++ tail).take 4 = codeDigits c.toNat := by
    rw [← four, List.take_left]
  have left : (codeDigits c.toNat ++ tail).drop 4 = tail := by rw [← four, List.drop_left]
  have valid : c.toNat.isValidChar := c.valid
  simp only [readCode, digits, left, four, hex, value, valid, and_self, ↓reduceIte]
  rw [Char.ofNat_toNat]

theorem codeEscape_eq (c : Char) : codeEscape c = '\\' :: ('u' :: codeDigits c.toNat) := rfl

theorem standsFor_code {c : Char} (control : needsCode c = true) :
    StandsFor c ('u' :: codeDigits c.toNat) :=
  fun tail => ⟨readCode_codeDigits control tail, rfl⟩

theorem standsFor_quote : StandsFor '"' ['"'] := fun _ => ⟨rfl, rfl⟩

theorem isPlain_of_not_needsCode {c : Char} (safe : needsCode c = false) :
    isPlain c = true ∨ c = '\n' := by
  simp only [needsCode, Bool.or_eq_false_iff, Bool.and_eq_false_iff, decide_eq_false_iff_not,
    bne_eq_false_iff_eq, beq_eq_false_iff_ne] at safe
  obtain ⟨(visible | tab) | lineBreak, noDelete⟩ := safe
  · left
    simp only [isPlain, Bool.or_eq_true, Bool.and_eq_true, decide_eq_true_eq, bne_iff_ne]
    exact .inr ⟨Nat.le_of_not_lt visible, noDelete⟩
  · left
    rw [tab]
    rfl
  · exact .inr lineBreak

/-- A character is escaped, or it may stand for itself. -/
theorem escapeOf?_cases (tripled : Bool) (c : Char) :
    (∃ body, escapeOf? tripled c = some ('\\' :: body) ∧ StandsFor c body) ∨
    (escapeOf? tripled c = none ∧ c ≠ '\\' ∧ (isPlain c = true ∨ tripled = true ∧ c = '\n')) := by
  simp only [escapeOf?, beq_iff_eq]
  split_ifs with backspace tab lineBreak inside feed carriage slash control
  · exact .inl ⟨['b'], rfl, fun _ => ⟨by rw [backspace]; rfl, rfl⟩⟩
  · exact .inl ⟨['t'], rfl, fun _ => ⟨by rw [tab]; rfl, rfl⟩⟩
  · exact .inr ⟨rfl, by rw [lineBreak]; decide, .inr ⟨inside, lineBreak⟩⟩
  · exact .inl ⟨['n'], rfl, fun _ => ⟨by rw [lineBreak]; rfl, rfl⟩⟩
  · exact .inl ⟨['f'], rfl, fun _ => ⟨by rw [feed]; rfl, rfl⟩⟩
  · exact .inl ⟨['r'], rfl, fun _ => ⟨by rw [carriage]; rfl, rfl⟩⟩
  · exact .inl ⟨['\\'], rfl, fun _ => ⟨by rw [slash]; rfl, rfl⟩⟩
  · exact .inl ⟨_, congrArg some (codeEscape_eq c), standsFor_code control⟩
  · have safe : needsCode c = false := Bool.eq_false_iff.mpr control
    exact .inr ⟨rfl, slash, .inl ((isPlain_of_not_needsCode safe).resolve_right lineBreak)⟩

/-- How the characters of a string come to stand between double quotes; `run` is the number of
unescaped quotes in front. -/
inductive Written (tripled : Bool) : Nat → List Char → List Char → Prop where
  | done {run} : Written tripled run [] []
  | quote {run s cs} (inside : tripled = true) (few : run < 2)
      (later : Written tripled (run + 1) s cs) : Written tripled run ('"' :: s) ('"' :: cs)
  | escape {run c body s cs} (stands : StandsFor c body) (later : Written tripled 0 s cs) :
      Written tripled run (c :: s) ('\\' :: (body ++ cs))
  | plain {run c s cs} (quoteless : c ≠ '"') (slashless : c ≠ '\\')
      (fit : isPlain c = true ∨ tripled = true ∧ c = '\n') (later : Written tripled 0 s cs) :
      Written tripled run (c :: s) (c :: cs)

theorem written_writeBasic (tripled : Bool) (run : Nat) (s : List Char) :
    Written tripled run s (writeBasic tripled run s) := by
  induction s generalizing run with
  | nil => exact .done
  | cons c rest ih =>
    rw [writeBasic]
    by_cases quote : c = '"'
    · subst quote
      simp only [beq_self_eq_true, ↓reduceIte]
      by_cases free : tripled = true ∧ run < 2
      · rw [if_pos free]
        exact .quote free.1 free.2 (ih (run + 1))
      · rw [if_neg free]
        exact .escape standsFor_quote (ih 0)
    · have other : (c == '"') = false := beq_eq_false_iff_ne.mpr quote
      simp only [other, Bool.false_eq_true, ↓reduceIte]
      obtain ⟨body, escaped, stands⟩ | ⟨bare, slashless, fit⟩ := escapeOf?_cases tripled c
      · rw [escaped]
        exact .escape stands (ih 0)
      · rw [bare]
        exact .plain quote slashless fit (ih 0)

namespace Written

theorem length_le {tripled : Bool} {run : Nat} {s cs : List Char}
    (written : Written tripled run s cs) : s.length ≤ cs.length := by
  induction written with
  | done => exact Nat.le_refl _
  | quote _ _ _ ih => exact Nat.succ_le_succ ih
  | escape _ _ ih =>
    simp only [List.length_cons, List.length_append]
    omega
  | plain _ _ _ _ ih => exact Nat.succ_le_succ ih

theorem head?_ne_quote {run : Nat} {s cs : List Char} (written : Written false run s cs) :
    cs.head? ≠ some '"' := by
  cases written with
  | done => simp
  | quote inside => cases inside
  | escape => simp
  | plain quoteless => simpa using quoteless

theorem readBasic_eq {run fuel : Nat} {s cs : List Char} (rest : List Char)
    (written : Written false run s cs) (enough : s.length < fuel) :
    readBasic fuel (cs ++ '"' :: rest) = some (s, rest) := by
  induction written generalizing fuel with
  | done =>
    obtain ⟨fuel, rfl⟩ := Nat.exists_eq_succ_of_ne_zero (Nat.ne_zero_of_lt enough)
    rfl
  | quote inside => cases inside
  | @escape _ c body s cs stands _ ih =>
    obtain ⟨fuel, rfl⟩ := Nat.exists_eq_succ_of_ne_zero (Nat.ne_zero_of_lt enough)
    have later := ih (Nat.lt_of_succ_lt_succ enough)
    simp only [List.cons_append, List.append_assoc, readBasic, (stands _).1]
    simp [later]
  | @plain _ c s cs quoteless slashless fit _ ih =>
    obtain ⟨fuel, rfl⟩ := Nat.exists_eq_succ_of_ne_zero (Nat.ne_zero_of_lt enough)
    have later := ih (Nat.lt_of_succ_lt_succ enough)
    have isFit : isPlain c = true := fit.resolve_right fun inside => Bool.false_ne_true inside.1
    rw [List.cons_append, readBasic]
    · simp only [isFit, ↓reduceIte, later, Option.map_some]
    · exact quoteless
    · exact slashless

end Written

end BookmarkSearch.Toml
