import BookmarkSearch.Proofs.Json.Grammar
import BookmarkSearch.Unicode.Blank

/-!
Numbers and strings of a JSON text are read as they are written, with anything behind them that does
not go on with a number.
-/

namespace BookmarkSearch.Json

open Text

def endsValue (c : Char) : Bool := isSpace c || c == ',' || c == ']' || c == '\x7d'

def Ends (rest : List Char) : Prop := ∀ c ∈ rest.head?, endsValue c = true

theorem endsValue_cases {c : Char} (ends : endsValue c = true) :
    c = ' ' ∨ c = '\n' ∨ c = '\t' ∨ c = '\r' ∨ c = ',' ∨ c = ']' ∨ c = '\x7d' := by
  simpa [endsValue, isSpace, or_assoc] using ends

theorem not_digit_of_ends {c : Char} (ends : endsValue c = true) : c.isDigit = false := by
  rcases endsValue_cases ends with rfl | rfl | rfl | rfl | rfl | rfl | rfl <;> rfl

/-! Numbers. -/

theorem readDigits_run {ds rest : List Char} (run : Digits ds)
    (ends : ∀ c ∈ rest.head?, c.isDigit = false) : readDigits (ds ++ rest) = .ok (ds, rest) := by
  obtain ⟨nonempty, digits⟩ := run
  cases ds with
  | nil => exact absurd rfl nonempty
  | cons d more =>
    have front : d.isDigit = true := digits d List.mem_cons_self
    rw [List.cons_append, readDigits, if_pos front, ← List.cons_append,
      Unicode.takeWhile_run digits ends, Unicode.dropWhile_run digits ends]

theorem readWhole_of_ne {cs : List Char} (front : cs.head? ≠ some '0') :
    readWhole cs = readDigits cs := by
  unfold readWhole
  split
  · exact absurd rfl front
  · rfl

theorem readWhole_text {whole rest : List Char} (text : WholeText whole)
    (ends : ∀ c ∈ rest.head?, c.isDigit = false) :
    readWhole (whole ++ rest) = .ok (whole, rest) := by
  cases text with
  | zero =>
    have behind : rest.head?.any Char.isDigit = false := by
      cases rest with
      | nil => rfl
      | cons c more => exact ends c rfl
    simp only [List.cons_append, List.nil_append, readWhole, behind, Bool.false_eq_true, ↓reduceIte]
  | digits front run =>
    rw [readWhole_of_ne (by simpa using front)]
    exact readDigits_run run ends

theorem readFraction_of_ne {cs : List Char} (front : cs.head? ≠ some '.') :
    readFraction cs = .ok ([], cs) := by
  unfold readFraction
  split
  · exact absurd rfl front
  · rfl

def EndsFraction (rest : List Char) : Prop := ∀ c ∈ rest.head?, c.isDigit = false ∧ c ≠ '.'

theorem readFraction_text {fraction cs rest : List Char} (text : FractionText fraction cs)
    (ends : EndsFraction rest) : readFraction (cs ++ rest) = .ok (fraction, rest) := by
  cases text with
  | absent => exact readFraction_of_ne fun point => (ends '.' point).2 rfl
  | digits run => exact readDigits_run run fun c front => (ends c front).1

/-- A fraction may follow digits. -/
theorem head_fraction {fraction cs rest : List Char} (text : FractionText fraction cs)
    (ends : EndsFraction rest) : ∀ c ∈ (cs ++ rest).head?, c.isDigit = false := by
  cases text with
  | absent => exact fun c front => (ends c front).1
  | digits run =>
    intro c front
    obtain rfl : '.' = c := Option.some.inj front
    rfl

theorem exponent_mark {e : Char} (mark : e = 'e' ∨ e = 'E') :
    (e == 'e' || e == 'E') = true ∧ e.isDigit = false ∧ e ≠ '.' := by
  rcases mark with rfl | rfl <;> decide

theorem head_exponent {negative : Bool} {power cs rest : List Char}
    (text : ExponentText negative power cs) (ends : Ends rest) : EndsFraction (cs ++ rest) := by
  intro c front
  cases text with
  | absent =>
    rcases endsValue_cases (ends c front) with rfl | rfl | rfl | rfl | rfl | rfl | rfl <;> decide
  | bare mark run | plus mark run | minus mark run =>
    obtain rfl := Option.some.inj front
    exact (exponent_mark mark).2

theorem readExponent_ends {rest : List Char} (ends : Ends rest) :
    readExponent rest = .ok (false, [], rest) := by
  cases rest with
  | nil => rfl
  | cons c more =>
    have other : (c == 'e' || c == 'E') = false := by
      rcases endsValue_cases (ends c rfl) with rfl | rfl | rfl | rfl | rfl | rfl | rfl <;> rfl
    unfold readExponent
    simp only [other, Bool.false_eq_true, ↓reduceIte]

theorem readExponent_bare {e : Char} {cs : List Char} (mark : e = 'e' ∨ e = 'E')
    (digit : ∀ c ∈ cs.head?, c.isDigit = true) :
    readExponent (e :: cs) = (readDigits cs).map fun (ds, after) => (false, ds, after) := by
  unfold readExponent
  simp only [(exponent_mark mark).1, ↓reduceIte]
  split
  · exact absurd (digit '+' rfl) (by decide)
  · exact absurd (digit '-' rfl) (by decide)
  · rfl

theorem head_run {ds rest : List Char} (run : Digits ds) :
    ∀ c ∈ (ds ++ rest).head?, c.isDigit = true := by
  obtain ⟨nonempty, digits⟩ := run
  cases ds with
  | nil => exact absurd rfl nonempty
  | cons d more =>
    intro c front
    obtain rfl : d = c := Option.some.inj front
    exact digits d List.mem_cons_self

theorem readExponent_text {negative : Bool} {power cs rest : List Char}
    (text : ExponentText negative power cs) (ends : Ends rest) :
    readExponent (cs ++ rest) = .ok (negative, power, rest) := by
  have behind : ∀ c ∈ rest.head?, c.isDigit = false :=
    fun c front => not_digit_of_ends (ends c front)
  cases text with
  | absent => exact readExponent_ends ends
  | bare mark run =>
    rw [List.cons_append, readExponent_bare mark (head_run run), readDigits_run run behind]
    rfl
  | plus mark run | minus mark run =>
    unfold readExponent
    simp only [List.cons_append, (exponent_mark mark).1, ↓reduceIte, readDigits_run run behind]
    rfl

theorem readUnsigned_text {cs rest : List Char} (text : UnsignedText cs) (ends : Ends rest) :
    readUnsigned (cs ++ rest) = .ok rest := by
  cases text with
  | @mk whole fraction power second third negative front middle back finite =>
    have thirdEnds := head_exponent back ends
    have first := readWhole_text front (head_fraction middle thirdEnds)
    have next := readFraction_text middle thirdEnds
    have last := readExponent_text back ends
    rw [List.append_assoc, List.append_assoc, readUnsigned, first]
    simp only [bind, Except.bind, next, last]
    exact if_pos finite

theorem numberText_append (cs rest : List Char) :
    numberText (cs ++ rest) rest = String.ofList cs := by
  simp [numberText]

/-! Strings. -/

theorem not_isShort (a b c d : Char) (rest : List Char) :
    isShort (a :: b :: c :: d :: rest) = false := by
  have one : ∀ e : Char, 0 < e.utf8Size := fun e => e.utf8Size_pos
  have first := one a
  have second := one b
  have third := one c
  have fourth := one d
  refine decide_eq_false ?_
  simp only [List.take_succ_cons, List.take_zero, List.foldl_cons, List.foldl_nil]
  omega

theorem readUnit_text {n : Nat} {us rest : List Char} (text : UnitText n us) :
    readUnit (us ++ rest) = .ok (n, rest) := by
  cases text with
  | @mk a b c d digits =>
    simp only [List.cons_append, List.nil_append, readUnit, not_isShort, Bool.false_eq_true,
      ↓reduceIte, digits]

theorem readLowUnit_text {n : Nat} {us rest : List Char} (text : UnitText n us)
    (trailing : 0xDC00 ≤ n ∧ n ≤ 0xDFFF) :
    readLowUnit ('\\' :: 'u' :: (us ++ rest)) = .ok (n, rest) := by
  rw [readLowUnit, readUnit_text text]
  exact if_pos trailing

/-- No character is a surrogate. -/
theorem toNat_cases (c : Char) : c.toNat < 0xD800 ∨ 0xDFFF < c.toNat := by
  have valid : c.toNat.isValidChar := c.valid
  rcases valid with low | ⟨high, -⟩
  · exact .inl low
  · exact .inr high

theorem readCode_unit {c : Char} {us rest : List Char} (text : UnitText c.toNat us) :
    readCode (us ++ rest) = .ok (c, rest) := by
  have whole := toNat_cases c
  rw [readCode, readUnit_text text]
  change (if 0xDC00 ≤ c.toNat ∧ c.toNat ≤ 0xDFFF then _ else _) = _
  rw [if_neg (by omega), if_neg (by omega), Char.ofNat_toNat]
  rfl

theorem readCode_pair {c : Char} {high low : Nat} {us vs : List Char}
    (first : UnitText high us) (second : UnitText low vs) (rest : List Char)
    (leading : 0xD800 ≤ high ∧ high ≤ 0xDBFF) (trailing : 0xDC00 ≤ low ∧ low ≤ 0xDFFF)
    (value : c.toNat = 0x10000 + (high - 0xD800) * 0x400 + (low - 0xDC00)) :
    readCode (us ++ '\\' :: 'u' :: (vs ++ rest)) = .ok (c, rest) := by
  rw [readCode, readUnit_text first]
  change (if 0xDC00 ≤ high ∧ high ≤ 0xDFFF then _ else _) = _
  rw [if_neg (by omega), if_pos leading, readLowUnit_text second trailing]
  change Except.ok (Char.ofNat _, rest) = _
  rw [← value, Char.ofNat_toNat]

theorem readEscape_short {mark c : Char} {rest : List Char} (known : (mark, c) ∈ shortEscapes) :
    readEscape (mark :: rest) = .ok (c, rest) := by
  simp only [shortEscapes, List.mem_cons, Prod.mk.injEq, List.not_mem_nil, or_false] at known
  rcases known with ⟨rfl, rfl⟩ | ⟨rfl, rfl⟩ | ⟨rfl, rfl⟩ | ⟨rfl, rfl⟩ | ⟨rfl, rfl⟩ | ⟨rfl, rfl⟩ |
    ⟨rfl, rfl⟩ | ⟨rfl, rfl⟩ <;> rfl

theorem readString_escape (fuel : Nat) {c : Char} {cs rest : List Char}
    (read : readEscape cs = .ok (c, rest)) :
    readString (fuel + 1) ('\\' :: cs) =
      (readString fuel rest).map fun (more, rest) => (c :: more, rest) := by
  rw [readString, read]
  simp only [bind, Except.bind]
  cases readString fuel rest <;> rfl

/-- A character is read whichever way it is written. -/
theorem readString_letter {c : Char} {us : List Char} (text : LetterText c us) (fuel : Nat)
    (rest : List Char) :
    readString (fuel + 1) (us ++ rest) =
      (readString fuel rest).map fun (more, rest) => (c :: more, rest) := by
  cases text with
  | plain visible quoteless slashless =>
    rw [List.cons_append, readString]
    · rw [if_neg (Nat.not_lt_of_le visible)]
      rfl
    · exact quoteless
    · exact slashless
  | short known => exact readString_escape fuel (readEscape_short known)
  | unit code => exact readString_escape fuel (readCode_unit code)
  | @pair _ _ _ us vs first second leading trailing value =>
    have read := readCode_pair first second rest leading trailing value
    rw [List.cons_append, List.cons_append, List.append_assoc]
    exact readString_escape fuel read

theorem letterText_ne_nil {c : Char} {us : List Char} (text : LetterText c us) : us ≠ [] := by
  cases text <;> simp

theorem readString_letters {s cs : List Char} (text : LettersText s cs) {fuel : Nat}
    (enough : cs.length < fuel) (rest : List Char) :
    readString fuel (cs ++ '"' :: rest) = .ok (s, rest) := by
  induction text generalizing fuel with
  | nil =>
    obtain _ | fuel := fuel
    · cases enough
    · rfl
  | @cons c s us cs first later ih =>
    obtain _ | fuel := fuel
    · cases enough
    have some := List.length_pos_iff.mpr (letterText_ne_nil first)
    rw [List.length_append] at enough
    rw [List.append_assoc, readString_letter first, ih (by omega)]
    rfl

theorem readText_letters {s cs : List Char} (text : LettersText s cs) (rest : List Char) :
    readText (cs ++ '"' :: rest) = .ok (String.ofList s, rest) := by
  have enough : cs.length < (cs ++ '"' :: rest).length + 1 := by
    rw [List.length_append, List.length_cons]
    omega
  rw [readText, readString_letters text enough]
  rfl

end BookmarkSearch.Json
