import Mathlib.Data.List.DropRight
import BookmarkSearch.Proofs.Json.Scalars

/-!
Every text of a value is read as that value, as long as it is not nested too deep: the blanks
between its parts and the way its strings are escaped make no difference.
-/

namespace BookmarkSearch.Json

theorem skipSpace_blanks {front : List Char} (blanks : Blanks front) (cs : List Char) :
    skipSpace (front ++ cs) = skipSpace cs :=
  List.dropWhile_append_of_pos (List.all_eq_true.mp blanks)

theorem skipSpace_visible {c : Char} (visible : isSpace c = false) (cs : List Char) :
    skipSpace (c :: cs) = c :: cs :=
  List.dropWhile_cons_of_neg (by simp [visible])

theorem skipSpace_idem (cs : List Char) : skipSpace (skipSpace cs) = skipSpace cs :=
  List.dropWhile_idempotent isSpace cs

theorem skipSpace_upTo {front : List Char} (blanks : Blanks front) {c : Char}
    (visible : isSpace c = false) (cs : List Char) : skipSpace (front ++ c :: cs) = c :: cs := by
  rw [skipSpace_blanks blanks, skipSpace_visible visible]

theorem ends_blanks {back rest : List Char} (blanks : Blanks back) (ends : Ends rest) :
    Ends (back ++ rest) := by
  cases back with
  | nil => exact ends
  | cons b more =>
    intro c front
    obtain rfl : b = c := Option.some.inj front
    have space : isSpace b = true := List.all_eq_true.mp blanks b List.mem_cons_self
    rw [endsValue, space]
    rfl

theorem ends_cons {c : Char} (ends : endsValue c = true) (rest : List Char) : Ends (c :: rest) := by
  intro d front
  obtain rfl : c = d := Option.some.inj front
  exact ends

/-! What stands in front decides how reading goes on. -/

section Front

-- The equations of the three functions are worked out here once, not by each lemma that needs them.
attribute [local simp] readValue readItems readFields

variable {fuel room : Nat} {cs : List Char}

theorem readValue_skipSpace (fuel room : Nat) (cs : List Char) :
    readValue fuel room (skipSpace cs) = readValue fuel room cs := by
  cases fuel with
  | zero => rfl
  | succ fuel => rw [readValue, readValue, skipSpace_idem]

theorem readItems_skipSpace (fuel room : Nat) (cs : List Char) :
    readItems fuel room (skipSpace cs) = readItems fuel room cs := by
  cases fuel with
  | zero => rfl
  | succ fuel => rw [readItems, readItems, readValue_skipSpace]

theorem readValue_digit {c : Char} (digit : c.isDigit = true) :
    readValue (fuel + 1) room (c :: cs) =
      (readUnsigned (c :: cs)).map fun after => (.number (numberText (c :: cs) after), after) := by
  have other : ∀ d : Char, d.isDigit = false → c ≠ d := by
    rintro d none rfl
    rw [digit] at none
    cases none
  have visible : isSpace c = false := by
    simp only [isSpace, Bool.or_eq_false_iff, beq_eq_false_iff_ne]
    exact ⟨⟨⟨other _ rfl, other _ rfl⟩, other _ rfl⟩, other _ rfl⟩
  rw [readValue, skipSpace_visible visible]
  split
  case h_1 same => cases same
  case h_9 same =>
    cases same
    rw [if_pos digit]
  all_goals
    rename_i same
    exact absurd (List.cons.inj same).1 (other _ rfl)

theorem readValue_array {c : Char} {more : List Char} (space : 1 < room)
    (front : skipSpace cs = c :: more) (openItem : c ≠ ']') :
    readValue (fuel + 1) room ('[' :: cs) =
      (readItems fuel (room - 1) cs).map fun (vs, rest) => (.array vs, rest) := by
  rw [← readItems_skipSpace, readValue, skipSpace_visible rfl]
  simp only [Nat.not_le_of_lt space, ↓reduceIte, front]
  split
  · rename_i same
    cases same
  · rename_i same
    cases same
    exact absurd rfl openItem
  · rfl

theorem readValue_object {c : Char} {more : List Char} (space : 1 < room)
    (front : skipSpace cs = c :: more) (openField : c ≠ '\x7d') :
    readValue (fuel + 1) room ('\x7b' :: cs) =
      (readFields fuel (room - 1) (skipSpace cs)).map fun (fs, rest) => (.object fs, rest) := by
  rw [readValue, skipSpace_visible rfl]
  simp only [Nat.not_le_of_lt space, ↓reduceIte, front]
  split
  · rename_i same
    cases same
  · rename_i same
    cases same
    exact absurd rfl openField
  · rfl

variable {v : Value} {rest after : List Char}

theorem readValue_emptyArray (space : 1 < room) (closed : skipSpace cs = ']' :: after) :
    readValue (fuel + 1) room ('[' :: cs) = .ok (.array [], after) := by
  rw [readValue, skipSpace_visible rfl]
  simp only [Nat.not_le_of_lt space, ↓reduceIte, closed]

theorem readValue_emptyObject (space : 1 < room) (closed : skipSpace cs = '\x7d' :: after) :
    readValue (fuel + 1) room ('\x7b' :: cs) = .ok (.object [], after) := by
  rw [readValue, skipSpace_visible rfl]
  simp only [Nat.not_le_of_lt space, ↓reduceIte, closed]

theorem readItems_last (first : readValue fuel room cs = .ok (v, rest))
    (closed : skipSpace rest = ']' :: after) :
    readItems (fuel + 1) room cs = .ok ([v], after) := by
  rw [readItems, first]
  simp only [bind, Except.bind, closed]
  rfl

theorem readItems_more {c : Char} {more : List Char}
    (first : readValue fuel room cs = .ok (v, rest)) (comma : skipSpace rest = ',' :: after)
    (front : skipSpace after = c :: more) (openItem : c ≠ ']') :
    readItems (fuel + 1) room cs =
      (readItems fuel room after).map fun (vs, rest) => (v :: vs, rest) := by
  rw [← readItems_skipSpace fuel room after, readItems, first]
  simp only [bind, Except.bind, comma, front]
  split
  · rename_i same
    cases same
  · rename_i same
    cases same
    exact absurd rfl openItem
  · cases readItems fuel room (c :: more) <;> rfl

variable {name : String} {value : List Char}

theorem readFields_last (named : readName cs = .ok (name, value))
    (first : readValue fuel room value = .ok (v, rest))
    (closed : skipSpace rest = '\x7d' :: after) :
    readFields (fuel + 1) room cs = .ok ([(name, v)], after) := by
  rw [readFields, named]
  simp only [bind, Except.bind, first, closed]
  rfl

theorem readFields_more {c : Char} {more : List Char} (named : readName cs = .ok (name, value))
    (first : readValue fuel room value = .ok (v, rest)) (comma : skipSpace rest = ',' :: after)
    (front : skipSpace after = c :: more) :
    readFields (fuel + 1) room cs =
      (readFields fuel room (skipSpace after)).map fun (fs, rest) => ((name, v) :: fs, rest) := by
  rw [readFields, named]
  simp only [bind, Except.bind, first, comma, front]
  cases readFields fuel room (c :: more) <;> rfl

end Front

/-! The first character of what is written. -/

theorem unsignedText_front {cs : List Char} (text : UnsignedText cs) :
    ∃ d more, cs = d :: more ∧ d.isDigit = true := by
  cases text with
  | mk front middle back finite =>
    cases front with
    | zero => exact ⟨'0', _, rfl, rfl⟩
    | digits other run => exact ⟨_, _, rfl, run.2 _ List.mem_cons_self⟩

theorem readValue_number {cs rest : List Char} (digits : NumberText cs) (ends : Ends rest)
    (fuel room : Nat) :
    readValue (fuel + 1) room (cs ++ rest) = .ok (.number (String.ofList cs), rest) := by
  cases digits with
  | positive digits =>
    obtain ⟨d, more, rfl, digit⟩ := unsignedText_front digits
    rw [List.cons_append, readValue_digit digit, ← List.cons_append, readUnsigned_text digits ends]
    simp only [Except.map, numberText_append]
  | @negative cs digits =>
    have whole : numberText ('-' :: (cs ++ rest)) rest = String.ofList ('-' :: cs) :=
      numberText_append ('-' :: cs) rest
    rw [List.cons_append, readValue, skipSpace_visible rfl]
    simp only [readUnsigned_text digits ends, Except.map, whole]

theorem valueText_front {v : Value} {cs : List Char} (text : ValueText v cs) :
    ∃ c more, cs = c :: more ∧ isSpace c = false ∧ c ≠ ']' := by
  cases text with
  | null | true | false => exact ⟨_, _, rfl, rfl, by decide⟩
  | number digits =>
    cases digits with
    | positive digits =>
      obtain ⟨d, more, rfl, digit⟩ := unsignedText_front digits
      refine ⟨d, more, rfl, ?_, ?_⟩
      · rw [← Bool.not_eq_true]
        intro space
        have ends : endsValue d = true := by rw [endsValue, space]; rfl
        rw [not_digit_of_ends ends] at digit
        cases digit
      · rintro rfl
        cases digit
    | negative digits => exact ⟨_, _, rfl, rfl, by decide⟩
  | string quoted =>
    cases quoted
    exact ⟨_, _, rfl, rfl, by decide⟩
  | emptyArray inside | array inside | emptyObject inside | object inside =>
    exact ⟨_, _, rfl, rfl, by decide⟩

theorem spacedText_front {v : Value} {cs : List Char} (text : SpacedText v cs) (tail : List Char) :
    ∃ c more, skipSpace (cs ++ tail) = c :: more ∧ c ≠ ']' := by
  cases text with
  | @mk _ front _ back before inside after =>
    obtain ⟨c, more, rfl, visible, openItem⟩ := valueText_front inside
    refine ⟨c, more ++ back ++ tail, ?_, openItem⟩
    rw [List.append_assoc, List.cons_append, List.cons_append, skipSpace_upTo before visible]

theorem itemsText_front {vs : List Value} {cs : List Char} (text : ItemsText vs cs)
    (tail : List Char) : ∃ c more, skipSpace (cs ++ tail) = c :: more ∧ c ≠ ']' := by
  cases text with
  | last item => exact spacedText_front item tail
  | more item others =>
    rw [List.append_assoc]
    exact spacedText_front item _

theorem nameText_front {name : String} {cs : List Char} (text : NameText name cs)
    (tail : List Char) : ∃ more, skipSpace (cs ++ tail) = '"' :: more := by
  cases text with
  | @mk front _ back before quoted after =>
    cases quoted with
    | @mk _ cs letters =>
      refine ⟨cs ++ ['"'] ++ back ++ tail, ?_⟩
      rw [List.append_assoc, List.cons_append, List.cons_append, skipSpace_upTo before rfl]

theorem fieldsText_front {fields : List (String × Value)} {cs : List Char}
    (text : FieldsText fields cs) (tail : List Char) :
    ∃ more, skipSpace (cs ++ tail) = '"' :: more := by
  cases text with
  | last named value | more named value others =>
    rw [List.append_assoc]
    exact nameText_front named _

theorem readName_text {name : String} {cs : List Char} (text : NameText name cs)
    (tail : List Char) : readName (skipSpace (cs ++ ':' :: tail)) = .ok (name, tail) := by
  cases text with
  | @mk front _ back before quoted after =>
    cases quoted with
    | @mk _ cs letters =>
      have shape : front ++ ('"' :: (cs ++ ['"']) ++ back) ++ ':' :: tail =
          front ++ '"' :: (cs ++ '"' :: (back ++ ':' :: tail)) := by simp
      have colon : skipSpace (back ++ ':' :: tail) = ':' :: tail := skipSpace_upTo after rfl tail
      rw [shape, skipSpace_upTo before rfl, readName, readText_letters letters]
      simp only [bind, Except.bind, colon]
      rfl

structure Reads (fuel : Nat) : Prop where
  value : ∀ {v cs}, ValueText v cs → ∀ room rest, v.depth < room → 2 * cs.length ≤ fuel →
    Ends rest → readValue fuel room (cs ++ rest) = .ok (v, rest)
  items : ∀ {vs cs}, ItemsText vs cs → ∀ room rest, Value.itemsDepth vs < room →
    2 * cs.length < fuel → readItems fuel room (cs ++ ']' :: rest) = .ok (vs, rest)
  fields : ∀ {fs cs}, FieldsText fs cs → ∀ room rest, Value.fieldsDepth fs < room →
    2 * cs.length < fuel → readFields fuel room (skipSpace (cs ++ '\x7d' :: rest)) = .ok (fs, rest)

namespace Reads

variable {fuel : Nat} (reads : Reads fuel)

include reads

/-- Of a value with blanks around it, those behind it are left. -/
theorem spaced {v : Value} {cs : List Char} (text : SpacedText v cs) (room : Nat)
    (rest : List Char) (flat : v.depth < room) (enough : 2 * cs.length ≤ fuel) (ends : Ends rest) :
    ∃ back, Blanks back ∧ readValue fuel room (cs ++ rest) = .ok (v, back ++ rest) := by
  cases text with
  | @mk _ front cs back before inside after =>
    simp only [List.length_append] at enough
    refine ⟨back, after, ?_⟩
    rw [List.append_assoc, List.append_assoc, ← readValue_skipSpace, skipSpace_blanks before,
      readValue_skipSpace]
    exact reads.value inside room _ flat (by omega) (ends_blanks after ends)

theorem value_succ {v : Value} {cs : List Char} (text : ValueText v cs) (room : Nat)
    (rest : List Char) (flat : v.depth < room) (enough : 2 * cs.length ≤ fuel + 1)
    (ends : Ends rest) :
    readValue (fuel + 1) room (cs ++ rest) = .ok (v, rest) := by
  cases text with
  | null | true | false => rfl
  | number digits => exact readValue_number digits ends fuel room
  | string quoted =>
    cases quoted with
    | mk letters =>
      rw [List.cons_append, List.append_assoc, readValue, skipSpace_visible rfl]
      simp only [List.cons_append, List.nil_append, readText_letters letters]
      rfl
  | emptyArray inside =>
    rw [List.cons_append, List.append_assoc]
    exact readValue_emptyArray flat (skipSpace_upTo inside rfl rest)
  | @array items cs inside =>
    rw [Value.depth] at flat
    obtain ⟨c, more, front, openItem⟩ := itemsText_front inside (']' :: rest)
    have later := reads.items inside (room - 1) rest (by omega) (by simp at enough; omega)
    rw [List.cons_append, List.append_assoc, List.cons_append, List.nil_append,
      readValue_array (by omega) front openItem, later]
    rfl
  | emptyObject inside =>
    rw [List.cons_append, List.append_assoc]
    exact readValue_emptyObject flat (skipSpace_upTo inside rfl rest)
  | @object fields cs inside =>
    rw [Value.depth] at flat
    obtain ⟨more, front⟩ := fieldsText_front inside ('\x7d' :: rest)
    have later := reads.fields inside (room - 1) rest (by omega) (by simp at enough; omega)
    rw [List.cons_append, List.append_assoc, List.cons_append, List.nil_append,
      readValue_object (by omega) front (by decide), later]
    rfl

theorem items_succ {vs : List Value} {cs : List Char} (text : ItemsText vs cs)
    (room : Nat) (rest : List Char) (flat : Value.itemsDepth vs < room)
    (enough : 2 * cs.length < fuel + 1) :
    readItems (fuel + 1) room (cs ++ ']' :: rest) = .ok (vs, rest) := by
  cases text with
  | last item =>
    simp only [Value.itemsDepth] at flat
    obtain ⟨back, blanks, first⟩ := reads.spaced item room (']' :: rest) (by omega)
      (by omega) (ends_cons rfl _)
    exact readItems_last first (skipSpace_upTo blanks rfl rest)
  | @more v vs cs ds item others =>
    simp only [Value.itemsDepth] at flat
    simp only [List.length_append, List.length_cons] at enough
    obtain ⟨back, blanks, first⟩ := reads.spaced item room (',' :: (ds ++ ']' :: rest))
      (by omega) (by omega) (ends_cons rfl _)
    obtain ⟨c, more, front, openItem⟩ := itemsText_front others (']' :: rest)
    rw [List.append_assoc, List.cons_append,
      readItems_more first (skipSpace_upTo blanks rfl _) front openItem,
      reads.items others room rest (by omega) (by omega)]
    rfl

theorem fields_succ {fs : List (String × Value)} {cs : List Char} (text : FieldsText fs cs)
    (room : Nat) (rest : List Char) (flat : Value.fieldsDepth fs < room)
    (enough : 2 * cs.length < fuel + 1) :
    readFields (fuel + 1) room (skipSpace (cs ++ '\x7d' :: rest)) = .ok (fs, rest) := by
  cases text with
  | @last name v ns cs named value =>
    simp only [Value.fieldsDepth] at flat
    simp only [List.length_append, List.length_cons] at enough
    obtain ⟨back, blanks, first⟩ := reads.spaced value room ('\x7d' :: rest) (by omega)
      (by omega) (ends_cons rfl _)
    rw [List.append_assoc, List.cons_append]
    exact readFields_last (readName_text named _) first (skipSpace_upTo blanks rfl rest)
  | @more name v fields ns cs ds named value others =>
    simp only [Value.fieldsDepth] at flat
    simp only [List.length_append, List.length_cons] at enough
    obtain ⟨back, blanks, first⟩ := reads.spaced value room (',' :: (ds ++ '\x7d' :: rest))
      (by omega) (by omega) (ends_cons rfl _)
    obtain ⟨more, front⟩ := fieldsText_front others ('\x7d' :: rest)
    rw [List.append_assoc, List.cons_append, List.append_assoc, List.cons_append,
      readFields_more (readName_text named _) first (skipSpace_upTo blanks rfl _) front,
      reads.fields others room rest (by omega) (by omega)]
    rfl

end Reads

theorem reads_all (fuel : Nat) : Reads fuel := by
  induction fuel with
  | zero =>
    refine ⟨fun text _ _ _ enough _ => ?_, fun _ _ _ _ enough => ?_, fun _ _ _ _ enough => ?_⟩
    · obtain ⟨c, more, rfl, -⟩ := valueText_front text
      simp at enough
    · cases enough
    · cases enough
  | succ fuel ih => exact ⟨ih.value_succ, ih.items_succ, ih.fields_succ⟩

/-- A text that is nested less than 128 deep is read as the value it is a text of. -/
theorem read_text {text : String} {v : Value} (written : IsTextOf text v) (flat : v.depth < 128) :
    ∃ rest, read text = .ok (v, rest) ∧ skipSpace rest = [] := by
  have enough : 2 * text.toList.length ≤ 2 * text.length + 2 := by
    rw [String.length_toList]
    omega
  have nothing : Ends [] := by
    intro c front
    cases front
  obtain ⟨back, blanks, done⟩ := (reads_all _).spaced written 128 [] flat enough nothing
  rw [List.append_nil] at done
  refine ⟨back ++ [], done, ?_⟩
  rw [skipSpace_blanks blanks]
  rfl

end BookmarkSearch.Json
