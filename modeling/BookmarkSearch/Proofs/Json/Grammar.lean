import BookmarkSearch.Json.Reader

/-!
The grammar of JSON texts: how numbers and strings are written, and values with blanks wherever they
may stand.
-/

namespace BookmarkSearch.Json

open Text

/-! Numbers. -/

def Digits (ds : List Char) : Prop := ds ≠ [] ∧ ∀ d ∈ ds, d.isDigit = true

inductive WholeText : List Char → Prop where
  | zero : WholeText ['0']
  | digits {d : Char} {ds : List Char} (front : d ≠ '0') (run : Digits (d :: ds)) :
      WholeText (d :: ds)

inductive FractionText : List Char → List Char → Prop where
  | absent : FractionText [] []
  | digits {ds : List Char} (run : Digits ds) : FractionText ds ('.' :: ds)

inductive ExponentText : Bool → List Char → List Char → Prop where
  | absent : ExponentText false [] []
  | bare {e : Char} {ds : List Char} (mark : e = 'e' ∨ e = 'E') (run : Digits ds) :
      ExponentText false ds (e :: ds)
  | plus {e : Char} {ds : List Char} (mark : e = 'e' ∨ e = 'E') (run : Digits ds) :
      ExponentText false ds (e :: '+' :: ds)
  | minus {e : Char} {ds : List Char} (mark : e = 'e' ∨ e = 'E') (run : Digits ds) :
      ExponentText true ds (e :: '-' :: ds)

def isFinite (whole fraction : List Char) (negative : Bool) (power : List Char) : Bool :=
  let gathered := gatherWhole 0 0 whole
  let gathered := gatherFraction gathered.1 gathered.2 fraction
  let power : Int := naturalOf 10 power
  fitsDouble gathered.1 (if negative then gathered.2 - power else gathered.2 + power)

/-- A number without its sign. What no double can hold is not written. -/
inductive UnsignedText : List Char → Prop where
  | mk {whole fraction power cs ds : List Char} {negative : Bool} (front : WholeText whole)
      (middle : FractionText fraction cs) (back : ExponentText negative power ds)
      (finite : isFinite whole fraction negative power = true) :
      UnsignedText (whole ++ (cs ++ ds))

inductive NumberText : List Char → Prop where
  | positive {cs : List Char} (digits : UnsignedText cs) : NumberText cs
  | negative {cs : List Char} (digits : UnsignedText cs) : NumberText ('-' :: cs)

/-! Strings. -/

def shortEscapes : List (Char × Char) :=
  [('"', '"'), ('\\', '\\'), ('/', '/'), ('b', '\x08'), ('f', '\x0c'), ('n', '\n'), ('r', '\r'),
    ('t', '\t')]

inductive UnitText : Nat → List Char → Prop where
  | mk {a b c d : Char} (digits : [a, b, c, d].all isHexDigit = true) :
      UnitText (naturalOf 16 [a, b, c, d]) [a, b, c, d]

/-- A character and how it is written: as itself, as an escape, or by its code in one unit or in two
surrogates. -/
inductive LetterText : Char → List Char → Prop where
  | plain {c : Char} (visible : 0x20 ≤ c.toNat) (quoteless : c ≠ '"') (slashless : c ≠ '\\') :
      LetterText c [c]
  | short {mark c : Char} (known : (mark, c) ∈ shortEscapes) : LetterText c ['\\', mark]
  | unit {c : Char} {us : List Char} (code : UnitText c.toNat us) : LetterText c ('\\' :: 'u' :: us)
  | pair {c : Char} {high low : Nat} {us vs : List Char} (first : UnitText high us)
      (second : UnitText low vs) (leading : 0xD800 ≤ high ∧ high ≤ 0xDBFF)
      (trailing : 0xDC00 ≤ low ∧ low ≤ 0xDFFF)
      (value : c.toNat = 0x10000 + (high - 0xD800) * 0x400 + (low - 0xDC00)) :
      LetterText c ('\\' :: 'u' :: (us ++ '\\' :: 'u' :: vs))

inductive LettersText : List Char → List Char → Prop where
  | nil : LettersText [] []
  | cons {c : Char} {s us cs : List Char} (first : LetterText c us) (later : LettersText s cs) :
      LettersText (c :: s) (us ++ cs)

inductive StringText : String → List Char → Prop where
  | mk {s cs : List Char} (letters : LettersText s cs) :
      StringText (String.ofList s) ('"' :: (cs ++ ['"']))

/-! Values. -/

def Blanks (cs : List Char) : Prop := cs.all isSpace = true

inductive NameText : String → List Char → Prop where
  | mk {name : String} {front cs back : List Char} (before : Blanks front)
      (quoted : StringText name cs) (after : Blanks back) :
      NameText name (front ++ (cs ++ back))

mutual

inductive ValueText : Value → List Char → Prop where
  | null : ValueText .null ['n', 'u', 'l', 'l']
  | true : ValueText (.bool true) ['t', 'r', 'u', 'e']
  | false : ValueText (.bool false) ['f', 'a', 'l', 's', 'e']
  | number {cs : List Char} (digits : NumberText cs) : ValueText (.number (String.ofList cs)) cs
  | string {s : String} {cs : List Char} (quoted : StringText s cs) : ValueText (.string s) cs
  | emptyArray {cs : List Char} (inside : Blanks cs) : ValueText (.array []) ('[' :: (cs ++ [']']))
  | array {items : List Value} {cs : List Char} (inside : ItemsText items cs) :
      ValueText (.array items) ('[' :: (cs ++ [']']))
  | emptyObject {cs : List Char} (inside : Blanks cs) :
      ValueText (.object []) ('\x7b' :: (cs ++ ['\x7d']))
  | object {fields : List (String × Value)} {cs : List Char} (inside : FieldsText fields cs) :
      ValueText (.object fields) ('\x7b' :: (cs ++ ['\x7d']))

inductive SpacedText : Value → List Char → Prop where
  | mk {v : Value} {front cs back : List Char} (before : Blanks front) (inside : ValueText v cs)
      (after : Blanks back) : SpacedText v (front ++ (cs ++ back))

inductive ItemsText : List Value → List Char → Prop where
  | last {v : Value} {cs : List Char} (item : SpacedText v cs) : ItemsText [v] cs
  | more {v : Value} {vs : List Value} {cs ds : List Char} (item : SpacedText v cs)
      (others : ItemsText vs ds) : ItemsText (v :: vs) (cs ++ ',' :: ds)

inductive FieldsText : List (String × Value) → List Char → Prop where
  | last {name : String} {v : Value} {ns cs : List Char} (named : NameText name ns)
      (value : SpacedText v cs) : FieldsText [(name, v)] (ns ++ ':' :: cs)
  | more {name : String} {v : Value} {fields : List (String × Value)} {ns cs ds : List Char}
      (named : NameText name ns) (value : SpacedText v cs) (others : FieldsText fields ds) :
      FieldsText ((name, v) :: fields) (ns ++ ':' :: (cs ++ ',' :: ds))

end

def IsTextOf (text : String) (v : Value) : Prop := SpacedText v text.toList

/-! Texts without blanks and escapes. -/

def isPlain (c : Char) : Bool := 0x20 ≤ c.toNat && c != '"' && c != '\\'

theorem LettersText.plain {s : List Char} (plain : s.all isPlain = true) : LettersText s s := by
  induction s with
  | nil => exact .nil
  | cons c s ih =>
    rw [List.all_cons, Bool.and_eq_true] at plain
    have first : LetterText c [c] := by
      simp only [isPlain, Bool.and_eq_true, decide_eq_true_eq, bne_iff_ne] at plain
      exact .plain plain.1.1.1 plain.1.1.2 plain.1.2
    exact .cons first (ih plain.2)

theorem StringText.plain (s : String) (plain : s.toList.all isPlain = true) :
    StringText s ('"' :: (s.toList ++ ['"'])) := by
  have written := StringText.mk (LettersText.plain plain)
  rwa [String.ofList_toList] at written

theorem NameText.plain (name : String) (plain : name.toList.all isPlain = true) :
    NameText name ('"' :: (name.toList ++ ['"'])) := by
  have written := @NameText.mk _ [] _ [] rfl (.plain name plain) rfl
  rwa [List.nil_append, List.append_nil] at written

theorem ValueText.spaced {v : Value} {cs : List Char} (inside : ValueText v cs) :
    SpacedText v cs := by
  have written := @SpacedText.mk _ [] _ [] rfl inside rfl
  rwa [List.nil_append, List.append_nil] at written

theorem SpacedText.plain (s : String) (plain : s.toList.all isPlain = true) :
    SpacedText (.string s) ('"' :: (s.toList ++ ['"'])) :=
  (ValueText.string (.plain s plain)).spaced

theorem SpacedText.array {items : List Value} {cs : List Char} (inside : ItemsText items cs) :
    SpacedText (.array items) ('[' :: (cs ++ [']'])) :=
  (ValueText.array inside).spaced

theorem SpacedText.object {fields : List (String × Value)} {cs : List Char}
    (inside : FieldsText fields cs) : SpacedText (.object fields) ('\x7b' :: (cs ++ ['\x7d'])) :=
  (ValueText.object inside).spaced

theorem isTextOf_of_eq {text : String} {v : Value} {cs : List Char} (written : SpacedText v cs)
    (same : text.toList = cs) : IsTextOf text v := by
  rwa [IsTextOf, same]

namespace Value

mutual

def depth : Value → Nat
  | .array items => itemsDepth items + 1
  | .object fields => fieldsDepth fields + 1
  | _ => 0

def itemsDepth : List Value → Nat
  | [] => 0
  | v :: rest => max v.depth (itemsDepth rest)

def fieldsDepth : List (String × Value) → Nat
  | [] => 0
  | (_, v) :: rest => max v.depth (fieldsDepth rest)

end

end Value

end BookmarkSearch.Json
