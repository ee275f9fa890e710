import BookmarkSearch.Proofs.Toml.Values

/-!
A document that is written line by line is read line by line: headers and keys without quotes, each
key with a value that ends on its line.
-/

namespace BookmarkSearch.Toml

structure IsBare (key : String) : Prop where
  nonempty : key.toList ≠ []
  plain : ∀ c ∈ key.toList, isBareKeyChar c = true

instance (key : String) : Decidable (IsBare key) :=
  decidable_of_iff (key.toList ≠ [] ∧ key.toList.all isBareKeyChar = true)
    ⟨fun bare => ⟨bare.1, List.all_eq_true.mp bare.2⟩,
      fun bare => ⟨bare.nonempty, List.all_eq_true.mpr bare.plain⟩⟩

theorem IsBare.exists_cons {key : String} (bare : IsBare key) :
    ∃ c tail, key.toList = c :: tail ∧ isBareKeyChar c = true := by
  obtain ⟨c, tail, same⟩ := List.exists_cons_of_ne_nil bare.nonempty
  exact ⟨c, tail, same, bare.plain c (by rw [same]; exact List.mem_cons_self)⟩

theorem visible_of_isBareKeyChar {c : Char} (bare : isBareKeyChar c = true) : isGap c = false := by
  rw [← Bool.not_eq_true]
  intro gap
  simp only [isGap, Bool.or_eq_true, beq_iff_eq] at gap
  rcases gap with rfl | rfl
  all_goals cases bare

theorem readSimpleKey_bare {key : String} (bare : IsBare key) {tail : List Char}
    (ends : ∀ d ∈ tail.head?, isBareKeyChar d = false) :
    readSimpleKey (key.toList ++ tail) = some (key, tail) := by
  have taken : (key.toList ++ tail).takeWhile isBareKeyChar = key.toList :=
    Unicode.takeWhile_run bare.plain ends
  have left : (key.toList ++ tail).dropWhile isBareKeyChar = tail :=
    Unicode.dropWhile_run bare.plain ends
  obtain ⟨c, ks, front, plain⟩ := bare.exists_cons
  unfold readSimpleKey
  split
  · rename_i quote
    rw [front] at quote
    cases quote
    cases plain
  · rename_i quote
    rw [front] at quote
    cases quote
    cases plain
  · simp only [taken, left, List.isEmpty_eq_false_iff.mpr bare.nonempty, Bool.false_eq_true,
      ↓reduceIte, String.ofList_toList]

theorem readKey_bare {key : String} (bare : IsBare key) (fuel : Nat) {tail rest : List Char}
    {c : Char} (ends : ∀ d ∈ tail.head?, isBareKeyChar d = false)
    (after : skipGaps tail = c :: rest) (undotted : c ≠ '.') :
    readKey (fuel + 1) (key.toList ++ tail) = some ([], key, c :: rest) := by
  have visible : skipGaps (key.toList ++ tail) = key.toList ++ tail := by
    obtain ⟨k, ks, front, plain⟩ := bare.exists_cons
    rw [front]
    exact skipGaps_cons (visible_of_isBareKeyChar plain) _
  rw [readKey, visible, readSimpleKey_bare bare ends]
  simp only [Option.bind_eq_bind, Option.bind_some]
  split
  · rename_i dotted
    rw [after] at dotted
    exact absurd (List.cons.inj dotted).1 undotted
  · rw [after]
    rfl

inductive Line where
  | blank
  | header (name : String)
  | entry (key : String) (value : List Char) (item : Item)

namespace Line

def text : Line → List Char
  | blank => ['\n']
  | header name => '[' :: name.toList ++ [']', '\n']
  | entry key value _ => key.toList ++ [' ', '=', ' '] ++ value ++ ['\n']

def extend (d : Draft) : Line → Option Draft
  | blank => some d
  | header name => d.openTable [] name
  | entry key _ item => d.add [] key item

def Legible : Line → Prop
  | blank => True
  | header name => IsBare name
  | entry key value item => IsBare key ∧ Denotes value item

/-- What a line begins with; no byte order mark, in particular. -/
theorem exists_front {l : Line} (legible : l.Legible) : ∃ c tail, l.text = c :: tail ∧
    (c = '\n' ∨ c = '[' ∨ isBareKeyChar c = true) := by
  cases l with
  | blank => exact ⟨_, _, rfl, .inl rfl⟩
  | header name => exact ⟨_, _, rfl, .inr (.inl rfl)⟩
  | entry key value item =>
    obtain ⟨c, tail, front, plain⟩ := legible.1.exists_cons
    exact ⟨c, _, by rw [text, front]; rfl, .inr (.inr plain)⟩

theorem readLine_header {name : String} (bare : IsBare name) (d : Draft) (rest : List Char) :
    readLine d ((header name).text ++ rest) = (d.openTable [] name).map (·, rest) := by
  obtain ⟨c, tail, front, plain⟩ := bare.exists_cons
  have spread : (header name).text ++ rest = '[' :: (name.toList ++ ']' :: '\n' :: rest) := by
    simp [text]
  have key (fuel : Nat) : readKey (fuel + 1) (name.toList ++ ']' :: '\n' :: rest) =
      some ([], name, ']' :: '\n' :: rest) :=
    readKey_bare bare fuel (by simp; decide) rfl (by decide)
  rw [spread, readLine]
  · rw [key]
    cases opened : d.openTable [] name with
    | none => simp [opened]
    | some next => simp [opened, endLine?, skipGaps, isGap, afterBreak?]
  · intro rest double
    rw [front] at double
    cases double
    cases plain

theorem readLine_entry {key : String} {value : List Char} {item : Item} (bare : IsBare key)
    (denotes : Denotes value item) (d : Draft) (rest : List Char) :
    readLine d ((entry key value item).text ++ rest) = (d.add [] key item).map (·, rest) := by
  have spread : (entry key value item).text ++ rest =
      key.toList ++ ' ' :: '=' :: ' ' :: (value ++ '\n' :: rest) := by
    simp [text]
  have name (fuel : Nat) :
      readKey (fuel + 1) (key.toList ++ ' ' :: '=' :: ' ' :: (value ++ '\n' :: rest)) =
        some ([], key, '=' :: ' ' :: (value ++ '\n' :: rest)) :=
    readKey_bare bare fuel (by simp; decide) rfl (by decide)
  have gap : skipGaps (' ' :: (value ++ '\n' :: rest)) = value ++ '\n' :: rest :=
    denotes.visible _
  obtain ⟨c, tail, front, plain⟩ := bare.exists_cons
  rw [spread, readLine]
  · rw [name]
    simp only [Option.bind_eq_bind, Option.bind_some, gap, denotes.reads]
    cases added : d.add [] key item with
    | none => rfl
    | some next => rfl
  · intro rest bracket
    rw [front] at bracket
    obtain ⟨rfl, -⟩ := List.cons.inj bracket
    cases plain
  · intro rest bracket
    rw [front] at bracket
    obtain ⟨rfl, -⟩ := List.cons.inj bracket
    cases plain

theorem endLine?_eq_none {c : Char} (bare : isBareKeyChar c = true) (cs : List Char) :
    endLine? (c :: cs) = none := by
  rw [endLine?, skipGaps_cons (visible_of_isBareKeyChar bare)]
  split
  · rename_i nothing
    cases nothing
  · rename_i comment
    cases comment
    cases bare
  · unfold afterBreak?
    split
    · rename_i lineBreak
      cases lineBreak
      cases bare
    · rename_i lineBreak
      cases lineBreak
      cases bare
    · rfl

theorem readLines_read {d next : Draft} {cs rest : List Char} {c : Char}
    (front : c = '[' ∨ isBareKeyChar c = true) (read : readLine d (c :: cs) = some (next, rest))
    (fuel : Nat) : readLines (fuel + 1) d (c :: cs) = readLines fuel next rest := by
  have visible : skipGaps (c :: cs) = c :: cs := by
    rcases front with rfl | bare
    · exact skipGaps_cons rfl cs
    · exact skipGaps_cons (visible_of_isBareKeyChar bare) cs
  have unended : endLine? (c :: cs) = none := by
    rcases front with rfl | bare
    · rfl
    · exact endLine?_eq_none bare cs
  simp only [readLines, visible, unended, read, Option.bind_some]

theorem readLines_cons {l : Line} (legible : l.Legible) {d next : Draft}
    (extended : l.extend d = some next) (fuel : Nat) (rest : List Char) :
    readLines (fuel + 1) d (l.text ++ rest) = readLines fuel next rest := by
  cases l with
  | blank =>
    cases extended
    rfl
  | header name =>
    have read := readLine_header legible d rest
    rw [show d.openTable [] name = some next from extended] at read
    exact readLines_read (.inl rfl) read fuel
  | entry key value item =>
    have read := readLine_entry legible.1 legible.2 d rest
    rw [show d.add [] key item = some next from extended] at read
    obtain ⟨c, tail, front, plain⟩ := legible.1.exists_cons
    rw [text, front] at read ⊢
    exact readLines_read (.inr plain) read fuel

/-- Reading a document goes from line to line. -/
theorem readLines_flatMap {lines : List Line} {d next : Draft} {fuel : Nat}
    (legible : ∀ l ∈ lines, l.Legible) (extended : lines.foldlM extend d = some next)
    (enough : lines.length ≤ fuel) :
    readLines fuel d (lines.flatMap text) = some next := by
  induction lines generalizing d fuel with
  | nil =>
    cases extended
    cases fuel with
    | zero => rfl
    | succ fuel => rfl
  | cons l lines ih =>
    obtain ⟨fuel, rfl⟩ := Nat.exists_eq_succ_of_ne_zero (Nat.ne_zero_of_lt enough)
    obtain ⟨first, others⟩ := List.forall_mem_cons.mp legible
    rw [List.foldlM_cons] at extended
    obtain ⟨middle, one, more⟩ := Option.bind_eq_some_iff.mp extended
    rw [List.flatMap_cons, readLines_cons first one]
    exact ih others more (Nat.le_of_succ_le_succ enough)

end Line

theorem length_le_flatMap_text {lines : List Line} (legible : ∀ l ∈ lines, l.Legible) :
    lines.length ≤ (lines.flatMap Line.text).length := by
  induction lines with
  | nil => exact Nat.le_refl 0
  | cons l lines ih =>
    obtain ⟨first, others⟩ := List.forall_mem_cons.mp legible
    obtain ⟨c, tail, front, -⟩ := Line.exists_front first
    have fewer := ih others
    rw [List.flatMap_cons, front]
    simp only [List.length_cons, List.length_append]
    omega

/-- A document of legible lines is what its lines make it. -/
theorem read_lines {text : String} {lines : List Line} {d : Draft}
    (written : text.toList = lines.flatMap Line.text) (legible : ∀ l ∈ lines, l.Legible)
    (extended : lines.foldlM Line.extend Draft.empty = some d) : read text = some d.root := by
  have enough : lines.length ≤ (lines.flatMap Line.text).length + 1 :=
    Nat.le_succ_of_le (length_le_flatMap_text legible)
  have whole := Line.readLines_flatMap legible extended enough
  unfold read
  rw [written]
  cases lines with
  | nil => exact congrArg (Option.map Draft.root) whole
  | cons l lines =>
    obtain ⟨c, tail, front, first⟩ := Line.exists_front (legible l List.mem_cons_self)
    have noMark : c ≠ byteOrderMark := by
      rintro rfl
      rcases first with newline | bracket | bare
      · cases newline
      · cases bracket
      · cases bare
    rw [List.flatMap_cons, front] at whole ⊢
    simp only [List.cons_append, if_neg noMark] at whole ⊢
    exact congrArg (Option.map Draft.root) whole

end BookmarkSearch.Toml
