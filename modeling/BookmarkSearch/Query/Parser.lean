import BookmarkSearch.Query.Expression

/-!
Reading tokens as an expression, by descent through these rules:

    alternatives := conjunction (OR conjunction)*
    conjunction  := factor (AND factor | factor)*
    factor       := NOT factor | ( alternatives ) | TERM

Reading never fails. An operator that stands where a factor is expected and a closing parenthesis
without an opening one are dropped, an operator without a right side keeps its left side, and a
group that is not closed ends with the query. Where parentheses and NOTs together enclose a factor
`limit` times, it is read flat: further opening parentheses are skipped, to be skipped again when
they close, and NOTs count by parity.
-/

namespace BookmarkSearch.Query

/-- What is still to be read, and how many skipped opening parentheses have not closed yet. -/
structure Cursor where
  rest : List Token
  skipped : Nat
deriving DecidableEq, Repr

namespace Cursor

def next (c : Cursor) : Cursor := { c with rest := c.rest.tail }

def atFactor (c : Cursor) : Bool := c.rest.head?.any Token.startsFactor

theorem next_length_le (c : Cursor) : c.next.rest.length ≤ c.rest.length := by
  simp [next]

theorem next_length_lt {c : Cursor} {t : Token} (h : c.rest.head? = some t) :
    c.next.rest.length < c.rest.length := by
  cases hc : c.rest with
  | nil => simp [hc] at h
  | cons _ _ => simp [next, hc]

/-- The cursor behind a closing parenthesis that no group being read owns: it closes a skipped one,
or stands outside all groups. -/
def skipClose? (inGroup : Bool) (c : Cursor) : Option Cursor :=
  if c.rest.head? = some .closeParen then
    if 0 < c.skipped then some ⟨c.rest.tail, c.skipped - 1⟩
    else if inGroup then none
    else some c.next
  else none

theorem skipClose_length {inGroup : Bool} {c d : Cursor} (h : c.skipClose? inGroup = some d) :
    d.rest.length < c.rest.length := by
  unfold skipClose? at h
  split at h
  · rename_i front
    have shorter := next_length_lt front
    split at h
    · cases h; exact shorter
    split at h
    · cases h
    · cases h; exact shorter
  · cases h

end Cursor

/-- The outcome of reading from `start`: a tree, if any term was read, and the cursor behind. -/
structure Reading (start : Cursor) where
  tree : Option Expression
  after : Cursor
  length_le : after.rest.length ≤ start.rest.length

namespace Reading

def since {c : Cursor} (start : Cursor) (r : Reading c)
    (h : c.rest.length ≤ start.rest.length) : Reading start :=
  ⟨r.tree, r.after, Nat.le_trans r.length_le h⟩

def map {c : Cursor} (f : Expression → Expression) (r : Reading c) : Reading c :=
  ⟨r.tree.map f, r.after, r.length_le⟩

def closing {c : Cursor} (r : Reading c) : Reading c :=
  if r.after.rest.head? = some .closeParen then
    ⟨r.tree, r.after.next, Nat.le_trans r.after.next_length_le r.length_le⟩
  else r

end Reading

def combine (join : Expression → Expression → Expression) :
    Option Expression → Option Expression → Option Expression
  | some l, some r => some (join l r)
  | l, none => l
  | none, r => r

/-- A term, or nothing: an operator or a closing parenthesis in its place is dropped, unless the
parenthesis closes the group being read. -/
def readLeaf (inGroup : Bool) (c : Cursor) : Reading c :=
  match c.rest.head? with
  | some (.term text) => ⟨some (.term text), c.next, c.next_length_le⟩
  | some .and | some .or => ⟨none, c.next, c.next_length_le⟩
  | some .closeParen =>
    match h : c.skipClose? inGroup with
    | some d => ⟨none, d, Nat.le_of_lt (Cursor.skipClose_length h)⟩
    | none => ⟨none, c, Nat.le_refl _⟩
  | some .openParen | some .not | none => ⟨none, c, Nat.le_refl _⟩

def skipOpening : List Token → Nat × Nat × List Token
  | .openParen :: rest => let (opens, nots, after) := skipOpening rest; (opens + 1, nots, after)
  | .not :: rest => let (opens, nots, after) := skipOpening rest; (opens, nots + 1, after)
  | rest => (0, 0, rest)

theorem skipOpening_length (tokens : List Token) :
    (skipOpening tokens).2.2.length ≤ tokens.length := by
  fun_induction skipOpening tokens <;> simp_all <;> omega

def readFlat (inGroup : Bool) (c : Cursor) : Reading c :=
  match h : skipOpening c.rest with
  | (opens, nots, after) =>
    let leaf := readLeaf inGroup ⟨after, c.skipped + opens⟩
    let leaf := if nots % 2 = 1 then leaf.map .not else leaf
    leaf.since c (by have := skipOpening_length c.rest; rw [h] at this; exact this)

mutual

def readFactor (limit depth : Nat) (inGroup : Bool) (c : Cursor) : Reading c :=
  if limit ≤ depth then readFlat inGroup c
  else
    match h : c.rest.head? with
    | some .not =>
      have shorter := Cursor.next_length_lt h
      ((readFactor limit (depth + 1) inGroup c.next).map .not).since c (Nat.le_of_lt shorter)
    | some .openParen =>
      have shorter := Cursor.next_length_lt h
      (readAlternatives limit (depth + 1) true c.next).closing.since c (Nat.le_of_lt shorter)
    | _ => readLeaf inGroup c
termination_by 5 * c.rest.length

def readConjuncts (limit depth : Nat) (inGroup : Bool) (tree : Option Expression) (c : Cursor) :
    Reading c :=
  match h : c.rest.head? with
  | some .and =>
    have shorter := Cursor.next_length_lt h
    match readFactor limit depth inGroup c.next with
    | ⟨factor, after, within⟩ =>
      (readConjuncts limit depth inGroup (combine .and tree factor) after).since c (by omega)
  | _ =>
    if c.atFactor then
      match readFactor limit depth inGroup c with
      | ⟨factor, after, within⟩ =>
        -- A factor always takes the token it begins with; the test is there for the recursion.
        if shorter : after.rest.length < c.rest.length then
          (readConjuncts limit depth inGroup (combine .and tree factor) after).since c within
        else ⟨combine .and tree factor, after, within⟩
    else
      match k : c.skipClose? inGroup with
      | some after =>
        have shorter := Cursor.skipClose_length k
        (readConjuncts limit depth inGroup tree after).since c (Nat.le_of_lt shorter)
      | none => ⟨tree, c, Nat.le_refl _⟩
termination_by 5 * c.rest.length + 1

def readConjunction (limit depth : Nat) (inGroup : Bool) (c : Cursor) : Reading c :=
  match readFactor limit depth inGroup c with
  | ⟨factor, after, within⟩ => (readConjuncts limit depth inGroup factor after).since c within
termination_by 5 * c.rest.length + 2

def readDisjuncts (limit depth : Nat) (inGroup : Bool) (tree : Option Expression) (c : Cursor) :
    Reading c :=
  match h : c.rest.head? with
  | some .or =>
    have shorter := Cursor.next_length_lt h
    match readConjunction limit depth inGroup c.next with
    | ⟨right, after, within⟩ =>
      (readDisjuncts limit depth inGroup (combine .or tree right) after).since c (by omega)
  | _ => ⟨tree, c, Nat.le_refl _⟩
termination_by 5 * c.rest.length + 3

def readAlternatives (limit depth : Nat) (inGroup : Bool) (c : Cursor) : Reading c :=
  match readConjunction limit depth inGroup c with
  | ⟨first, after, within⟩ => (readDisjuncts limit depth inGroup first after).since c within
termination_by 5 * c.rest.length + 4

end

/-- Reads on until no token is left, dropping a token where nothing can be read. -/
def readAll (limit : Nat) (tree : Option Expression) (c : Cursor) : Option Expression :=
  match h : c.rest with
  | [] => tree
  | _ :: rest =>
    have shorter : rest.length < c.rest.length := by simp [h]
    match readAlternatives limit 0 false c with
    | ⟨next, after, _⟩ =>
      -- Where nothing could be read, one token is given up and reading starts anew behind it.
      if after.rest.length < c.rest.length then readAll limit (combine .and tree next) after
      else readAll limit (combine .and tree next) ⟨rest, after.skipped⟩
termination_by c.rest.length

def defaultLimit : Nat := 32

/-- The expression that `tokens` stand for, if there is a term among them. A limit of zero counts
as one. -/
def parse (tokens : List Token) (limit : Nat := defaultLimit) : Option Expression :=
  readAll (max limit 1) none ⟨tokens, 0⟩

end BookmarkSearch.Query
