import BookmarkSearch.Regex.Escape

/-!
Sets of characters in brackets: characters, ranges and escapes side by side, sets nested in sets,
and operations between them. Operators bind alike and group to the left.
-/

namespace BookmarkSearch.Regex

open Unicode

/-- A set, and how many levels of brackets, operations and lists of more than one item it has. -/
structure NestedSet where
  set : CodeSet
  depth : Nat

inductive SetOperator where
  | intersection
  | difference
  | symmetricDifference
deriving DecidableEq, Repr

namespace SetOperator

def apply (op : SetOperator) (s t : CodeSet) : CodeSet :=
  match op with
  | .intersection => s.inter t
  | .difference => s.diff t
  | .symmetricDifference => s.symmDiff t

end SetOperator

def deepest (depths : List Nat) : Nat := depths.foldl max 0

namespace NestedSet

def character (c : Char) : NestedSet := ⟨CodeSet.singleton c, 0⟩

def ofItems : List NestedSet → NestedSet
  | [] => ⟨CodeSet.empty, 0⟩
  | [item] => item
  | items => ⟨CodeSet.unionAll (items.map (·.set)), deepest (items.map (·.depth)) + 1⟩

/-- What stands before an operator, applied to what stands behind it. Both are closed under case
first, so that the operation cannot tell letters apart that the pattern does not. -/
def operate (flags : Flags) (left : Option (NestedSet × SetOperator)) (right : NestedSet) :
    NestedSet :=
  match left with
  | none => right
  | some (l, op) =>
    ⟨op.apply (flags.foldSet l.set) (flags.foldSet right.set), max l.depth right.depth + 1⟩

end NestedSet

def asciiClasses : List (String × List (Nat × Nat)) := [
  ("alnum", [(0x30, 0x39), (0x41, 0x5A), (0x61, 0x7A)]),
  ("alpha", [(0x41, 0x5A), (0x61, 0x7A)]),
  ("ascii", [(0x00, 0x7F)]),
  ("blank", [(0x09, 0x09), (0x20, 0x20)]),
  ("cntrl", [(0x00, 0x1F), (0x7F, 0x7F)]),
  ("digit", [(0x30, 0x39)]),
  ("graph", [(0x21, 0x7E)]),
  ("lower", [(0x61, 0x7A)]),
  ("print", [(0x20, 0x7E)]),
  ("punct", [(0x21, 0x2F), (0x3A, 0x40), (0x5B, 0x60), (0x7B, 0x7E)]),
  ("space", [(0x09, 0x0D), (0x20, 0x20)]),
  ("upper", [(0x41, 0x5A)]),
  ("word", [(0x30, 0x39), (0x41, 0x5A), (0x5F, 0x5F), (0x61, 0x7A)]),
  ("xdigit", [(0x30, 0x39), (0x41, 0x46), (0x61, 0x66)])]

/-- A named ASCII class after its opening bracket: whether it is negated, its set, and what follows.
Anything that does not have the form of one is a nested set. -/
def asciiClass? (cs : List Char) : Option (Bool × CodeSet × List Char) :=
  match cs with
  | ':' :: rest =>
    let (negated, named) := match rest with
      | '^' :: after => (true, after)
      | _ => (false, rest)
    let name := named.takeWhile (· != ':')
    match named.dropWhile (· != ':') with
    | ':' :: ']' :: after =>
      (asciiClasses.lookup (String.ofList name)).map fun spans => (negated, ⟨spans⟩, after)
    | _ => none
  | _ => none

def readSetAtom (flags : Flags) : List Char → Option (Atom × List Char)
  | '\\' :: rest => readEscape flags rest
  | c :: rest => some (.literal c false, rest)
  | [] => none

def atomSet? (flags : Flags) : Atom → Option CodeSet
  | .literal c _ => flags.admit? (CodeSet.singleton c)
  | .set s => some s
  | .place _ => none

/-- A range, or a single character or escape. A hyphen before the closing bracket or before another
hyphen does not make a range. -/
def readSetItem (flags : Flags) (cs : List Char) : Option (NestedSet × List Char) := do
  let (first, after) ← readSetAtom flags cs
  let single (rest : List Char) : Option (NestedSet × List Char) :=
    (atomSet? flags first).map fun s => (⟨s, 0⟩, rest)
  match skipSpace flags after with
  | [] => none
  | '-' :: rest =>
    let next := peekPast flags rest
    if next == some ']' || next == some '-' then single ('-' :: rest)
    else
      let (second, after) ← readSetAtom flags (skipSpace flags rest)
      match first, second with
      | .literal lo _, .literal hi _ =>
        guard (lo ≤ hi)
        let set ← flags.admit? ⟨[(lo.toNat, hi.toNat)]⟩
        return (⟨set, 0⟩, after)
      | _, _ => none
  | rest => single rest

def leadingHyphens (flags : Flags) : Nat → List Char → List NestedSet × List Char
  | 0, cs => ([], cs)
  | fuel + 1, cs =>
    match cs with
    | '-' :: rest =>
      let (items, after) := leadingHyphens flags fuel (skipSpace flags rest)
      (NestedSet.character '-' :: items, after)
    | _ => ([], cs)

mutual

/-- Reads a set after its opening bracket. A closing bracket in the first place stands for
itself. -/
def readBracket (flags : Flags) : Nat → List Char → Option (NestedSet × List Char)
  | 0, _ => none
  | fuel + 1, cs => do
    let (negated, cs) := match skipSpace flags cs with
      | '^' :: rest => (true, skipSpace flags rest)
      | cs => (false, cs)
    let (items, cs) := leadingHyphens flags cs.length cs
    let (items, cs) := match items, cs with
      | [], ']' :: rest => ([NestedSet.character ']'], skipSpace flags rest)
      | _, _ => (items, cs)
    let (content, after) ← readSetItems flags fuel none items.reverse cs
    let set ← flags.finishSet? negated content.set
    return (⟨set, content.depth + 1⟩, after)

/-- Reads on to the closing bracket. `left` is what stands before the last operator, and `items`
what has been read since, last item first. -/
def readSetItems (flags : Flags) :
    Nat → Option (NestedSet × SetOperator) → List NestedSet → List Char →
      Option (NestedSet × List Char)
  | 0, _, _, _ => none
  | fuel + 1, left, items, cs =>
    let operand := NestedSet.operate flags left (NestedSet.ofItems items.reverse)
    match skipSpace flags cs with
    | [] => none
    | ']' :: rest => some (operand, rest)
    | '&' :: '&' :: rest => readSetItems flags fuel (some (operand, .intersection)) [] rest
    | '-' :: '-' :: rest => readSetItems flags fuel (some (operand, .difference)) [] rest
    | '~' :: '~' :: rest => readSetItems flags fuel (some (operand, .symmetricDifference)) [] rest
    | '[' :: rest =>
      match asciiClass? rest with
      | some (negated, set, after) => do
        let set ← flags.finishSet? negated set
        readSetItems flags fuel left (⟨set, 0⟩ :: items) after
      | none => do
        let (item, after) ← readBracket flags fuel rest
        readSetItems flags fuel left (item :: items) after
    | cs => do
      let (item, after) ← readSetItem flags cs
      readSetItems flags fuel left (item :: items) after

end

end BookmarkSearch.Regex
