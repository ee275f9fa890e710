import BookmarkSearch.Regex.Bracket
import BookmarkSearch.Regex.Cost
import BookmarkSearch.Unicode.Alphanumeric

/-!
Reading the text of a regular expression. The reader goes through the text once. It keeps the
groups that are open, the finished branches of the innermost one, and the pieces of the branch
being read. Flags that are set inside a group hold until the group ends.
-/

namespace BookmarkSearch.Regex

open Unicode

inductive RegexError where
  | malformed
  | tooBig
deriving DecidableEq, Repr

def maxDepth : Nat := 250

/-- A part of a pattern and the levels in it. Setting flags is a part too, but it cannot be
repeated. -/
structure Piece where
  pattern : Pattern
  depth : Nat
  repeatable : Bool

namespace Piece

def simple (p : Pattern) : Piece := ⟨p, 0, true⟩

def flagChange : Piece := ⟨.empty, 0, false⟩

/-- How deep a sequence or a choice is: as deep as its only part, or one level more than its
deepest. -/
def depthOf : List Piece → Nat
  | [] => 0
  | [p] => p.depth
  | ps => deepest (ps.map (·.depth)) + 1

def ofBranch (pieces : List Piece) : Piece :=
  ⟨Pattern.seqAll (pieces.reverse.map (·.pattern)), depthOf pieces, true⟩

def ofBranches (branches : List Piece) : Piece :=
  ⟨Pattern.altAll (branches.reverse.map (·.pattern)), depthOf branches, true⟩

end Piece

structure Frame where
  branches : List Piece
  pieces : List Piece
  flags : Flags
  captures : Bool

structure State where
  frames : List Frame
  branches : List Piece
  pieces : List Piece
  flags : Flags
  names : List (List Char)

namespace State

def initial : State := ⟨[], [], [], Flags.initial, []⟩

def push (s : State) (p : Piece) : State := { s with pieces := p :: s.pieces }

def endBranch (s : State) : State :=
  { s with branches := Piece.ofBranch s.pieces :: s.branches, pieces := [] }

def group (s : State) : Piece := Piece.ofBranches s.endBranch.branches

def openGroup (s : State) (flags : Flags) (captures : Bool) : State :=
  { s with
    frames := ⟨s.branches, s.pieces, s.flags, captures⟩ :: s.frames
    branches := []
    pieces := []
    flags := flags }

def closeGroup? (s : State) : Option State :=
  match s.frames with
  | [] => none
  | frame :: frames =>
    let inner := s.group
    let pattern := if frame.captures then .capture inner.pattern else inner.pattern
    some { s with
      frames := frames
      branches := frame.branches
      pieces := ⟨pattern, inner.depth + 1, true⟩ :: frame.pieces
      flags := frame.flags }

def repeatLast? (s : State) (least : Nat) (most : Option Nat) : Option State :=
  match s.pieces with
  | [] => none
  | p :: rest =>
    if p.repeatable then
      some { s with pieces := ⟨p.pattern.times least most, p.depth + 1, true⟩ :: rest }
    else none

end State

/-- A question mark after a repetition makes it lazy, which changes no answer. -/
def dropLazy : List Char → List Char
  | '?' :: rest => rest
  | cs => cs

def takeDigits (flags : Flags) : Nat → List Char → List Char × List Char
  | 0, cs => ([], cs)
  | fuel + 1, cs =>
    match cs with
    | c :: rest =>
      if c.isDigit then
        let (ds, after) := takeDigits flags fuel (skipSpace flags rest)
        (c :: ds, after)
      else ([], cs)
    | [] => ([], [])

def readCount (flags : Flags) (cs : List Char) : Option (Nat × List Char) :=
  -- Blanks around a count are allowed even where spaces are not skipped.
  let (ds, after) := takeDigits flags cs.length (cs.dropWhile isBlank)
  let n := Text.naturalOf 10 ds
  if ds.isEmpty || UInt32.size ≤ n then none else some (n, after.dropWhile isBlank)

def readBounds (flags : Flags) (cs : List Char) : Option (Nat × Option Nat × List Char) := do
  let (least, after) ← readCount flags (skipSpace flags cs)
  match after with
  | '\x7d' :: rest => return (least, some least, rest)
  | ',' :: rest =>
    match skipSpace flags rest with
    | '\x7d' :: rest => return (least, none, rest)
    | rest =>
      let (most, after) ← readCount flags rest
      match after with
      | '\x7d' :: rest =>
        guard (least ≤ most)
        return (least, some most, rest)
      | _ => none
  | _ => none

inductive GroupHead where
  | flagChange (flags : Flags)
  | group (flags : Flags) (name : Option (List Char)) (captures : Bool)

/-- Reads flags up to a colon or the closing parenthesis, and says which of the two came. None may
be given twice, and a minus sign needs a flag behind it. -/
def readFlags (flags : Flags) (on : Bool) (seen : List Char) :
    List Char → Option (Flags × Bool × List Char)
  | [] => none
  | c :: rest =>
    if c == ':' || c == ')' then
      if seen.head? = some '-' || (c == ')' && seen.isEmpty) then none
      else some (flags, c == ')', rest)
    else if seen.contains c then none
    else if c == '-' then readFlags flags false (c :: seen) rest
    else (flags.set? c on).bind fun flags => readFlags flags on (c :: seen) rest

def isNameStart (c : Char) : Bool :=
  c == '_' || ((binaryProperty? "alphabetic").getD CodeSet.empty).has c

def isNameChar (c : Char) : Bool :=
  c == '_' || c == '.' || c == '[' || c == ']' || isAlphanumeric c

def readName (cs : List Char) : Option (List Char × List Char) :=
  let name := cs.takeWhile (· != '>')
  match name, cs.dropWhile (· != '>') with
  | c :: more, _ :: after =>
    if isNameStart c && more.all isNameChar then some (name, after) else none
  | _, _ => none

def looksAround (cs : List Char) : Bool :=
  [['?', '='], ['?', '!'], ['?', '<', '='], ['?', '<', '!']].any fun mark =>
    (dropWord? mark cs).isSome

def readGroupHead (flags : Flags) (cs : List Char) : Option (GroupHead × List Char) :=
  let cs := skipSpace flags cs
  if looksAround cs then none
  else
    match dropWord? ['?', 'P', '<'] cs <|> dropWord? ['?', '<'] cs with
    | some rest => (readName rest).map fun (name, after) => (.group flags (some name) true, after)
    | none =>
      match cs with
      | '?' :: rest =>
        (readFlags flags true [] rest).map fun (inner, closed, after) =>
          (if closed then .flagChange inner else .group inner none false, after)
      | _ => some (.group flags none true, cs)

def literalPattern? (flags : Flags) (c : Char) (byte : Bool) : Option Pattern :=
  if flags.unicode then
    some (.oneOf (if flags.ignoreCase then CodeSet.variantsOf c else CodeSet.singleton c))
  else if byte && 128 ≤ c.toNat then none
  else
    some (.oneOf (if flags.ignoreCase then (CodeSet.singleton c).asciiCaseClosure
      else CodeSet.singleton c))

def dotPattern? (flags : Flags) : Option Pattern :=
  if !flags.unicode then none
  else if flags.dotAll then some (.oneOf CodeSet.all)
  else if flags.crlf then some (.oneOf (CodeSet.complement ⟨[(0xA, 0xA), (0xD, 0xD)]⟩))
  else some (.oneOf (CodeSet.singleton '\n').complement)

def lineStartPattern (flags : Flags) : Pattern :=
  .place (if flags.multiLine then .lineStart flags.crlf else .textStart)

def lineEndPattern (flags : Flags) : Pattern :=
  .place (if flags.multiLine then .lineEnd flags.crlf else .textEnd)

def atomPattern? (flags : Flags) : Atom → Option Pattern
  | .literal c byte => literalPattern? flags c byte
  | .set s => some (.oneOf s)
  | .place p => some (.place p)

def readPart (s : State) (c : Char) (rest : List Char) : Option (State × List Char) :=
  let simple (p : Option Pattern) (rest : List Char) : Option (State × List Char) :=
    p.map fun p => (s.push (Piece.simple p), rest)
  match c with
  | '(' =>
    (readGroupHead s.flags rest).bind fun
      | (.flagChange flags, after) =>
        some ({ s with flags := flags }.push Piece.flagChange, after)
      | (.group flags none captures, after) => some (s.openGroup flags captures, after)
      | (.group flags (some name) captures, after) =>
        if s.names.contains name then none
        else some ({ s with names := name :: s.names }.openGroup flags captures, after)
  | ')' => s.closeGroup?.map fun s => (s, rest)
  | '|' => some (s.endBranch, rest)
  | '[' =>
    (readBracket s.flags (rest.length + 1) rest).map fun (found, after) =>
      (s.push ⟨.oneOf found.set, found.depth, true⟩, after)
  | '?' => (s.repeatLast? 0 (some 1)).map fun s => (s, dropLazy rest)
  | '*' => (s.repeatLast? 0 none).map fun s => (s, dropLazy rest)
  | '+' => (s.repeatLast? 1 none).map fun s => (s, dropLazy rest)
  | '\x7b' =>
    (readBounds s.flags rest).bind fun (least, most, after) =>
      (s.repeatLast? least most).map fun t => (t, dropLazy (skipSpace s.flags after))
  | '\\' =>
    (readEscape s.flags rest).bind fun (atom, after) => simple (atomPattern? s.flags atom) after
  | '.' => simple (dotPattern? s.flags) rest
  | '^' => simple (some (lineStartPattern s.flags)) rest
  | '$' => simple (some (lineEndPattern s.flags)) rest
  | c => simple (literalPattern? s.flags c false) rest

/-- Reads to the end. Every part takes at least one character, so `fuel` need not be larger than
the number of characters. -/
def readParts : Nat → State → List Char → Option State
  | fuel, s, cs =>
    match skipSpace s.flags cs with
    | [] => some s
    | c :: rest =>
      match fuel with
      | 0 => none
      | fuel + 1 => (readPart s c rest).bind fun (s, after) => readParts fuel s after

def compile (text : String) : Except RegexError Pattern :=
  let cs := text.toList
  match readParts cs.length State.initial cs with
  | none => .error .malformed
  | some s =>
    -- What is left over at the end is the outermost group, and it must be the only one open.
    let whole := s.group
    if !s.frames.isEmpty || maxDepth < whole.depth then .error .malformed
    else if costLimit < whole.pattern.cost then .error .tooBig
    else .ok whole.pattern

end BookmarkSearch.Regex
