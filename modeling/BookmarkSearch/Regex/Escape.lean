import BookmarkSearch.Regex.Cursor
import BookmarkSearch.Text.Basic

/-!
Escapes: what a backslash and the characters after it stand for.
-/

namespace BookmarkSearch.Regex

open Text Unicode

/-- The smallest parts of a pattern. `byte` tells a character that was written as two hexadecimal
digits, which without Unicode would be a byte. -/
inductive Atom where
  | literal (c : Char) (byte : Bool)
  | set (s : CodeSet)
  | place (p : Place)

def charOfNumber? (n : Nat) : Option Char := if n.isValidChar then some (Char.ofNat n) else none

def readHexDigits (flags : Flags) : Nat → List Char → Option (List Char × List Char)
  | 0, cs => some ([], cs)
  | count + 1, c :: rest =>
    if isHexDigit c then
      (readHexDigits flags count (skipSpace flags rest)).map fun (ds, after) => (c :: ds, after)
    else none
  | _ + 1, [] => none

def readBraced (flags : Flags) : Nat → List Char → Option (List Char × List Char)
  | 0, _ => none
  | fuel + 1, cs =>
    match skipSpace flags cs with
    | [] => none
    | '\x7d' :: rest => some ([], rest)
    | c :: rest => (readBraced flags fuel rest).map fun (inner, after) => (c :: inner, after)

def readHex (flags : Flags) (count : Nat) (cs : List Char) : Option (Atom × List Char) :=
  match skipSpace flags cs with
  | [] => none
  | '\x7b' :: rest => do
    let (ds, after) ← readBraced flags (rest.length + 1) rest
    guard (!ds.isEmpty && ds.all isHexDigit)
    let c ← charOfNumber? (naturalOf 16 ds)
    return (.literal c false, skipSpace flags after)
  | cs => do
    let (ds, after) ← readHexDigits flags count cs
    let c ← charOfNumber? (naturalOf 16 ds)
    return (.literal c (count == 2), after)

def splitAtWord (mark : List Char) : List Char → Option (List Char × List Char)
  | [] => none
  | c :: rest =>
    match dropWord? mark (c :: rest) with
    | some after => some ([], after)
    | none => (splitAtWord mark rest).map fun (before, after) => (c :: before, after)

def propertySet? (inner : List Char) : Option (CodeSet × Bool) :=
  match splitAtWord ['!', '='] inner with
  | some (name, value) => (valued? name value).map (·, true)
  | none =>
    match splitAtWord [':'] inner with
    | some (name, value) => (valued? name value).map (·, false)
    | none =>
      match splitAtWord ['='] inner with
      | some (name, value) => (valued? name value).map (·, false)
      | none => (named? inner).map (·, false)

def readQuery (flags : Flags) (cs : List Char) : Option ((CodeSet × Bool) × List Char) :=
  match skipSpace flags cs with
  | [] => none
  | '\\' :: _ => none
  | '\x7b' :: rest =>
    (readBraced flags (rest.length + 1) rest).bind fun (inner, after) =>
      (propertySet? inner).map fun found => (found, after)
  | c :: rest => (named? [c]).map fun set => ((set, false), skipSpace flags rest)

def readProperty (flags : Flags) (negated : Bool) (cs : List Char) : Option (Atom × List Char) := do
  guard flags.unicode
  let ((set, reversed), after) ← readQuery flags cs
  let set ← flags.finishSet? (negated != reversed) set
  return (.set set, after)

def shorthand (flags : Flags) (letter : Char) : CodeSet :=
  if flags.unicode then
    if letter == 'd' then digits else if letter == 's' then spaces else wordChars
  else if letter == 'd' then ⟨[(0x30, 0x39)]⟩
  else if letter == 's' then ⟨[(0x9, 0xD), (0x20, 0x20)]⟩
  else ⟨[(0x30, 0x39), (0x41, 0x5A), (0x5F, 0x5F), (0x61, 0x7A)]⟩

def readShorthand (flags : Flags) (letter : Char) (rest : List Char) : Option (Atom × List Char) :=
  let set := shorthand flags letter.toLower
  (flags.admit? (if letter.isUpper then set.complement else set)).map fun s => (.set s, rest)

def edgeOfName? (name : List Char) : Option WordEdge :=
  if name = ['s', 't', 'a', 'r', 't'] then some .start
  else if name = ['e', 'n', 'd'] then some .stop
  else if name = "start-half".toList then some .startHalf
  else if name = "end-half".toList then some .stopHalf
  else none

def isEdgeNameChar (c : Char) : Bool := c.isAlpha || c == '-'

/-- After the escape for a word boundary: the name of a kind of boundary in braces, if that is what
follows. A brace that no such name follows belongs to a repetition. -/
def readEdge (flags : Flags) (cs : List Char) : Option (WordEdge × List Char) :=
  match cs with
  | '\x7b' :: rest =>
    match skipSpace flags rest with
    | [] => none
    | c :: _ =>
      if isEdgeNameChar c then do
        let (name, after) ← readBraced flags (rest.length + 1) rest
        return (← edgeOfName? name, after)
      else some (.boundary, cs)
  | _ => some (.boundary, cs)

def controlChar? : Char → Option Char
  | 'a' => some '\x07'
  | 'f' => some '\x0c'
  | 't' => some '\t'
  | 'n' => some '\n'
  | 'r' => some '\r'
  | 'v' => some '\x0b'
  | _ => none

/-- ASCII characters other than letters and digits stand for themselves after a backslash, but for
the two angle brackets. -/
def standsForItself (c : Char) : Bool :=
  c.toNat < 128 && !c.isAlphanum && c != '<' && c != '>'

def readEscape (flags : Flags) (cs : List Char) : Option (Atom × List Char) :=
  let place (p : Place) (rest : List Char) := some (Atom.place p, rest)
  match cs with
  | [] => none
  | c :: rest =>
    if c == 'x' then readHex flags 2 rest
    else if c == 'u' then readHex flags 4 rest
    else if c == 'U' then readHex flags 8 rest
    else if c == 'p' || c == 'P' then readProperty flags (c == 'P') rest
    else if ['d', 's', 'w'].contains c.toLower then readShorthand flags c rest
    else if standsForItself c then some (.literal c false, rest)
    else if c == 'A' then place .textStart rest
    else if c == 'z' then place .textEnd rest
    else if c == 'b' then
      (readEdge flags rest).map fun (edge, after) => (.place (.word edge flags.unicode), after)
    else if c == 'B' then place (.word .noBoundary flags.unicode) rest
    else if c == '<' then place (.word .start flags.unicode) rest
    else if c == '>' then place (.word .stop flags.unicode) rest
    else (controlChar? c).map fun c => (.literal c false, rest)

end BookmarkSearch.Regex
