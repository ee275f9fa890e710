import BookmarkSearch.Toml.Quoted

/-!
Reading a document line by line: headers, keys with values, comments and nothing else. Any mistake
makes the whole document unreadable.
-/

namespace BookmarkSearch.Toml

def maxNesting : Nat := 80

def byteOrderMark : Char := Char.ofNat 0xFEFF

def afterComment? (cs : List Char) : Option (List Char) :=
  let body := cs.takeWhile (· != '\n')
  let rest := cs.dropWhile (· != '\n')
  if body.all isPlain then some rest
  else if body.getLast? = some '\r' ∧ !rest.isEmpty ∧ body.dropLast.all isPlain then some rest
  else none

def endLine? (cs : List Char) : Option (List Char) :=
  match skipGaps cs with
  | [] => some []
  | '#' :: rest => (afterComment? rest).map fun rest => (afterBreak? rest).getD rest
  | cs => afterBreak? cs

def skipFiller : Nat → List Char → Option (List Char)
  | 0, cs => some cs
  | fuel + 1, cs =>
    match skipGaps cs with
    | '#' :: rest => (afterComment? rest).bind (skipFiller fuel)
    | cs =>
      match afterBreak? cs with
      | some rest => skipFiller fuel rest
      | none => some cs

def filler? (cs : List Char) : Option (List Char) := skipFiller (cs.length + 1) cs

def isBareKeyChar (c : Char) : Bool := c.isAlphanum || c == '_' || c == '-'

def readSimpleKey (cs : List Char) : Option (String × List Char) :=
  match cs with
  | '"' :: rest =>
    (readBasic (cs.length + 1) rest).map fun (key, rest) => (String.ofList key, rest)
  | '\'' :: rest => (readLiteral rest).map fun (key, rest) => (String.ofList key, rest)
  | _ =>
    let key := cs.takeWhile isBareKeyChar
    if key.isEmpty then none else some (String.ofList key, cs.dropWhile isBareKeyChar)

def readKey : Nat → List Char → Option (List String × String × List Char)
  | 0, _ => none
  | fuel + 1, cs => do
    let (part, rest) ← readSimpleKey (skipGaps cs)
    match skipGaps rest with
    | '.' :: rest => do
      let (path, key, rest) ← readKey fuel rest
      return (part :: path, key, rest)
    | rest => return ([], part, rest)

def endsScalar (c : Char) : Bool :=
  isGap c || c == '\n' || c == '\r' || c == ',' || c == '[' || c == ']' || c == '\x7b' ||
    c == '\x7d' || c == '#' || c == '=' || c == '"' || c == '\''

/-- An unquoted value. One blank may stand between a date and a time of day. -/
def readScalar (cs : List Char) : Option (Scalar × List Char) :=
  let word := cs.takeWhile (!endsScalar ·)
  let rest := cs.dropWhile (!endsScalar ·)
  match rest with
  | ' ' :: d :: more =>
    if date? word = some [] ∧ d.isDigit then
      let time := (d :: more).takeWhile (!endsScalar ·)
      (scalar? (word ++ ' ' :: time)).map fun s => (s, (d :: more).dropWhile (!endsScalar ·))
    else (scalar? word).map fun s => (s, rest)
  | _ => (scalar? word).map fun s => (s, rest)

mutual

def readValue (fuel room : Nat) (cs : List Char) : Option (Item × List Char) :=
  match fuel with
  | 0 => none
  | fuel + 1 =>
    match cs with
    | '"' :: _ | '\'' :: _ => (readQuoted cs).map fun (s, rest) => (.scalar (.string s), rest)
    | '[' :: rest =>
      match room with
      | 0 => none
      | room + 1 => (readItems fuel room rest).map fun (items, rest) => (.array items, rest)
    | '\x7b' :: rest =>
      match room with
      | 0 => none
      | room + 1 =>
        (readInline fuel room [] rest).map fun (entries, rest) => (.table .inlined entries, rest)
    | cs => (readScalar cs).map fun (s, rest) => (.scalar s, rest)

def readItems (fuel room : Nat) (cs : List Char) : Option (List Item × List Char) :=
  match fuel with
  | 0 => none
  | fuel + 1 => do
    let cs ← filler? cs
    match cs with
    | ']' :: rest => return ([], rest)
    | cs => do
      let (item, rest) ← readValue fuel room cs
      match (← filler? rest) with
      | ']' :: rest => return ([item], rest)
      | ',' :: rest => do
        let (items, rest) ← readItems fuel room rest
        return (item :: items, rest)
      | _ => none

def readInline (fuel room : Nat) (entries : Entries) (cs : List Char) :
    Option (Entries × List Char) :=
  match fuel with
  | 0 => none
  | fuel + 1 => do
    let cs ← filler? cs
    match cs with
    | '\x7d' :: rest => return (entries, rest)
    | cs => do
      let (path, key, rest) ← readKey (cs.length + 1) cs
      match rest with
      | '=' :: rest => do
        let (item, rest) ← readValue fuel room (skipGaps rest)
        let entries ← addDotted item path key entries
        match (← filler? rest) with
        | '\x7d' :: rest => return (entries, rest)
        | ',' :: rest => readInline fuel room entries rest
        | _ => none
      | _ => none

end

structure Draft where
  root : Entries
  path : List String

namespace Draft

def empty : Draft := ⟨[], []⟩

def add (d : Draft) (path : List String) (key : String) (item : Item) : Option Draft :=
  (atPath (addDotted item path key) d.path d.root).map fun root => { d with root := root }

def openTable (d : Draft) (path : List String) (key : String) : Option Draft :=
  (Toml.openTable path key d.root).map fun root => ⟨root, path ++ [key]⟩

def openNext (d : Draft) (path : List String) (key : String) : Option Draft :=
  (Toml.openNext path key d.root).map fun root => ⟨root, path ++ [key]⟩

end Draft

def readLine (d : Draft) (cs : List Char) : Option (Draft × List Char) :=
  match cs with
  | '[' :: '[' :: rest => do
    let (path, key, rest) ← readKey (rest.length + 1) rest
    match rest with
    | ']' :: ']' :: rest => return (← d.openNext path key, ← endLine? rest)
    | _ => none
  | '[' :: rest => do
    let (path, key, rest) ← readKey (rest.length + 1) rest
    match rest with
    | ']' :: rest => return (← d.openTable path key, ← endLine? rest)
    | _ => none
  | cs => do
    let (path, key, rest) ← readKey (cs.length + 1) cs
    match rest with
    | '=' :: rest => do
      let (item, rest) ← readValue (2 * cs.length + 2) maxNesting (skipGaps rest)
      return (← d.add path key item, ← endLine? rest)
    | _ => none

def readLines : Nat → Draft → List Char → Option Draft
  | 0, d, cs => if cs.isEmpty then some d else none
  | fuel + 1, d, cs =>
    match skipGaps cs with
    | [] => some d
    | cs =>
      match endLine? cs with
      | some rest => readLines fuel d rest
      | none => (readLine d cs).bind fun (d, rest) => readLines fuel d rest

/-- The entries of a document, if it can be read. A byte order mark in front is skipped. -/
def read (text : String) : Option Entries :=
  let cs := match text.toList with
    | c :: rest => if c = byteOrderMark then rest else c :: rest
    | [] => []
  (readLines (cs.length + 1) Draft.empty cs).map Draft.root

end BookmarkSearch.Toml
