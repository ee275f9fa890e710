import BookmarkSearch.Toml.Scalar

/-!
Strings in documents. Between double quotes escapes are read, between single quotes nothing is.
Tripled quotes let a string go over several lines, and a line break right after them is left out.
-/

namespace BookmarkSearch.Toml

open Text

def isPlain (c : Char) : Bool := c == '\t' || (0x20 ≤ c.toNat && c.toNat != 0x7F)

def isGap (c : Char) : Bool := c == ' ' || c == '\t'

def skipGaps (cs : List Char) : List Char := cs.dropWhile isGap

def afterBreak? : List Char → Option (List Char)
  | '\n' :: rest => some rest
  | '\r' :: '\n' :: rest => some rest
  | _ => none

def readCode (count : Nat) (cs : List Char) : Option (Char × List Char) :=
  let ds := cs.take count
  let n := naturalOf 16 ds
  if ds.length = count ∧ ds.all isHexDigit ∧ n.isValidChar then some (Char.ofNat n, cs.drop count)
  else none

def readEscape (cs : List Char) : Option (Char × List Char) :=
  match cs with
  | 'b' :: rest => some ('\x08', rest)
  | 't' :: rest => some ('\t', rest)
  | 'n' :: rest => some ('\n', rest)
  | 'f' :: rest => some ('\x0c', rest)
  | 'r' :: rest => some ('\r', rest)
  | 'e' :: rest => some ('\x1b', rest)
  | '"' :: rest => some ('"', rest)
  | '\\' :: rest => some ('\\', rest)
  | 'x' :: rest => readCode 2 rest
  | 'u' :: rest => readCode 4 rest
  | 'U' :: rest => readCode 8 rest
  | _ => none

def readBasic : Nat → List Char → Option (List Char × List Char)
  | 0, _ => none
  | fuel + 1, cs =>
    match cs with
    | [] => none
    | '"' :: rest => some ([], rest)
    | '\\' :: rest => do
      let (c, rest) ← readEscape rest
      let (more, rest) ← readBasic fuel rest
      return (c :: more, rest)
    | c :: rest =>
      if isPlain c then (readBasic fuel rest).map fun (more, rest) => (c :: more, rest) else none

def readLiteral : List Char → Option (List Char × List Char)
  | [] => none
  | c :: rest =>
    if c == '\'' then some ([], rest)
    else if isPlain c then (readLiteral rest).map fun (more, rest) => (c :: more, rest)
    else none

def countQuotes (quote : Char) (cs : List Char) : Nat := (cs.takeWhile (· == quote)).length

/-- Where three quotes or more stand in front, the string ends: up to two of them still belong to
it. The result is these, and what follows the string. -/
def closeTripled? (quote : Char) (cs : List Char) : Option (List Char × List Char) :=
  let n := countQuotes quote cs
  if 3 ≤ n then some (List.replicate (n - 3) quote, cs.drop n) else none

def afterFold? (cs : List Char) : Option (List Char) :=
  (afterBreak? (skipGaps cs)).map fun rest =>
    rest.dropWhile fun c => isGap c || c == '\n' || c == '\r'

def readTripledBasic : Nat → List Char → Option (List Char × List Char)
  | 0, _ => none
  | fuel + 1, cs =>
    match closeTripled? '"' cs with
    | some (ending, rest) => if ending.length ≤ 2 then some (ending, rest) else none
    | none =>
      match cs with
      | [] => none
      | '\\' :: rest =>
        match afterFold? rest with
        | some rest => readTripledBasic fuel rest
        | none => do
          let (c, rest) ← readEscape rest
          let (more, rest) ← readTripledBasic fuel rest
          return (c :: more, rest)
      | '\n' :: rest => (readTripledBasic fuel rest).map fun (more, rest) => ('\n' :: more, rest)
      | '\r' :: '\n' :: rest =>
        (readTripledBasic fuel rest).map fun (more, rest) => ('\n' :: more, rest)
      | c :: rest =>
        if isPlain c then
          (readTripledBasic fuel rest).map fun (more, rest) => (c :: more, rest)
        else none

def readTripledLiteral : Nat → List Char → Option (List Char × List Char)
  | 0, _ => none
  | fuel + 1, cs =>
    match closeTripled? '\'' cs with
    | some (ending, rest) => if ending.length ≤ 2 then some (ending, rest) else none
    | none =>
      match cs with
      | [] => none
      | '\n' :: rest => (readTripledLiteral fuel rest).map fun (more, rest) => ('\n' :: more, rest)
      | '\r' :: '\n' :: rest =>
        (readTripledLiteral fuel rest).map fun (more, rest) => ('\n' :: more, rest)
      | c :: rest =>
        if isPlain c then
          (readTripledLiteral fuel rest).map fun (more, rest) => (c :: more, rest)
        else none

def withoutFirstBreak (cs : List Char) : List Char := (afterBreak? cs).getD cs

def readQuoted (cs : List Char) : Option (String × List Char) :=
  let fuel := cs.length + 1
  let found := match cs with
    | '"' :: '"' :: '"' :: rest => readTripledBasic fuel (withoutFirstBreak rest)
    | '\'' :: '\'' :: '\'' :: rest => readTripledLiteral fuel (withoutFirstBreak rest)
    | '"' :: rest => readBasic fuel rest
    | '\'' :: rest => readLiteral rest
    | _ => none
  found.map fun (s, rest) => (String.ofList s, rest)

/-! Writing. The first form in this order is taken that needs no escapes: double quotes, single
quotes, three double quotes, three single quotes. If none does, double quotes are taken, tripled
where the string has a line break. -/

/-- The longest run of `quote` in a text; `now` is the length of the run being counted. -/
def longestRun (quote : Char) (now : Nat) : List Char → Nat
  | [] => now
  | c :: rest =>
    if c == quote then longestRun quote (now + 1) rest else max now (longestRun quote 0 rest)

def needsCode (c : Char) : Bool :=
  (c.toNat < 0x20 && c != '\t' && c != '\n') || c.toNat == 0x7F

def upperHex (n : Nat) : List Char := (Nat.toDigits 16 n).map Char.toUpper

def codeEscape (c : Char) : List Char :=
  let ds := upperHex c.toNat
  '\\' :: 'u' :: List.replicate (4 - ds.length) '0' ++ ds

def escapeOf? (tripled : Bool) (c : Char) : Option (List Char) :=
  if c == '\x08' then some ['\\', 'b']
  else if c == '\t' then some ['\\', 't']
  else if c == '\n' then (if tripled then none else some ['\\', 'n'])
  else if c == '\x0c' then some ['\\', 'f']
  else if c == '\r' then some ['\\', 'r']
  else if c == '\\' then some ['\\', '\\']
  else if needsCode c then some (codeEscape c)
  else none

/-- The content of double quotes. Within three, two quotes may stand side by side, and a third is
escaped; `run` is the number of unescaped quotes just before. -/
def writeBasic (tripled : Bool) (run : Nat) : List Char → List Char
  | [] => []
  | c :: rest =>
    if c == '"' then
      if tripled ∧ run < 2 then '"' :: writeBasic tripled (run + 1) rest
      else '\\' :: '"' :: writeBasic tripled 0 rest
    else match escapeOf? tripled c with
      | some escape => escape ++ writeBasic tripled 0 rest
      | none => c :: writeBasic tripled 0 rest

def writeQuoted (s : List Char) : List Char :=
  let doubles := longestRun '"' 0 s
  let singles := longestRun '\'' 0 s
  let codes := s.any needsCode
  let slashes := s.contains '\\'
  let breaks := s.contains '\n'
  let opening := if breaks then ['\n'] else []
  let three (quote : Char) := [quote, quote, quote]
  let basic := '"' :: writeBasic false 0 s ++ ['"']
  let tripledBasic := three '"' ++ opening ++ writeBasic true 0 s ++ three '"'
  if !codes && !slashes && doubles == 0 && !breaks then basic
  else if !codes && singles == 0 && !breaks then '\'' :: s ++ ['\'']
  else if !codes && !slashes && doubles ≤ 2 then tripledBasic
  else if !codes && singles ≤ 2 then three '\'' ++ opening ++ s ++ three '\''
  else if breaks then tripledBasic
  else basic

end BookmarkSearch.Toml
