import BookmarkSearch.Json.Number
import BookmarkSearch.Json.Value

/-!
Reading a JSON value from the start of a text. A text that ends where more must follow is told apart
from one that cannot be continued. Arrays and objects nest less than 128 deep.
-/

namespace BookmarkSearch.Json

open Text

def isSpace (c : Char) : Bool := c == ' ' || c == '\n' || c == '\t' || c == '\r'

def skipSpace (cs : List Char) : List Char := cs.dropWhile isSpace

def readWord : List Char → List Char → Except ReadError (List Char)
  | [], cs => .ok cs
  | _ :: _, [] => .error .incomplete
  | w :: word, c :: cs => if w == c then readWord word cs else .error .malformed

def isShort (cs : List Char) : Bool := (cs.take 4).foldl (fun n c => n + c.utf8Size) 0 < 4

def readUnit (cs : List Char) : Except ReadError (Nat × List Char) :=
  -- Bytes are counted first: too few of them is an early end even if they are no digits.
  if isShort cs then .error .incomplete
  else match cs with
    | a :: b :: c :: d :: rest =>
      if [a, b, c, d].all isHexDigit then .ok (naturalOf 16 [a, b, c, d], rest)
      else .error .malformed
    | _ => .error .malformed

def readLowUnit (cs : List Char) : Except ReadError (Nat × List Char) :=
  match cs with
  | [] => .error .incomplete
  | '\\' :: [] => .error .incomplete
  | '\\' :: 'u' :: rest => do
    let (low, rest) ← readUnit rest
    if 0xDC00 ≤ low ∧ low ≤ 0xDFFF then return (low, rest) else throw .malformed
  | _ => .error .malformed

def readCode (cs : List Char) : Except ReadError (Char × List Char) := do
  let (unit, rest) ← readUnit cs
  if 0xDC00 ≤ unit ∧ unit ≤ 0xDFFF then throw .malformed
  else if 0xD800 ≤ unit ∧ unit ≤ 0xDBFF then
    let (low, rest) ← readLowUnit rest
    return (Char.ofNat (0x10000 + (unit - 0xD800) * 0x400 + (low - 0xDC00)), rest)
  else return (Char.ofNat unit, rest)

def readEscape (cs : List Char) : Except ReadError (Char × List Char) :=
  match cs with
  | [] => .error .incomplete
  | '"' :: rest => .ok ('"', rest)
  | '\\' :: rest => .ok ('\\', rest)
  | '/' :: rest => .ok ('/', rest)
  | 'b' :: rest => .ok ('\x08', rest)
  | 'f' :: rest => .ok ('\x0c', rest)
  | 'n' :: rest => .ok ('\n', rest)
  | 'r' :: rest => .ok ('\r', rest)
  | 't' :: rest => .ok ('\t', rest)
  | 'u' :: rest => readCode rest
  | _ => .error .malformed

def readString : Nat → List Char → Except ReadError (List Char × List Char)
  | 0, _ => .error .incomplete
  | fuel + 1, cs =>
    match cs with
    | [] => .error .incomplete
    | '"' :: rest => .ok ([], rest)
    | '\\' :: rest => do
      let (c, rest) ← readEscape rest
      let (more, rest) ← readString fuel rest
      return (c :: more, rest)
    | c :: rest =>
      if c.toNat < 0x20 then .error .malformed
      else (readString fuel rest).map fun (more, rest) => (c :: more, rest)

def readText (cs : List Char) : Except ReadError (String × List Char) :=
  (readString (cs.length + 1) cs).map fun (s, rest) => (String.ofList s, rest)

def numberText (cs rest : List Char) : String := String.ofList (cs.take (cs.length - rest.length))

def readName (cs : List Char) : Except ReadError (String × List Char) :=
  match cs with
  | '"' :: rest => do
    let (name, rest) ← readText rest
    match skipSpace rest with
    | [] => throw .incomplete
    | ':' :: rest => return (name, rest)
    | _ => throw .malformed
  | _ => .error .malformed

mutual

/-- Reads a value with room for `room` levels, its own included. -/
def readValue (fuel room : Nat) (cs : List Char) : Except ReadError (Value × List Char) :=
  match fuel with
  | 0 => .error .incomplete
  | fuel + 1 =>
    match skipSpace cs with
    | [] => .error .incomplete
    | 'n' :: rest => (readWord ['u', 'l', 'l'] rest).map (.null, ·)
    | 't' :: rest => (readWord ['r', 'u', 'e'] rest).map (.bool true, ·)
    | 'f' :: rest => (readWord ['a', 'l', 's', 'e'] rest).map (.bool false, ·)
    | '"' :: rest => (readText rest).map fun (s, rest) => (.string s, rest)
    | '[' :: rest =>
      if room ≤ 1 then .error .malformed
      else match skipSpace rest with
        | [] => .error .incomplete
        | ']' :: rest => .ok (.array [], rest)
        | rest => (readItems fuel (room - 1) rest).map fun (vs, rest) => (.array vs, rest)
    | '\x7b' :: rest =>
      if room ≤ 1 then .error .malformed
      else match skipSpace rest with
        | [] => .error .incomplete
        | '\x7d' :: rest => .ok (.object [], rest)
        | rest => (readFields fuel (room - 1) rest).map fun (fs, rest) => (.object fs, rest)
    | '-' :: rest =>
      (readUnsigned rest).map fun after => (.number (numberText ('-' :: rest) after), after)
    | c :: rest =>
      if c.isDigit then
        (readUnsigned (c :: rest)).map fun after =>
          (.number (numberText (c :: rest) after), after)
      else .error .malformed

def readItems (fuel room : Nat) (cs : List Char) : Except ReadError (List Value × List Char) :=
  match fuel with
  | 0 => .error .incomplete
  | fuel + 1 => do
    let (v, rest) ← readValue fuel room cs
    match skipSpace rest with
    | [] => throw .incomplete
    | ']' :: rest => return ([v], rest)
    | ',' :: rest =>
      match skipSpace rest with
      | [] => throw .incomplete
      | ']' :: _ => throw .malformed
      | rest => do
        let (vs, rest) ← readItems fuel room rest
        return (v :: vs, rest)
    | _ => throw .malformed

def readFields (fuel room : Nat) (cs : List Char) :
    Except ReadError (List (String × Value) × List Char) :=
  match fuel with
  | 0 => .error .incomplete
  | fuel + 1 => do
    let (name, rest) ← readName cs
    let (v, rest) ← readValue fuel room rest
    match skipSpace rest with
    | [] => throw .incomplete
    | '\x7d' :: rest => return ([(name, v)], rest)
    | ',' :: rest =>
      match skipSpace rest with
      | [] => throw .incomplete
      | rest => do
        let (fs, rest) ← readFields fuel room rest
        return ((name, v) :: fs, rest)
    | _ => throw .malformed

end

/-- The value at the start of a text and what follows it. Every level and every item takes at least
one character, so there is fuel for all of them. -/
def read (text : String) : Except ReadError (Value × List Char) :=
  readValue (2 * text.length + 2) 128 text.toList

end BookmarkSearch.Json
