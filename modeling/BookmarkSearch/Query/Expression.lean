import BookmarkSearch.Query.Lexer

/-!
Boolean expressions over terms: how deep they are, how they are written, and what they say of a
document once it is known which terms hold.
-/

namespace BookmarkSearch.Query

open Unicode

inductive Expression where
  | term (text : String)
  | not (inner : Expression)
  | and (left right : Expression)
  | or (left right : Expression)
deriving DecidableEq, Repr, Inhabited

namespace Expression

def depth : Expression → Nat
  | .term _ => 1
  | .not e => 1 + e.depth
  | .and l r | .or l r => 1 + max l.depth r.depth

/-- Whether the lexer would not read the bare text as one term: it is empty, holds a blank or a
parenthesis, or is an operator. -/
def needsQuotes (text : List Char) : Bool :=
  text.isEmpty || text.any (fun c => isBlank c || isParen c) || isWord ['a', 'n', 'd'] text ||
    isWord ['o', 'r'] text || isWord ['n', 'o', 't'] text

def writeTerm (text : List Char) : List Char :=
  if needsQuotes text then '"' :: text ++ ['"'] else text

def write : Expression → List Char
  | .term text => writeTerm text.toList
  | .not e => "NOT ".toList ++ e.write
  | .and l r => '(' :: l.write ++ " AND ".toList ++ r.write ++ [')']
  | .or l r => '(' :: l.write ++ " OR ".toList ++ r.write ++ [')']

def toText (e : Expression) : String := String.ofList e.write

/-- Asks for every term from left to right, whatever the answers are, and combines them. -/
def evalM {m : Type → Type} [Monad m] (ask : String → m Bool) : Expression → m Bool
  | .term text => ask text
  | .not e => do return !(← e.evalM ask)
  | .and l r => do
    let left ← l.evalM ask
    let right ← r.evalM ask
    return left && right
  | .or l r => do
    let left ← l.evalM ask
    let right ← r.evalM ask
    return left || right

def eval (holds : String → Bool) (e : Expression) : Bool := e.evalM (m := Id) holds

def evalAsking (holds : String → Bool) (e : Expression) : Bool × List String :=
  let ask (text : String) : StateM (List String) Bool := fun asked =>
    (holds text, asked ++ [text])
  (e.evalM ask).run []

def texts : Expression → List String
  | .term text => [text]
  | .not e => e.texts
  | .and l r | .or l r => l.texts ++ r.texts

end Expression

end BookmarkSearch.Query
