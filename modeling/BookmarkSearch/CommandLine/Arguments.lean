import BookmarkSearch.Saved.Number

/-!
Arguments of a command line. Each command says which options, flags and plain arguments it takes;
options and flags may stand anywhere among the plain ones, and behind two dashes everything is
plain. The first argument that does not fit decides what happens.
-/

namespace BookmarkSearch.CommandLine

inductive ValueKind where
  | text
  | path
  | number
deriving DecidableEq, Repr

namespace ValueKind

def accepts : ValueKind → String → Bool
  | .text, _ => true
  | .path, s => s != ""
  | .number, s => (Saved.readNumber s).toOption.isSome

end ValueKind

structure Shape where
  options : List (String × ValueKind)
  flags : List String
  places : List ValueKind
  commands : List String
  versioned : Bool
deriving Repr

inductive Stop where
  | refused
  | help
  | version
deriving DecidableEq, Repr

namespace Stop

def code : Stop → Nat
  | .refused => 2
  | _ => 0

end Stop

inductive Word where
  | plain
  | endOfOptions
  | short (name : Char)
  | long (name : String) (attached : Option String)
deriving DecidableEq, Repr

namespace Word

/-- A dash alone is plain. A value may follow a long name after an equals sign. -/
def ofArgument (s : String) : Word :=
  match s.toList with
  | ['-', '-'] => .endOfOptions
  | '-' :: '-' :: rest =>
    let name := String.ofList (rest.takeWhile (· != '='))
    match rest.dropWhile (· != '=') with
    | [] => .long name none
    | _ :: value => .long name (some (String.ofList value))
  | '-' :: c :: _ => .short c
  | _ => .plain

end Word

structure Given where
  options : List (String × String)
  flags : List String
  plain : List String
deriving DecidableEq, Repr

namespace Given

def nothing : Given := ⟨[], [], []⟩

def option? (g : Given) (name : String) : Option String := g.options.lookup name

def only (g : Given) : Except Stop String :=
  match g.plain with
  | [value] => .ok value
  | _ => .error .refused

def hasFlag (g : Given) (name : String) : Bool := g.flags.contains name

def addOption (g : Given) (name : String) (kind : ValueKind) (value : String) :
    Except Stop Given :=
  if (g.option? name).isNone ∧ kind.accepts value then
    .ok { g with options := (name, value) :: g.options }
  else .error .refused

def addFlag (g : Given) (name : String) : Except Stop Given :=
  if g.hasFlag name then .error .refused else .ok { g with flags := name :: g.flags }

def addPlain (shape : Shape) (g : Given) (value : String) : Except Stop Given :=
  match shape.places[g.plain.length]? with
  | some kind =>
    if kind.accepts value then .ok { g with plain := g.plain ++ [value] } else .error .refused
  | none => .error .refused

end Given

namespace Shape

abbrev Next := Option (String × List String)

def readFlag (shape : Shape) (g : Given) (name : String) (attached : Option String) :
    Except Stop Given :=
  if attached.isSome then .error .refused
  else if shape.flags.contains name then g.addFlag name
  else if name = "help" then .error .help
  else if name = "version" ∧ shape.versioned then .error .version
  else .error .refused

def shortStop (shape : Shape) (name : Char) : Stop :=
  if name = 'h' then .help else if name = 'V' ∧ shape.versioned then .version else .refused

def readFrom (shape : Shape) (g : Given) : List String → Except Stop (Given × Next)
  | [] => .ok (g, none)
  | arg :: rest =>
    if shape.commands.contains arg then .ok (g, some (arg, rest))
    else match Word.ofArgument arg with
      | .plain => do shape.readFrom (← g.addPlain shape arg) rest
      | .endOfOptions => do return (← rest.foldlM (Given.addPlain shape) g, none)
      | .short name => .error (shape.shortStop name)
      | .long name attached =>
        match shape.options.lookup name with
        | none => do shape.readFrom (← shape.readFlag g name attached) rest
        | some kind =>
          match attached with
          | some value => do shape.readFrom (← g.addOption name kind value) rest
          | none =>
            match rest with
            | [] => .error .refused
            | value :: rest =>
              -- What looks like an option is never taken for the value of another one.
              if Word.ofArgument value = .plain then do
                shape.readFrom (← g.addOption name kind value) rest
              else .error .refused

def read (shape : Shape) (args : List String) : Except Stop (Given × Next) := do
  let (g, next) ← shape.readFrom Given.nothing args
  if g.plain.length = shape.places.length ∧ (next.isSome || shape.commands.isEmpty) then
    return (g, next)
  else .error .refused

end Shape

end BookmarkSearch.CommandLine
