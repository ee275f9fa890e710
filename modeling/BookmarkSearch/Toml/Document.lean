/-!
TOML documents as trees, and how headers and keys build them up. A table can be opened by a header
once; a table that only came about on the way to another one may be opened later. A dotted key may
add to tables that dotted keys made, never to one that a header opened or that was written inline.
-/

namespace BookmarkSearch.Toml

/-- Of a float only whether it is in range is kept, and of a date nothing. -/
inductive Scalar where
  | string (s : String)
  | integer (n : Int)
  | float (inRange : Bool)
  | boolean (b : Bool)
  | datetime
deriving DecidableEq, Repr

inductive TableKind where
  | opened
  | onTheWay
  | dotted
  | inlined
deriving DecidableEq, Repr

/-- A table's entries are in the order of their first mention. The items of `tables` are the tables
that a doubled header opened, in order. -/
inductive Item where
  | scalar (s : Scalar)
  | array (items : List Item)
  | tables (items : List Item)
  | table (kind : TableKind) (entries : List (String × Item))
deriving Repr, Inhabited

abbrev Entries := List (String × Item)

def setEntry (key : String) (item : Item) : Entries → Entries
  | [] => [(key, item)]
  | (k, v) :: rest => if k = key then (k, item) :: rest else (k, v) :: setEntry key item rest

def changeLast (change : Entries → Option Entries) : List Item → Option (List Item)
  | [] => none
  | [.table kind entries] => (change entries).map fun es => [.table kind es]
  | [_] => none
  | item :: rest => (changeLast change rest).map (item :: ·)

/-- Goes down the path of a header, making the tables that are missing, and changes what is there.
On the way the last table of a list of tables stands for the list. -/
def atPath (change : Entries → Option Entries) : List String → Entries → Option Entries
  | [], entries => change entries
  | key :: path, entries =>
    match entries.lookup key with
    | none => (atPath change path []).map fun es => setEntry key (.table .onTheWay es) entries
    | some (.table .inlined _) => none
    | some (.table kind es) =>
      (atPath change path es).map fun es => setEntry key (.table kind es) entries
    | some (.tables items) =>
      (changeLast (atPath change path) items).map fun items => setEntry key (.tables items) entries
    | some _ => none

def openTable (path : List String) (key : String) : Entries → Option Entries :=
  atPath (fun entries =>
    match entries.lookup key with
    | none => some (setEntry key (.table .opened []) entries)
    | some (.table .onTheWay es) => some (setEntry key (.table .opened es) entries)
    | some _ => none) path

def openNext (path : List String) (key : String) : Entries → Option Entries :=
  atPath (fun entries =>
    match entries.lookup key with
    | none => some (setEntry key (.tables [.table .opened []]) entries)
    | some (.tables items) => some (setEntry key (.tables (items ++ [.table .opened []])) entries)
    | some _ => none) path

def addEntry (key : String) (item : Item) (entries : Entries) : Option Entries :=
  if (entries.lookup key).isSome then none else some (setEntry key item entries)

def addDotted (item : Item) : List String → String → Entries → Option Entries
  | [], key, entries => addEntry key item entries
  | step :: path, key, entries =>
    match entries.lookup step with
    | none => (addDotted item path key []).map fun es => setEntry step (.table .dotted es) entries
    | some (.table .dotted es) =>
      (addDotted item path key es).map fun es => setEntry step (.table .dotted es) entries
    -- Such a table may still be passed through, but its own keys belong under its header.
    | some (.table .onTheWay es) =>
      if path.isEmpty then none
      else (addDotted item path key es).map fun es => setEntry step (.table .onTheWay es) entries
    | some (.tables items) =>
      if path.isEmpty then none
      else (changeLast (addDotted item path key) items).map fun items =>
        setEntry step (.tables items) entries
    | some _ => none

namespace Item

mutual

/-- Whether every number in an item is in range: an integer in 128 bits, a float in a double. -/
def inRange : Item → Bool
  | .scalar (.integer n) => -(Nat.pow 2 127 : Nat) ≤ n && n < (Nat.pow 2 128 : Nat)
  | .scalar (.float ok) => ok
  | .scalar _ => true
  | .array items | .tables items => allInRange items
  | .table _ entries => entriesInRange entries

def allInRange : List Item → Bool
  | [] => true
  | item :: rest => item.inRange && allInRange rest

def entriesInRange : List (String × Item) → Bool
  | [] => true
  | (_, item) :: rest => item.inRange && entriesInRange rest

end

end Item

end BookmarkSearch.Toml
