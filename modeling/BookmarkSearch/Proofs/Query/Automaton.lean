import BookmarkSearch.Proofs.Query.Fates

/-!
Reading a query token by token. What the descent keeps in the calls that are under way is kept here
in a state: the groups that are open with what has been read before each, and the NOTs in front of
the factor that comes next. A token changes the state in one step, and at the end of the query what
is open is closed.
-/

namespace BookmarkSearch.Query

/-- What has been read since a group, or the query, began: the conjunctions before the last OR, and
the factors behind it. -/
structure Level where
  disjuncts : Option Expression
  factors : Option Expression
deriving DecidableEq, Repr

namespace Level

def start : Level := ⟨none, none⟩

def value (l : Level) : Option Expression := combine .or l.disjuncts l.factors

def add (l : Level) (factor : Option Expression) : Level :=
  ⟨l.disjuncts, combine .and l.factors factor⟩

def branch (l : Level) : Level := ⟨l.value, none⟩

end Level

def underNots : Nat → Option Expression → Option Expression
  | 0, tree => tree
  | n + 1, tree => underNots n (tree.map .not)

/-- The NOTs in front of a factor: how many there are within the limit, and whether an odd number
stands beyond it. -/
structure Front where
  nots : Nat
  flipped : Bool
deriving DecidableEq, Repr

namespace Front

def bare : Front := ⟨0, false⟩

def apply (f : Front) (tree : Option Expression) : Option Expression :=
  underNots f.nots (if f.flipped then tree.map .not else tree)

end Front

structure Frame where
  outer : Level
  nots : Nat
deriving DecidableEq, Repr

namespace Frame

def resume (f : Frame) (inner : Level) : Level := f.outer.add (underNots f.nots inner.value)

end Frame

def enclosing : List Frame → Nat
  | [] => 0
  | f :: outer => enclosing outer + f.nots + 1

def closeAll : List Frame → Level → Option Expression
  | [], level => level.value
  | f :: outer, level => closeAll outer (f.resume level)

/-- There is a front while a factor is expected, and none right behind a factor. -/
structure State where
  groups : List Frame
  level : Level
  front : Option Front
  skipped : Nat
deriving DecidableEq, Repr

namespace State

def start : State := ⟨[], .start, some .bare, 0⟩

def ahead (s : State) : Front := s.front.getD .bare

def atLimit (limit : Nat) (s : State) : Prop := limit ≤ enclosing s.groups + s.ahead.nots

instance (limit : Nat) (s : State) : Decidable (s.atLimit limit) :=
  inferInstanceAs (Decidable (_ ≤ _))

def behind (s : State) (factor : Option Expression) : State :=
  ⟨s.groups, s.level.add factor, none, s.skipped⟩

def step (limit : Nat) (s : State) : Token → State
  | .term text => s.behind (s.ahead.apply (some (.term text)))
  | .and => { s with front := if s.front.isSome then none else some .bare }
  | .or =>
    if s.front.isSome then { s with front := none }
    else { s with level := s.level.branch, front := some .bare }
  | .not =>
    if s.atLimit limit then { s with front := some ⟨s.ahead.nots, !s.ahead.flipped⟩ }
    else { s with front := some ⟨s.ahead.nots + 1, s.ahead.flipped⟩ }
  | .openParen =>
    if s.atLimit limit then { s with front := some s.ahead, skipped := s.skipped + 1 }
    else ⟨⟨s.level, s.ahead.nots⟩ :: s.groups, .start, some .bare, s.skipped⟩
  | .closeParen =>
    if 0 < s.skipped then { s with front := none, skipped := s.skipped - 1 }
    else match s.groups with
      | [] => { s with front := none }
      | f :: outer => ⟨outer, f.resume s.level, none, s.skipped⟩

def fate (limit : Nat) (s : State) : Token → Fate
  | .openParen => if s.atLimit limit then .skipped else .group s.skipped
  | .closeParen => if 0 < s.skipped then .swallowed else .plain
  | .term _ | .and | .or | .not => .plain

def run (limit : Nat) (s : State) (tokens : List Token) : State := tokens.foldl (step limit) s

def value (s : State) : Option Expression := closeAll s.groups s.level

end State

structure Course where
  fates : List Fate
  tree : Option Expression
deriving DecidableEq, Repr

namespace Course

def since (earlier : List Fate) (c : Course) : Course := ⟨earlier ++ c.fates, c.tree⟩

@[simp] theorem since_nil (c : Course) : c.since [] = c := rfl

@[simp] theorem since_since (first second : List Fate) (c : Course) :
    (c.since second).since first = c.since (first ++ second) := by
  simp [since]

end Course

namespace State

def course (limit : Nat) (s : State) : List Token → Course
  | [] => ⟨[], s.value⟩
  | t :: rest => ((s.step limit t).course limit rest).since [s.fate limit t]

theorem course_tree (limit : Nat) (s : State) (tokens : List Token) :
    (s.course limit tokens).tree = (s.run limit tokens).value := by
  induction tokens generalizing s with
  | nil => rfl
  | cons t rest ih => exact ih (s.step limit t)

end State

inductive BracketStep (s next : State) : Token → Fate → Prop where
  | skip (skipped : next.skipped = s.skipped + 1) (groups : next.groups = s.groups) :
      BracketStep s next .openParen .skipped
  | group (skipped : next.skipped = s.skipped) {f : Frame} (groups : next.groups = f :: s.groups) :
      BracketStep s next .openParen (.group s.skipped)
  | swallow (skipped : s.skipped = next.skipped + 1) (groups : next.groups = s.groups) :
      BracketStep s next .closeParen .swallowed
  | close (nonePending : s.skipped = 0) (skipped : next.skipped = 0)
      (groups : next.groups = s.groups.tail) : BracketStep s next .closeParen .plain
  | other {t : Token} (opening : t ≠ .openParen) (closing : t ≠ .closeParen)
      (skipped : next.skipped = s.skipped) (groups : next.groups = s.groups) :
      BracketStep s next t .plain

theorem step_brackets (limit : Nat) (s : State) (t : Token) :
    BracketStep s (s.step limit t) t (s.fate limit t) := by
  cases t with
  | openParen =>
    simp only [State.step, State.fate]
    split
    · exact .skip rfl rfl
    · exact .group rfl rfl
  | closeParen =>
    simp only [State.step, State.fate]
    split
    · rename_i pending
      exact .swallow (Nat.sub_add_cancel pending).symm rfl
    · rename_i nonePending
      have unskipped : s.skipped = 0 := by omega
      split
      · rename_i outside
        exact .close unskipped unskipped (by rw [outside]; rfl)
      · rename_i f outer inside
        exact .close unskipped unskipped (by rw [inside]; rfl)
  | term text => exact .other nofun nofun rfl rfl
  | and => exact .other nofun nofun rfl rfl
  | or =>
    simp only [State.step]
    split <;> exact .other nofun nofun rfl rfl
  | not =>
    simp only [State.step]
    split <;> exact .other nofun nofun rfl rfl

end BookmarkSearch.Query
