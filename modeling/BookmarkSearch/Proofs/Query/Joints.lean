import BookmarkSearch.Proofs.Query.Outline

/-!
How an operand joins the expression that is being read: by which operator, and under how many NOTs.
Two readings that stand in the same level and differ in that alone come to the same expression
exactly if they put the next operand into the same place of it.
-/

namespace BookmarkSearch.Query

def Token.isOperator : Token → Bool
  | .and | .or | .not => true
  | .term _ | .openParen | .closeParen => false

/-- How an operand joins the level it stands in: whether as the first factor of an alternative, and
under how many NOTs. -/
structure Joint where
  fresh : Bool
  nots : Nat
deriving DecidableEq, Repr

/-- Where the reading of a level stands: whether the next operand will be the first factor of an
alternative, and how many NOTs stand in front of it if one is expected. -/
structure Spot where
  fresh : Bool
  front : Option Nat
deriving DecidableEq, Repr

namespace Spot

def joint (p : Spot) : Joint := ⟨p.fresh, p.front.getD 0⟩

/-- The spot behind a token; behind a closing parenthesis if no group of its own ends with it. -/
def pass (p : Spot) : Token → Spot
  | .and => { p with front := if p.front.isSome then none else some 0 }
  | .or => if p.front.isSome then { p with front := none } else ⟨true, some 0⟩
  | .not => { p with front := some (p.front.getD 0 + 1) }
  | .term _ | .openParen | .closeParen => { p with front := none }

/-- How the next operand joins the level, unless the level ends before there is one. Of the groups
that begin at the spot `opened` are open, and none has a term so far; one that ends without a term
is no operand. -/
def joint? (inGroup : Bool) : (p : Spot) → (opened : Nat) → List Token → Option Joint
  | _, _, [] => none
  | p, _, .term _ :: _ => some p.joint
  | p, opened, .openParen :: rest => p.joint? inGroup (opened + 1) rest
  | p, 0, .closeParen :: rest =>
    if inGroup then none else (p.pass .closeParen).joint? inGroup 0 rest
  | p, opened + 1, .closeParen :: rest =>
    (if opened = 0 then p.pass .closeParen else p).joint? inGroup opened rest
  | p, 0, .and :: rest => (p.pass .and).joint? inGroup 0 rest
  | p, 0, .or :: rest => (p.pass .or).joint? inGroup 0 rest
  | p, 0, .not :: rest => (p.pass .not).joint? inGroup 0 rest
  | p, opened + 1, .and :: rest | p, opened + 1, .or :: rest | p, opened + 1, .not :: rest =>
    p.joint? inGroup (opened + 1) rest

theorem joint?_operator (inGroup : Bool) (p : Spot) {t : Token} (operator : t.isOperator = true)
    (rest : List Token) : p.joint? inGroup 0 (t :: rest) = (p.pass t).joint? inGroup 0 rest := by
  cases t with
  | and => rfl
  | or => rfl
  | not => rfl
  | _ => cases operator

theorem joint?_nested_operator (inGroup : Bool) (p : Spot) (opened : Nat) {t : Token}
    (operator : t.isOperator = true) (rest : List Token) :
    p.joint? inGroup (opened + 1) (t :: rest) = p.joint? inGroup (opened + 1) rest := by
  cases t with
  | and => rfl
  | or => rfl
  | not => rfl
  | _ => cases operator

end Spot

open State

namespace State

def spot (s : State) : Spot := ⟨s.level.factors.isNone, s.front.map Front.nots⟩

def nextJoint (s : State) (tokens : List Token) : Option Joint :=
  s.spot.joint? (!s.groups.isEmpty) 0 tokens

structure Roomy (limit : Nat) (s : State) (tokens : List Token) : Prop where
  room : enclosing s.groups + s.ahead.nots + tokens.length ≤ limit
  noneSkipped : s.skipped = 0
  unflipped : s.ahead.flipped = false

namespace Roomy

variable {limit : Nat} {s : State}

theorem within {t : Token} {rest : List Token} (roomy : Roomy limit s (t :: rest)) :
    ¬s.atLimit limit := by
  have room := roomy.room
  rw [List.length_cons] at room
  unfold atLimit
  omega

/-- A state that expects no factor behind a NOT, with no more groups open than before. -/
theorem of_bare {groups outer : List Frame} {nots : Nat} {tokens : List Token}
    (room : enclosing outer + nots + (tokens.length + 1) ≤ limit)
    (fewer : enclosing groups ≤ enclosing outer + nots + 1) (level : Level)
    {front : Option Front} (bare : front.getD .bare = .bare) :
    Roomy limit ⟨groups, level, front, 0⟩ tokens := by
  have noneAhead : ahead ⟨groups, level, front, 0⟩ = .bare := bare
  refine ⟨?_, rfl, by rw [noneAhead]; rfl⟩
  rw [noneAhead]
  simp only [Front.bare]
  omega

theorem step {t : Token} {rest : List Token} (roomy : Roomy limit s (t :: rest)) :
    Roomy limit (s.step limit t) rest := by
  have within := roomy.within
  obtain ⟨groups, level, front, skipped⟩ := s
  obtain ⟨room, noneSkipped, unflipped⟩ := roomy
  obtain rfl : skipped = 0 := noneSkipped
  change enclosing groups + (front.getD .bare).nots + (rest.length + 1) ≤ limit at room
  have same : enclosing groups ≤ enclosing groups + (front.getD .bare).nots + 1 := by omega
  cases t with
  | term text => exact of_bare room same _ rfl
  | and => exact of_bare room same level (by split <;> rfl)
  | or =>
    simp only [State.step]
    split
    · exact of_bare room same level rfl
    · exact of_bare room same level.branch rfl
  | not =>
    simp only [State.step, if_neg within]
    refine ⟨?_, rfl, unflipped⟩
    simp only [ahead, Option.getD_some]
    omega
  | openParen =>
    simp only [State.step, if_neg within]
    exact of_bare room (Nat.le_refl _) _ rfl
  | closeParen =>
    simp only [State.step, Nat.lt_irrefl, ↓reduceIte]
    split
    · exact of_bare room (Nat.zero_le _) level rfl
    · rename_i f outer
      refine of_bare room ?_ _ rfl
      simp only [enclosing]
      omega

theorem tail {t : Token} {rest : List Token} (roomy : Roomy limit s (t :: rest)) :
    Roomy limit s rest := by
  obtain ⟨room, noneSkipped, unflipped⟩ := roomy
  rw [List.length_cons] at room
  exact ⟨by omega, noneSkipped, unflipped⟩

theorem run {pre rest : List Token} (roomy : Roomy limit s (pre ++ rest)) :
    Roomy limit (s.run limit pre) rest := by
  induction pre generalizing s with
  | nil => exact roomy
  | cons t others ih => exact ih roomy.step

end Roomy

end State

def Level.awaiting (l : Level) (fresh : Bool) : Level := if fresh then l.branch else l

@[simp] theorem Level.value_awaiting (l : Level) (fresh : Bool) :
    (l.awaiting fresh).value = l.value := by
  cases fresh
  · rfl
  · exact l.value_branch

def Level.taking (l : Level) (j : Joint) (operand : Option Expression) : Level :=
  (l.awaiting j.fresh).add (underNots j.nots operand)

def Spot.Fits (p : Spot) (base : Level) : Prop := base.factors = none → p.fresh = true

theorem Spot.Fits.pass {p : Spot} {base : Level} (fits : p.Fits base) (t : Token) :
    (p.pass t).Fits base := by
  intro noneThere
  have fresh := fits noneThere
  cases t with
  | or =>
    simp only [Spot.pass]
    split
    · exact fresh
    · rfl
  | _ => exact fresh

def begun (inner : List Nat) : List Frame := inner.map (⟨.start, ·⟩)

namespace State

def standing (groups : List Frame) (base : Level) (p : Spot) : State :=
  ⟨groups, base.awaiting p.fresh, p.front.map (⟨·, false⟩), 0⟩

/-- A state in groups that have begun at a spot, one for each number of NOTs and one around them
all, of which none has a term. -/
def nested (groups : List Frame) (base : Level) (p : Spot) (inner : List Nat)
    (front : Option Front) : State :=
  ⟨begun inner ++ ⟨base.awaiting p.fresh, p.joint.nots⟩ :: groups, .start, front, 0⟩

def frontBehind (front : Option Front) : Token → Option Front
  | .not => some ⟨(front.getD .bare).nots + 1, (front.getD .bare).flipped⟩
  | _ => if front.isSome then none else some .bare

section Steps

variable {limit : Nat} {groups : List Frame} {base : Level} {p : Spot}

theorem standing_ahead : (standing groups base p).ahead = ⟨p.joint.nots, false⟩ := by
  obtain ⟨fresh, front⟩ := p
  cases front <;> rfl

theorem standing_and : (standing groups base p).step limit .and =
    standing groups base (p.pass .and) := by
  obtain ⟨fresh, front⟩ := p
  cases front <;> rfl

theorem standing_or : (standing groups base p).step limit .or =
    standing groups base (p.pass .or) := by
  obtain ⟨fresh, front⟩ := p
  cases front with
  | some n => rfl
  | none =>
    cases fresh with
    | false => rfl
    | true =>
      -- An alternative has begun already, and another OR begins none.
      have again : base.branch.branch = base.branch := by simp [Level.branch, Level.value]
      change (⟨groups, base.branch.branch, some .bare, 0⟩ : State) = _
      rw [again]
      rfl

theorem standing_operator {t : Token} (operator : t.isOperator = true)
    (within : ¬(standing groups base p).atLimit limit) :
    (standing groups base p).step limit t = standing groups base (p.pass t) := by
  cases t with
  | and => exact standing_and
  | or => exact standing_or
  | not =>
    simp only [step, if_neg within, standing_ahead]
    rfl
  | _ => cases operator

theorem standing_open (within : ¬(standing groups base p).atLimit limit) :
    (standing groups base p).step limit .openParen = nested groups base p [] (some .bare) := by
  simp only [step, if_neg within, standing_ahead]
  rfl

theorem standing_term (text : String) : (standing groups base p).step limit (.term text) =
    settled groups (base.taking p.joint (some (.term text))) 0 := by
  simp only [step, behind, standing_ahead]
  rfl

theorem standing_unmatched : (standing [] base p).step limit .closeParen =
    standing [] base (p.pass .closeParen) := rfl

theorem standing_close (f : Frame) (q : Spot) :
    (standing (f :: groups) base p).step limit .closeParen =
      (standing (f :: groups) base q).step limit .closeParen := by
  simp [standing, step, Frame.resume]

variable {inner : List Nat} {front : Option Front}

theorem nested_open (within : ¬(nested groups base p inner front).atLimit limit) :
    (nested groups base p inner front).step limit .openParen =
      nested groups base p ((front.getD .bare).nots :: inner) (some .bare) := by
  simp only [step, if_neg within]
  rfl

theorem nested_close (n : Nat) : (nested groups base p (n :: inner) front).step limit .closeParen =
    nested groups base p inner none := by
  simp [nested, begun, step, Frame.resume, Level.start, Level.value, Level.add]

theorem nested_close_all : (nested groups base p [] front).step limit .closeParen =
    standing groups base (p.pass .closeParen) := by
  simp [nested, begun, standing, step, Frame.resume, Level.start, Level.value, Spot.pass]

theorem nested_operator {t : Token} (operator : t.isOperator = true)
    (within : ¬(nested groups base p inner front).atLimit limit) :
    (nested groups base p inner front).step limit t =
      nested groups base p inner (frontBehind front t) := by
  cases t with
  | and => rfl
  | or => cases front <;> rfl
  | not =>
    simp only [step, if_neg within]
    rfl
  | _ => cases operator

end Steps

end State

/-! Two operands that join a level in different ways stay apart in the outline. -/

def Joint.operator (j : Joint) : Token := if j.fresh then .or else .and

theorem Joint.operator_injective {j k : Joint} (same : j.operator = k.operator) :
    j.fresh = k.fresh := by
  obtain ⟨jFresh, jNots⟩ := j
  obtain ⟨kFresh, kNots⟩ := k
  cases jFresh
  · cases kFresh
    · rfl
    · cases same
  · cases kFresh
    · cases same
    · rfl

theorem joined_ne_nil (operator : Token) (first : List Token) {second : List Token}
    (right : second ≠ []) : joined operator first second ≠ [] := by
  by_cases left : first = []
  · rwa [left, nil_joined]
  · rw [joined_of_ne_nil operator left right]
    simp

theorem joined_joined (first : List Token) {second third : List Token} (middle : second ≠ [])
    (last : third ≠ []) : joined .or first (joined .and second third) =
      joined .and (joined .or first second) third := by
  rw [joined_of_ne_nil .and middle last,
    joined_of_ne_nil .and (joined_ne_nil .or first middle) last]
  by_cases left : first = []
  · rw [left, nil_joined, nil_joined]
  · rw [joined_of_ne_nil .or left middle, joined_of_ne_nil .or left (by simp [middle]),
      List.append_assoc]
    rfl

theorem outline_taking {base : Level} {j : Joint} (e : Expression)
    (fits : base.factors = none → j.fresh = true) :
    treeOutline (base.taking j (some e)).value =
      joined j.operator (treeOutline base.value) (List.replicate j.nots .not ++ e.outline) := by
  obtain ⟨fresh, nots⟩ := j
  have operand : treeOutline (underNots nots (some e)) = List.replicate nots .not ++ e.outline := by
    rw [treeOutline_underNots]
    exact negated_of_ne_nil nots e.outline_ne_nil
  cases fresh with
  | true =>
    simp [Level.taking, Level.awaiting, Level.branch, Level.add, Level.value, operand,
      Joint.operator]
  | false =>
    have someFactor : treeOutline base.factors ≠ [] := by
      cases there : base.factors with
      | none => exact absurd (fits there) Bool.false_ne_true
      | some factor => exact factor.outline_ne_nil
    have someOperand : List.replicate nots .not ++ e.outline ≠ [] := by simp [e.outline_ne_nil]
    simp only [Level.taking, Level.awaiting, Level.add, Level.value, treeOutline_or,
      treeOutline_and, operand, Joint.operator, Bool.false_eq_true, ↓reduceIte]
    exact joined_joined _ someFactor someOperand

/-- Behind the same tokens two beginnings of a list go on with the same rest of it. -/
theorem exists_rest {before first second whole : List Token} (one : before ++ first <+: whole)
    (other : before ++ second <+: whole) : ∃ rest, first <+: rest ∧ second <+: rest := by
  obtain ⟨behind, rfl⟩ := one
  rw [List.append_assoc, List.prefix_append_right_inj] at other
  exact ⟨first ++ behind, List.prefix_append first behind, other⟩

/-- A level that has come to nothing has no factors. -/
theorem Level.factors_of_value {l : Level} (noValue : l.value = none) : l.factors = none := by
  cases there : l.factors with
  | none => rfl
  | some factor =>
    rw [Level.value, there] at noValue
    cases before : l.disjuncts <;> simp [before, combine] at noValue

/-- If two readings that put an operand into a level come to the same expression, both have put it
into the same place. -/
theorem joint_of_outline (groups : List Frame) {base : Level} {j k : Joint} {e : Expression}
    {whole : List Token} (fits : base.factors = none → j.fresh = true)
    (otherFits : base.factors = none → k.fresh = true)
    (first : treeOutline (closeAll groups (base.taking j (some e))) <+: whole)
    (second : treeOutline (closeAll groups (base.taking k (some e))) <+: whole) : j = k := by
  obtain ⟨before, closes⟩ := around_eq_append groups
  have operand (n : Nat) : List.replicate n .not ++ e.outline ≠ [] := by simp [e.outline_ne_nil]
  have placed (l : Joint) (fits : base.factors = none → l.fresh = true) :
      treeOutline (closeAll groups (base.taking l (some e))) =
        before ++ joined l.operator (treeOutline base.value)
          (List.replicate l.nots .not ++ e.outline) := by
    rw [treeOutline_closeAll, outline_taking e fits]
    exact closes _ (joined_ne_nil l.operator _ (operand l.nots))
  rw [placed j fits] at first
  rw [placed k otherFits] at second
  obtain ⟨rest, first, second⟩ := exists_rest first second
  obtain ⟨jFresh, jNots⟩ := j
  obtain ⟨kFresh, kNots⟩ := k
  by_cases nothing : treeOutline base.value = []
  · -- There is nothing that the operand could be joined to, and only the NOTs tell.
    have noFactors := Level.factors_of_value (treeOutline_eq_nil.mp nothing)
    obtain rfl : jFresh = true := fits noFactors
    obtain rfl : kFresh = true := otherFits noFactors
    rw [nothing, nil_joined] at first second
    obtain rfl : jNots = kNots := nots_of_prefix first second
    rfl
  · -- The operator stands at the same place in both, and the NOTs behind it.
    rw [joined_of_ne_nil _ nothing (operand _)] at first second
    obtain ⟨others, first, second⟩ := exists_rest first second
    cases others with
    | nil => exact absurd (List.prefix_nil.mp first) (List.cons_ne_nil _ _)
    | cons t others =>
      obtain ⟨one, first⟩ := List.cons_prefix_cons.mp first
      obtain ⟨other, second⟩ := List.cons_prefix_cons.mp second
      obtain rfl : jNots = kNots := nots_of_prefix first second
      obtain rfl : jFresh = kFresh := Joint.operator_injective (one.trans other.symm)
      rfl

/-! Groups that begin inside a group close into one operand of the level around that. -/

theorem closeAll_inside (inner outer : List Frame) (f : Frame) (level : Level) :
    closeAll (inner ++ f :: outer) level =
      closeAll outer (f.outer.add (underNots f.nots (closeAll inner level))) := by
  induction inner generalizing level with
  | nil => rfl
  | cons g inner ih => exact ih (g.resume level)

theorem closeAll_begun (inner : List Nat) : closeAll (begun inner) .start = none := by
  induction inner with
  | nil => rfl
  | cons n inner ih => simpa [begun, closeAll, Frame.resume, Level.start, Level.value] using ih

theorem underNots_some (n : Nat) (e : Expression) :
    ∃ negation, underNots n (some e) = some negation := by
  induction n generalizing e with
  | zero => exact ⟨e, rfl⟩
  | succ n ih => exact ih (.not e)

theorem closeAll_begun_some (inner : List Nat) (e : Expression) :
    ∃ operand, closeAll (begun inner) ⟨none, some e⟩ = some operand := by
  induction inner generalizing e with
  | nil => exact ⟨e, rfl⟩
  | cons n inner ih =>
    obtain ⟨negation, under⟩ := underNots_some n e
    obtain ⟨operand, closed⟩ := ih negation
    refine ⟨operand, ?_⟩
    simpa [begun, closeAll, Frame.resume, Level.start, Level.value, Level.add, under] using closed

theorem Front.apply_some (f : Front) (e : Expression) :
    ∃ factor, f.apply (some e) = some factor := by
  obtain ⟨nots, flipped⟩ := f
  cases flipped with
  | false => exact underNots_some nots e
  | true => exact underNots_some nots (.not e)

/-- Two readings that stand at spots of the same level, or in groups begun there. -/
inductive Abreast (groups : List Frame) (base : Level) (p q : Spot) : Nat → State → State → Prop
    where
  | standing :
      Abreast groups base p q 0 (State.standing groups base p) (State.standing groups base q)
  | nested (inner : List Nat) (front : Option Front) :
      Abreast groups base p q (inner.length + 1) (State.nested groups base p inner front)
        (State.nested groups base q inner front)

namespace Abreast

variable {limit : Nat} {groups : List Frame} {base : Level} {p q : Spot} {opened : Nat}
  {s other : State}

theorem nested_value (groups : List Frame) (base : Level) (p : Spot) (inner : List Nat)
    (front : Option Front) : (State.nested groups base p inner front).value =
      closeAll groups base := by
  rw [State.value, State.nested, closeAll_inside, closeAll_begun, underNots_none, Level.add_none]
  exact closeAll_of_value groups (base.value_awaiting p.fresh)

/-- If the query ends here the spot makes no difference. -/
theorem value_eq (abreast : Abreast groups base p q opened s other) : s.value = other.value := by
  cases abreast with
  | standing =>
    have same := (base.value_awaiting p.fresh).trans (base.value_awaiting q.fresh).symm
    exact closeAll_of_value groups same
  | nested inner front => rw [nested_value, nested_value]

theorem term (text : String) (abreast : Abreast groups base p q opened s other) :
    ∃ e, (s.step limit (.term text)).value = closeAll groups (base.taking p.joint (some e)) ∧
      (other.step limit (.term text)).value = closeAll groups (base.taking q.joint (some e)) ∧
      (p.joint = q.joint → s.step limit (.term text) = other.step limit (.term text)) := by
  cases abreast with
  | standing =>
    refine ⟨.term text, ?_, ?_, ?_⟩
    · rw [standing_term]
      rfl
    · rw [standing_term]
      rfl
    · intro same
      rw [standing_term, standing_term, same]
  | nested inner front =>
    obtain ⟨factor, applied⟩ := (front.getD .bare).apply_some (.term text)
    obtain ⟨operand, closed⟩ := closeAll_begun_some inner factor
    have joins (r : Spot) : ((State.nested groups base r inner front).step limit
        (.term text)).value = closeAll groups (base.taking r.joint (some operand)) := by
      change closeAll (begun inner ++ ⟨base.awaiting r.fresh, r.joint.nots⟩ :: groups)
        (Level.start.add ((front.getD .bare).apply (some (.term text)))) = _
      have alone : Level.start.add (some factor) = ⟨none, some factor⟩ := rfl
      rw [closeAll_inside, applied, alone, closed]
      rfl
    refine ⟨operand, joins p, joins q, ?_⟩
    intro same
    have sameFresh : p.fresh = q.fresh := congrArg Joint.fresh same
    rw [State.nested, State.nested, same, sameFresh]

/-- A token other than a term takes both readings on, and the spots with them, unless it ends the
level. -/
theorem step {t : Token} (abreast : Abreast groups base p q opened s other)
    (noTerm : t.text? = none) (inside : opened = 0 → t = .closeParen → groups = [])
    (within : ¬s.atLimit limit) (otherWithin : ¬other.atLimit limit) :
    ∃ pNext qNext openedNext,
      Abreast groups base pNext qNext openedNext (s.step limit t) (other.step limit t) ∧
      (p.Fits base → pNext.Fits base) ∧ (q.Fits base → qNext.Fits base) ∧
      ∀ rest, p.joint? (!groups.isEmpty) opened (t :: rest) =
          pNext.joint? (!groups.isEmpty) openedNext rest ∧
        q.joint? (!groups.isEmpty) opened (t :: rest) =
          qNext.joint? (!groups.isEmpty) openedNext rest := by
  cases abreast with
  | standing =>
    by_cases operator : t.isOperator = true
    · refine ⟨p.pass t, q.pass t, 0, ?_, (·.pass t), (·.pass t), ?_⟩
      · rw [standing_operator operator within, standing_operator operator otherWithin]
        exact .standing
      · intro rest
        exact ⟨p.joint?_operator _ operator rest, q.joint?_operator _ operator rest⟩
    · cases t with
      | term text => cases noTerm
      | openParen =>
        refine ⟨p, q, 1, ?_, id, id, fun _ => ⟨rfl, rfl⟩⟩
        rw [standing_open within, standing_open otherWithin]
        exact .nested [] (some .bare)
      | closeParen =>
        obtain rfl : groups = [] := inside rfl rfl
        refine ⟨p.pass .closeParen, q.pass .closeParen, 0, ?_, (·.pass .closeParen),
          (·.pass .closeParen), fun _ => ⟨rfl, rfl⟩⟩
        rw [standing_unmatched, standing_unmatched]
        exact .standing
      | _ => exact absurd rfl operator
  | nested inner front =>
    by_cases operator : t.isOperator = true
    · refine ⟨p, q, inner.length + 1, ?_, id, id, ?_⟩
      · rw [nested_operator operator within, nested_operator operator otherWithin]
        exact .nested inner (frontBehind front t)
      · intro rest
        exact ⟨p.joint?_nested_operator _ _ operator rest,
          q.joint?_nested_operator _ _ operator rest⟩
    · cases t with
      | term text => cases noTerm
      | openParen =>
        refine ⟨p, q, inner.length + 2, ?_, id, id, fun _ => ⟨rfl, rfl⟩⟩
        rw [nested_open within, nested_open otherWithin]
        exact .nested (_ :: inner) _
      | closeParen =>
        cases inner with
        | nil =>
          refine ⟨p.pass .closeParen, q.pass .closeParen, 0, ?_, (·.pass .closeParen),
            (·.pass .closeParen), fun _ => ⟨rfl, rfl⟩⟩
          rw [nested_close_all, nested_close_all]
          exact .standing
        | cons n inner =>
          refine ⟨p, q, inner.length + 1, ?_, id, id, fun _ => ⟨rfl, rfl⟩⟩
          rw [nested_close, nested_close]
          exact .nested inner none
      | _ => exact absurd rfl operator

/-- Two readings from spots of one level come to the same expression exactly if the next operand
joins the level in the same way. -/
theorem run {tokens : List Token} (abreast : Abreast groups base p q opened s other)
    (fits : p.Fits base) (otherFits : q.Fits base) (roomy : Roomy limit s tokens)
    (otherRoomy : Roomy limit other tokens) :
    (s.run limit tokens).value = (other.run limit tokens).value ↔
      p.joint? (!groups.isEmpty) opened tokens = q.joint? (!groups.isEmpty) opened tokens := by
  induction tokens generalizing p q opened s other with
  | nil =>
    refine iff_of_true abreast.value_eq ?_
    rw [Spot.joint?, Spot.joint?]
  | cons t rest ih =>
    by_cases noTerm : t.text? = none
    · by_cases inside : opened = 0 → t = .closeParen → groups = []
      · obtain ⟨pNext, qNext, openedNext, next, keeps, otherKeeps, passes⟩ :=
          abreast.step noTerm inside roomy.within otherRoomy.within
        rw [run_cons, run_cons, (passes rest).1, (passes rest).2]
        exact ih next (keeps fits) (otherKeeps otherFits) roomy.step otherRoomy.step
      · rw [Classical.not_imp, Classical.not_imp] at inside
        obtain ⟨rfl, rfl, grouped⟩ := inside
        cases groups with
        | nil => exact absurd rfl grouped
        | cons f outer =>
          -- The group around the level ends, and the spot is forgotten.
          cases abreast with
          | standing => exact iff_of_true (by rw [run_cons, run_cons, standing_close]) rfl
    · cases t with
      | term text =>
        obtain ⟨e, joins, otherJoins, sameStep⟩ := abreast.term text
        have joint (r : Spot) : r.joint? (!groups.isEmpty) opened (.term text :: rest) =
            some r.joint := by
          rw [Spot.joint?]
        rw [run_cons, run_cons, joint, joint, Option.some.injEq]
        constructor
        · intro same
          have first := run_grows limit (s.step limit (.term text)) rest
          have second := run_grows limit (other.step limit (.term text)) rest
          rw [joins] at first
          rw [otherJoins, ← same] at second
          exact joint_of_outline groups fits otherFits first second
        · intro same
          rw [sameStep same]
      | _ => exact absurd rfl noTerm

end Abreast

end BookmarkSearch.Query
