import BookmarkSearch.Proofs.Query.Brackets

/-!
Reading beyond the limit. A query is read as if the skipped opening parentheses were not there, nor
the closing ones that are counted against them. These are pairs of matching parentheses exactly if
no group begins while a skipped parenthesis has not closed; where one does, its own closing
parenthesis is counted against the skipped one, and the group takes in what stands behind it.
-/

namespace BookmarkSearch.Query

/-- A token with its fate, and with the fate of the opening parenthesis that it closes. -/
structure Mark where
  token : Token
  fate : Fate
  opener : Option Fate
deriving DecidableEq, Repr

/-- The fate of the opening parenthesis a token closes, where `pending` are those of the open ones,
innermost first. -/
def openerOf (pending : List Fate) : Token → Option Fate
  | .closeParen => pending.head?
  | _ => none

def pendingAfter (pending : List Fate) (fate : Fate) : Token → List Fate
  | .openParen => fate :: pending
  | .closeParen => pending.tail
  | _ => pending

def matched : List Fate → List (Token × Fate) → List Mark
  | _, [] => []
  | pending, (t, fate) :: rest =>
    ⟨t, fate, openerOf pending t⟩ :: matched (pendingAfter pending fate t) rest

theorem matching_other {t : Token} (opening : t ≠ .openParen) (closing : t ≠ .closeParen)
    (pending : List Fate) (fate : Fate) :
    pendingAfter pending fate t = pending ∧ openerOf pending t = none := by
  cases t with
  | openParen => exact absurd rfl opening
  | closeParen => exact absurd rfl closing
  | _ => exact ⟨rfl, rfl⟩

def marks (tokens : List Token) (limit : Nat) : List Mark :=
  matched [] (tokens.zip (fates tokens limit))

namespace Mark

/-- Whether the token is a skipped opening parenthesis, or matches one. -/
def isPaired (m : Mark) : Bool := m.fate == .skipped || m.opener == some .skipped

/-- Whether the token is a skipped opening parenthesis, or is counted against one. -/
def isCounted (m : Mark) : Bool := m.fate == .skipped || m.fate == .swallowed

end Mark

def withoutPairs (tokens : List Token) (limit : Nat) : List Token :=
  ((marks tokens limit).filter fun m => !m.isPaired).map Mark.token

def withoutCounted (tokens : List Token) (limit : Nat) : List Token :=
  ((marks tokens limit).filter fun m => !m.isCounted).map Mark.token

/-- Whether each parenthesis that is counted against a skipped one matches a skipped one. -/
def CountsOwn (ms : List Mark) : Prop := ∀ m ∈ ms, m.fate = .swallowed → m.opener = some .skipped

/-- Whether no group begins while a skipped parenthesis has not closed. -/
def OpensApart (ms : List Mark) : Prop := ∀ m ∈ ms, ∀ n, m.fate = .group n → n = 0

open State

namespace State

def fated (limit : Nat) (s : State) (tokens : List Token) : List (Token × Fate) :=
  tokens.zip (s.course limit tokens).fates

theorem fated_cons (limit : Nat) (s : State) (t : Token) (rest : List Token) :
    s.fated limit (t :: rest) = (t, s.fate limit t) :: (s.step limit t).fated limit rest := rfl

end State

theorem marks_eq (tokens : List Token) (limit : Nat) :
    marks tokens limit = matched [] (State.start.fated (max limit 1) tokens) := by
  rw [marks, fated, start_course]

/-- Every token has its mark. -/
theorem marks_tokens (tokens : List Token) (limit : Nat) :
    (marks tokens limit).map Mark.token = tokens := by
  rw [marks_eq]
  generalize State.start = s, [] = pending
  induction tokens generalizing s pending with
  | nil => rfl
  | cons t rest ih =>
    rw [fated_cons, matched, List.map_cons, ih]

variable {limit : Nat}

/-! Taking out what is skipped and what is counted against it. The two readings differ in nothing
but the count, and behind a skipped parenthesis that follows a factor, in whether an AND is
understood already. -/

/-- What the NOTs in front are in a reading of the tokens that are left; `past` says that a factor
stands right in front. -/
def Agrees (s : State) (past : Bool) (front : Option Front) : Prop :=
  front.getD .bare = s.ahead ∧ (past = true → s.front = none ∧ front = none)

theorem step_kept {s : State} {past : Bool} {front : Option Front} (agrees : Agrees s past front)
    {t : Token} (placed : past = true ∨ t.startsFactor = true)
    (kept : s.fate limit t ≠ .skipped ∧ s.fate limit t ≠ .swallowed) :
    step limit ⟨s.groups, s.level, front, 0⟩ t = { s.step limit t with skipped := 0 } := by
  obtain ⟨groups, level, before, skipped⟩ := s
  obtain ⟨same, apart⟩ := agrees
  simp only [ahead] at same
  cases t with
  | term text => simp [step, behind, ahead, same]
  | not =>
    by_cases beyond : limit ≤ enclosing groups + (before.getD .bare).nots <;>
      simp [step, atLimit, ahead, same, beyond]
  | openParen =>
    have within : ¬atLimit limit ⟨groups, level, before, skipped⟩ := by
      intro beyond
      simp [fate, beyond] at kept
    simp only [atLimit, ahead] at within
    simp [step, atLimit, ahead, same, within]
  | closeParen =>
    have nonePending : ¬0 < skipped := by
      intro pending
      simp [fate, pending] at kept
    -- It stands behind a factor, so neither reading expects one.
    obtain ⟨rfl, rfl⟩ := apart (by simpa [Token.startsFactor] using placed)
    simp only [step, nonePending, Nat.lt_irrefl, ↓reduceIte]
    cases groups <;> rfl
  | and =>
    obtain ⟨rfl, rfl⟩ := apart (by simpa [Token.startsFactor] using placed)
    rfl
  | or =>
    obtain ⟨rfl, rfl⟩ := apart (by simpa [Token.startsFactor] using placed)
    rfl

theorem agrees_step (limit : Nat) (s : State) (t : Token) :
    Agrees (s.step limit t) t.endsFactor (s.step limit t).front := by
  have ended := s.step_front limit (t := t)
  exact ⟨rfl, fun ends => ⟨ended ends, ended ends⟩⟩

/-- What is counted leaves everything but the count as it is. -/
theorem step_counted {s : State} {past : Bool} {front : Option Front}
    (agrees : Agrees s past front) {t : Token} (placed : past = true ∨ t.startsFactor = true)
    (counted : s.fate limit t = .skipped ∨ s.fate limit t = .swallowed) :
    (s.step limit t).groups = s.groups ∧ (s.step limit t).level = s.level ∧
      Agrees (s.step limit t) t.endsFactor front := by
  obtain ⟨same, apart⟩ := agrees
  cases t with
  | openParen =>
    have beyond : s.atLimit limit :=
      Decidable.byContradiction fun within => by simp [fate, within] at counted
    simp [step, beyond, Agrees, Token.endsFactor, same]
    rfl
  | closeParen =>
    have pending : 0 < s.skipped :=
      Decidable.byContradiction fun nonePending => by simp [fate, nonePending] at counted
    obtain ⟨-, rfl⟩ := apart (by simpa [Token.startsFactor] using placed)
    simp [step, pending, Agrees, ahead]
  | _ => simp [fate] at counted

/-- A query whose factors stand where they are expected is read as if the skipped parentheses were
not there, nor those that are counted against them. -/
theorem run_without_counted (tokens : List Token) (s : State) (pending : List Fate) (past : Bool)
    (front : Option Front) (agrees : Agrees s past front) (placed : Placed past tokens) :
    (run limit ⟨s.groups, s.level, front, 0⟩
        (((matched pending (s.fated limit tokens)).filter fun m => !m.isCounted).map
          Mark.token)).value =
      (s.run limit tokens).value := by
  induction tokens generalizing s pending past front with
  | nil => rfl
  | cons t rest ih =>
    obtain ⟨here, after⟩ := placed
    rw [fated_cons, matched, run_cons]
    by_cases counted : s.fate limit t = .skipped ∨ s.fate limit t = .swallowed
    · -- The token is taken out, and the other reading stays where it is.
      obtain ⟨groups, level, agrees⟩ := step_counted agrees here counted
      have following := ih _ (pendingAfter pending (s.fate limit t) t) _ front agrees after
      rw [groups, level] at following
      rw [List.filter_cons_of_neg (by rcases counted with h | h <;> simp [Mark.isCounted, h])]
      exact following
    · -- The token is kept, and both readings take the same step.
      rw [not_or] at counted
      have following := ih _ (pendingAfter pending (s.fate limit t) t) _ _
        (agrees_step limit s t) after
      rw [List.filter_cons_of_pos (by simpa [Mark.isCounted] using counted), List.map_cons,
        run_cons, step_kept agrees here counted]
      exact following

/-! As long as groups open apart from skipped parentheses, the skipped ones are the innermost of
those that are open. -/

def SkippedInnermost (s : State) (pending : List Fate) : Prop :=
  ∃ outer : List Fate, pending = List.replicate s.skipped .skipped ++ outer ∧ .skipped ∉ outer

theorem skippedInnermost_step {s next : State} {t : Token} {fate : Fate}
    (step : BracketStep s next t fate) {pending : List Fate}
    (innermost : SkippedInnermost s pending) (apart : ∀ n, fate = .group n → n = 0) :
    SkippedInnermost next (pendingAfter pending fate t) ∧
      (fate = .swallowed ↔ openerOf pending t = some .skipped) := by
  obtain ⟨outer, rfl, others⟩ := innermost
  cases step with
  | skip skipped groups =>
    refine ⟨⟨outer, ?_, others⟩, by simp [openerOf]⟩
    rw [skipped, List.replicate_succ]
    rfl
  | group skipped groups =>
    have nonePending := apart s.skipped rfl
    refine ⟨⟨.group s.skipped :: outer, ?_, by simpa using others⟩, by simp [openerOf]⟩
    simp [pendingAfter, skipped, nonePending]
  | swallow skipped groups =>
    rw [skipped, List.replicate_succ]
    exact ⟨⟨outer, rfl, others⟩, by simp [openerOf]⟩
  | close nonePending skipped groups =>
    rw [nonePending, List.replicate_zero, List.nil_append]
    refine ⟨⟨outer.tail, ?_, ?_⟩, ?_⟩
    · rw [skipped]
      rfl
    · exact fun member => others (List.mem_of_mem_tail member)
    · refine ⟨nofun, fun first => absurd ?_ others⟩
      exact List.mem_of_head? first
  | other opening closing skipped groups =>
    obtain ⟨same, noneClosed⟩ :=
      matching_other opening closing (List.replicate s.skipped .skipped ++ outer) .plain
    rw [same, noneClosed]
    exact ⟨⟨outer, by rw [skipped], others⟩, by simp⟩

theorem isPaired_eq_isCounted (tokens : List Token) {s : State} {pending : List Fate}
    (innermost : SkippedInnermost s pending)
    (apart : OpensApart (matched pending (s.fated limit tokens))) :
    ∀ m ∈ matched pending (s.fated limit tokens),
      m.isPaired = m.isCounted ∧ (m.fate = .swallowed → m.opener = some .skipped) := by
  induction tokens generalizing s pending with
  | nil => exact fun m member => nomatch member
  | cons t rest ih =>
    rw [fated_cons, matched] at apart ⊢
    obtain ⟨here, others⟩ := List.forall_mem_cons.mp apart
    obtain ⟨next, swallowed⟩ := skippedInnermost_step (step_brackets limit s t) innermost here
    refine List.forall_mem_cons.mpr ⟨⟨?_, swallowed.mp⟩, ih next others⟩
    rw [Mark.isPaired, Mark.isCounted]
    congr 1
    rw [Bool.eq_iff_iff, beq_iff_eq, beq_iff_eq]
    exact swallowed.symm

/-! Conversely, where every parenthesis is counted against its own, the count is that of the skipped
ones among those that are open. A group that begins on top of a skipped one cannot be closed then:
its parenthesis would be counted. -/

theorem skipped_eq_count_step {s next : State} {t : Token} {fate : Fate}
    (step : BracketStep s next t fate) {pending : List Fate}
    (count : s.skipped = pending.count .skipped)
    (own : fate = .swallowed → openerOf pending t = some .skipped) :
    next.skipped = (pendingAfter pending fate t).count .skipped := by
  cases step with
  | skip skipped groups => simp [pendingAfter, skipped, count]
  | group skipped groups => simp [pendingAfter, skipped, count]
  | swallow skipped groups =>
    obtain ⟨outer, rfl⟩ := List.head?_eq_some_iff.mp (own rfl)
    simp [skipped] at count
    simpa [pendingAfter] using count
  | close nonePending skipped groups =>
    have noneSkipped : .skipped ∉ pending := List.count_eq_zero.mp (count ▸ nonePending)
    rw [skipped, eq_comm, pendingAfter, List.count_eq_zero]
    exact fun member => noneSkipped (List.mem_of_mem_tail member)
  | other opening closing skipped groups =>
    rw [(matching_other opening closing pending .plain).1, skipped, count]

def Overtaken (pending : List Fate) : Prop :=
  ∃ inner f outer, pending = inner ++ f :: outer ∧ f ≠ .skipped ∧ .skipped ∈ outer

theorem overtaken_stays (tokens : List Token) {s : State} {pending : List Fate}
    (overtaken : Overtaken pending) (count : s.skipped = pending.count .skipped)
    (own : CountsOwn (matched pending (s.fated limit tokens))) :
    openAfter pending.length tokens ≠ some 0 := by
  induction tokens generalizing s pending with
  | nil =>
    obtain ⟨inner, f, outer, rfl, -, -⟩ := overtaken
    simp [openAfter]
  | cons t rest ih =>
    rw [fated_cons, matched] at own
    obtain ⟨here, others⟩ := List.forall_mem_cons.mp own
    have next := skipped_eq_count_step (step_brackets limit s t) count here
    obtain ⟨inner, f, outer, rfl, group, member⟩ := overtaken
    cases t with
    | openParen =>
      exact ih ⟨_ :: inner, f, outer, rfl, group, member⟩ next others
    | closeParen =>
      cases inner with
      | nil =>
        -- The group would close here, but its parenthesis is counted against the one outside.
        have pending : 0 < s.skipped := by
          rw [count]
          exact List.count_pos_iff.mpr (List.mem_cons_of_mem f member)
        have opener := here (by simp [fate, pending])
        exact absurd (Option.some.inj opener) group
      | cons g inner => exact ih ⟨inner, f, outer, rfl, group, member⟩ next others
    | term text => exact ih ⟨inner, f, outer, rfl, group, member⟩ next others
    | and => exact ih ⟨inner, f, outer, rfl, group, member⟩ next others
    | or => exact ih ⟨inner, f, outer, rfl, group, member⟩ next others
    | not => exact ih ⟨inner, f, outer, rfl, group, member⟩ next others

theorem openAfter_pendingAfter {pending : List Fate} {t : Token} {rest : List Token} {n : Nat}
    (fate : Fate) (balanced : openAfter pending.length (t :: rest) = some n) :
    openAfter (pendingAfter pending fate t).length rest = some n := by
  cases t with
  | closeParen =>
    cases pending with
    | nil => simp [openAfter] at balanced
    | cons f outer => simpa [openAfter, pendingAfter] using balanced
  | _ => exact balanced

theorem opensApart_of_countsOwn (tokens : List Token) {s : State} {pending : List Fate}
    (count : s.skipped = pending.count .skipped)
    (own : CountsOwn (matched pending (s.fated limit tokens)))
    (balanced : openAfter pending.length tokens = some 0) :
    OpensApart (matched pending (s.fated limit tokens)) := by
  induction tokens generalizing s pending with
  | nil => exact fun m member => nomatch member
  | cons t rest ih =>
    rw [fated_cons, matched] at own ⊢
    obtain ⟨here, others⟩ := List.forall_mem_cons.mp own
    have step := step_brackets limit s t
    have next := skipped_eq_count_step step count here
    have balance := openAfter_pendingAfter (s.fate limit t) balanced
    refine List.forall_mem_cons.mpr ⟨fun n fate => ?_, ih next others balance⟩
    change s.fate limit t = .group n at fate
    rw [fate] at step next others balance
    cases step with
    | group _ _ =>
      -- A group that begins inside a skipped parenthesis stays open to the end.
      refine Decidable.byContradiction fun pendingSkipped => ?_
      have member : .skipped ∈ pending := List.count_pos_iff.mp (by omega)
      exact overtaken_stays rest ⟨[], .group s.skipped, pending, rfl, nofun, member⟩ next others
        balance

/-- A query is read as if what is skipped and what is counted against it were not there. These are
matching parentheses, and the query may be read without the skipped pairs instead, exactly if no
group begins while a skipped parenthesis has not closed. -/
theorem flattening_iff (a : Alternatives) (limit : Nat) :
    parse (withoutCounted a.tokens limit) limit = parse a.tokens limit ∧
      (parse (withoutPairs a.tokens limit) limit = parse a.tokens limit ∧
          CountsOwn (marks a.tokens limit) ↔
        OpensApart (marks a.tokens limit)) := by
  have counted : parse (withoutCounted a.tokens limit) limit = parse a.tokens limit := by
    rw [parse_eq_run, parse_eq_run, withoutCounted, marks_eq]
    exact run_without_counted a.tokens .start [] false (some .bare) ⟨rfl, nofun⟩ a.placed
  refine ⟨counted, fun claimed => ?_, fun apart => ?_⟩
  · rw [marks_eq] at claimed ⊢
    exact opensApart_of_countsOwn a.tokens rfl claimed.2 a.balanced
  · rw [marks_eq] at apart
    have innermost : SkippedInnermost .start [] := ⟨[], rfl, List.not_mem_nil⟩
    have same := isPaired_eq_isCounted a.tokens innermost apart
    have without : withoutPairs a.tokens limit = withoutCounted a.tokens limit := by
      rw [withoutPairs, withoutCounted, marks_eq]
      exact congrArg (List.map Mark.token)
        (List.filter_congr fun m member => by rw [(same m member).1])
    refine ⟨by rw [without, counted], ?_⟩
    rw [marks_eq]
    exact fun m member => (same m member).2

/-- The query `NOT (a (b) OR c)`. Under a limit of one its outer parentheses are skipped. -/
def groupInSkipped : Alternatives :=
  .one (.one (.not (.group (.or
    (.one (.adjacent (.one (.term "a")) (.group (.one (.one (.term "b"))))))
    (.one (.term "c"))))))

/-- In `NOT (a (b) OR c)` the parenthesis behind `b` is counted against the skipped one, so that the
inner group goes on and takes in the alternative. -/
theorem flattening_moves_group_end :
    parse (withoutPairs groupInSkipped.tokens 1) 1 ≠ parse groupInSkipped.tokens 1 ∧
      ¬CountsOwn (marks groupInSkipped.tokens 1) := by
  rw [parse_eq_run, parse_eq_run, withoutPairs, marks_eq, CountsOwn]
  decide

end BookmarkSearch.Query
