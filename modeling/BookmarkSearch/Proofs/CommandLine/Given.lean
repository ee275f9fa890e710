import BookmarkSearch.CommandLine.Invocation
import BookmarkSearch.Proofs.Text.Digits

/-!
What has been read from arguments is fit for what it stands for: the directory and the bookmark file
of an invocation have names. So a saved query can be asked for with the same ones.
-/

namespace BookmarkSearch.CommandLine

open Saved

theorem exists_of_bind {ε α β : Type} {x : Except ε α} {f : α → Except ε β} {b : β}
    (done : x >>= f = .ok b) : ∃ a, x = .ok a ∧ f a = .ok b := by
  cases x with
  | error cause => cases done
  | ok a => exact ⟨a, rfl, done⟩

namespace Given

def Fit (shape : Shape) (g : Given) : Prop :=
  ∀ name value, g.option? name = some value →
    ∃ kind, shape.options.lookup name = some kind ∧ kind.accepts value = true

variable {shape : Shape} {g next : Given}

theorem fit_nothing (shape : Shape) : nothing.Fit shape := by
  intro name value found
  cases found

theorem fit_addOption (fit : g.Fit shape) {name value : String} {kind : ValueKind}
    (known : shape.options.lookup name = some kind)
    (added : g.addOption name kind value = .ok next) : next.Fit shape := by
  rw [addOption] at added
  split at added
  · rename_i accepted
    cases added
    intro other v found
    simp only [option?, List.lookup_cons] at found
    split at found
    · rename_i same
      cases found
      rw [beq_iff_eq.mp same]
      exact ⟨kind, known, accepted.2⟩
    · exact fit other v found
  · cases added

theorem fit_addFlag (fit : g.Fit shape) {name : String} (added : g.addFlag name = .ok next) :
    next.Fit shape := by
  rw [addFlag] at added
  split at added
  · cases added
  · cases added
    exact fit

theorem fit_addPlain (fit : g.Fit shape) {value : String}
    (added : g.addPlain shape value = .ok next) : next.Fit shape := by
  rw [addPlain] at added
  split at added
  · split at added
    · cases added
      exact fit
    · cases added
  · cases added

theorem fit_addAll (fit : g.Fit shape) (args : List String)
    (added : args.foldlM (Given.addPlain shape) g = .ok next) : next.Fit shape := by
  induction args generalizing g with
  | nil =>
    cases added
    exact fit
  | cons arg rest ih =>
    rw [List.foldlM_cons] at added
    obtain ⟨more, first, others⟩ := exists_of_bind added
    exact ih (fit_addPlain fit first) others

end Given

namespace Shape

variable {shape : Shape} {g next : Given} {after : Next}

theorem fit_readFlag (fit : g.Fit shape) {name : String} {attached : Option String}
    (read : shape.readFlag g name attached = .ok next) : next.Fit shape := by
  rw [readFlag] at read
  split at read
  · cases read
  split at read
  · exact Given.fit_addFlag fit read
  split at read
  · cases read
  split at read <;> cases read

theorem fit_readFrom (fit : g.Fit shape) {args : List String}
    (read : shape.readFrom g args = .ok (next, after)) : next.Fit shape := by
  fun_induction readFrom shape g args with
  | case1 g =>
    cases read
    exact fit
  | case2 g arg rest command =>
    cases read
    exact fit
  | case3 g arg rest _ plain ih =>
    obtain ⟨more, added, others⟩ := exists_of_bind read
    exact ih more (Given.fit_addPlain fit added) others
  | case4 g arg rest _ ended =>
    obtain ⟨more, added, last⟩ := exists_of_bind read
    cases last
    exact Given.fit_addAll fit rest added
  | case5 => cases read
  | case6 g arg rest _ name attached _ flag ih =>
    obtain ⟨more, added, others⟩ := exists_of_bind read
    exact ih more (fit_readFlag fit added) others
  | case7 g arg rest _ name kind known value _ ih =>
    obtain ⟨more, added, others⟩ := exists_of_bind read
    exact ih more (Given.fit_addOption fit known added) others
  | case8 => cases read
  | case9 g arg _ name kind known value rest _ _ ih =>
    obtain ⟨more, added, others⟩ := exists_of_bind read
    exact ih more (Given.fit_addOption fit known added) others
  | case10 => cases read

theorem fit_read {args : List String} (read : shape.read args = .ok (next, after)) :
    next.Fit shape := by
  obtain ⟨⟨found, later⟩, first, rest⟩ := exists_of_bind read
  have fit := fit_readFrom (Given.fit_nothing shape) first
  dsimp only at rest
  split at rest
  · cases rest
    exact fit
  · cases rest

end Shape

/-- A name that is read as that of a file or directory is not empty. -/
theorem Given.named {shape : Shape} {g : Given} (fit : g.Fit shape) {name value : String}
    (path : shape.options.lookup name = some .path) (found : g.option? name = some value) :
    value ≠ "" := by
  obtain ⟨kind, known, accepted⟩ := fit name value found
  rw [path] at known
  cases known
  exact bne_iff_ne.mp accepted

theorem readSaved_fit {name : String} {args : List String} {g : Given} {command : Command}
    (read : readSaved name args = .ok (g, command)) :
    (∀ dir, g.option? "data-dir" = some dir → dir ≠ "") ∧
      ∀ path, command.bookmarks? = some path → path ≠ "" := by
  unfold readSaved at read
  split at read
  · obtain ⟨⟨_, _⟩, first, rest⟩ := exists_of_bind read
    cases rest
    exact ⟨fun _ => Given.named (Shape.fit_read first) rfl, nofun⟩
  · obtain ⟨⟨_, _⟩, first, rest⟩ := exists_of_bind read
    obtain ⟨_, _, rest⟩ := exists_of_bind rest
    cases rest
    exact ⟨fun _ => Given.named (Shape.fit_read first) rfl, nofun⟩
  · obtain ⟨⟨_, _⟩, first, rest⟩ := exists_of_bind read
    obtain ⟨_, _, rest⟩ := exists_of_bind rest
    cases rest
    exact ⟨fun _ => Given.named (Shape.fit_read first) rfl,
      fun _ => Given.named (Shape.fit_read first) rfl⟩
  · obtain ⟨⟨_, _⟩, first, rest⟩ := exists_of_bind read
    cases rest
    exact ⟨fun _ => Given.named (Shape.fit_read first) rfl, nofun⟩
  · cases read

theorem readCommand_fit {args : List String} {given : List Given} {command : Command}
    (read : readCommand args = .ok (given, command)) :
    (∀ g ∈ given, ∀ dir, g.option? "data-dir" = some dir → dir ≠ "") ∧
      ∀ path, command.bookmarks? = some path → path ≠ "" := by
  obtain ⟨⟨top, next⟩, first, rest⟩ := exists_of_bind read
  have above : ∀ dir, top.option? "data-dir" = some dir → dir ≠ "" :=
    fun _ => Given.named (Shape.fit_read first) rfl
  dsimp only at rest
  split at rest
  · obtain ⟨⟨g, _⟩, inner, rest⟩ := exists_of_bind rest
    obtain ⟨_, _, rest⟩ := exists_of_bind rest
    cases rest
    have fit := Shape.fit_read inner
    refine ⟨?_, fun _ => Given.named fit rfl⟩
    simp only [List.forall_mem_cons]
    exact ⟨fun _ => Given.named fit rfl, above, nofun⟩
  · obtain ⟨⟨middle, later⟩, inner, rest⟩ := exists_of_bind rest
    have between : ∀ dir, middle.option? "data-dir" = some dir → dir ≠ "" :=
      fun _ => Given.named (Shape.fit_read inner) rfl
    dsimp only at rest
    split at rest
    · obtain ⟨⟨g, _⟩, last, rest⟩ := exists_of_bind rest
      cases rest
      obtain ⟨here, path⟩ := readSaved_fit last
      refine ⟨?_, path⟩
      simp only [List.forall_mem_cons]
      exact ⟨here, between, above, nofun⟩
    · cases rest
  · cases rest
  · cases rest

/-- The directory and the bookmark file of an invocation have names. -/
theorem Invocation.named {args : List String} {i : Invocation}
    (read : ofArguments args = .ok i) :
    i.dataDir ≠ "" ∧ ∀ path, i.command.bookmarks? = some path → path ≠ "" := by
  obtain ⟨⟨given, command⟩, first, rest⟩ := exists_of_bind read
  obtain ⟨dirs, path⟩ := readCommand_fit first
  cases rest
  refine ⟨?_, path⟩
  dsimp only
  cases found : given.findSome? (·.option? "data-dir") with
  | none => decide
  | some dir =>
    obtain ⟨g, member, here⟩ := List.exists_of_findSome?_eq_some found
    exact dirs g member dir here

end BookmarkSearch.CommandLine
