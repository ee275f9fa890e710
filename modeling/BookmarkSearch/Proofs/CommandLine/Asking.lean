import BookmarkSearch.Proofs.CommandLine.Given

/-!
Arguments that ask for a saved query, with a directory and a bookmark file of any name.
-/

namespace BookmarkSearch.CommandLine

open Saved Text

/-- An option with its value in one argument, so that the value may begin with a dash. -/
def attached (name value : String) : String := "--" ++ name ++ "=" ++ value

theorem toList_attached (name value : String) :
    (attached name value).toList = '-' :: '-' :: (name.toList ++ '=' :: value.toList) := by
  simp [attached]

theorem ofArgument_attached {name : String} (nonempty : name.toList ≠ [])
    (plain : '=' ∉ name.toList) (value : String) :
    Word.ofArgument (attached name value) = .long name (some value) := by
  have inside : ∀ d ∈ name.toList, (d != '=') = true := by
    rintro d member
    rw [bne_iff_ne]
    rintro rfl
    exact plain member
  have ends : ∀ d ∈ ('=' :: value.toList).head?, (d != '=') = false := by
    rintro d ⟨⟩
    rfl
  have front : (name.toList ++ '=' :: value.toList).takeWhile (· != '=') = name.toList :=
    Unicode.takeWhile_run inside ends
  have back : (name.toList ++ '=' :: value.toList).dropWhile (· != '=') = '=' :: value.toList :=
    Unicode.dropWhile_run inside ends
  rw [Word.ofArgument, toList_attached]
  obtain ⟨c, tail, whole⟩ := List.exists_cons_of_ne_nil nonempty
  split
  · rename_i same
    rw [whole] at same
    cases same
  · rename_i rest _ same
    obtain rfl : name.toList ++ '=' :: value.toList = rest := by simpa using same
    simp only [back, front, String.ofList_toList]
  · rename_i other same
    cases same
    exact absurd rfl other
  · rename_i other
    exact absurd rfl (other '-' _)

theorem ofArgument_number (n : Nat) : Word.ofArgument (toString n) = .plain := by
  rw [Word.ofArgument, toList_toString]
  split
  · rename_i dashes
    exact absurd dashes (toDigits_ne List.mem_cons_self rfl)
  · rename_i dashes
    exact absurd dashes (toDigits_ne List.mem_cons_self rfl)
  · rename_i dash
    exact absurd dash (toDigits_ne List.mem_cons_self rfl)
  · rfl

namespace Shape

variable (shape : Shape) (g : Given) (rest : List String)

theorem readFrom_attached {name value : String} {kind : ValueKind}
    (word : Word.ofArgument (attached name value) = .long name (some value))
    (outside : shape.commands.contains (attached name value) = false)
    (known : shape.options.lookup name = some kind) (fresh : g.option? name = none)
    (fit : kind.accepts value = true) :
    shape.readFrom g (attached name value :: rest) =
      shape.readFrom ⟨(name, value) :: g.options, g.flags, g.plain⟩ rest := by
  have added : g.addOption name kind value =
      .ok ⟨(name, value) :: g.options, g.flags, g.plain⟩ := by
    rw [Given.addOption, if_pos ⟨by rw [fresh]; rfl, fit⟩]
  rw [readFrom.eq_def]
  simp only [outside, word, known, added, Bool.false_eq_true, ↓reduceIte]
  rfl

theorem readFrom_plain {value : String} {kind : ValueKind}
    (word : Word.ofArgument value = .plain) (outside : shape.commands.contains value = false)
    (place : shape.places[g.plain.length]? = some kind) (fit : kind.accepts value = true) :
    shape.readFrom g (value :: rest) =
      shape.readFrom ⟨g.options, g.flags, g.plain ++ [value]⟩ rest := by
  have added : g.addPlain shape value = .ok ⟨g.options, g.flags, g.plain ++ [value]⟩ := by
    rw [Given.addPlain, place]
    exact if_pos fit
  rw [readFrom.eq_def]
  simp only [outside, word, added, Bool.false_eq_true, ↓reduceIte]
  rfl

theorem readFrom_command {name : String} (inside : shape.commands.contains name = true) :
    shape.readFrom g (name :: rest) = .ok (g, some (name, rest)) := by
  rw [readFrom.eq_def]
  simp only [inside, ↓reduceIte]

end Shape

def runArguments (dataDir : String) (id : Nat) (path : Option String) : List String :=
  attached "data-dir" dataDir :: "saved" :: "run" :: toString id ::
    (path.map (attached "bookmarks")).toList

theorem ofArgument_dataDir (dir : String) :
    Word.ofArgument (attached "data-dir" dir) = .long "data-dir" (some dir) :=
  ofArgument_attached (by decide) (by decide) dir

theorem ofArgument_bookmarks (path : String) :
    Word.ofArgument (attached "bookmarks" path) = .long "bookmarks" (some path) :=
  ofArgument_attached (by decide) (by decide) path

theorem attached_not_command (dir : String) :
    programShape.commands.contains (attached "data-dir" dir) = false := by
  have dashed : (attached "data-dir" dir).toList.head? = some '-' := by rw [toList_attached]; rfl
  rw [← Bool.not_eq_true, List.contains_iff_mem]
  intro member
  have named : ∀ name ∈ programShape.commands, name.toList.head? ≠ some '-' := by decide
  exact named _ member dashed

theorem read_runArguments {id : Nat} {path : Option String} (small : id < numberBound)
    (named : ∀ p, path = some p → p ≠ "") :
    runShape.read (toString id :: (path.map (attached "bookmarks")).toList) =
      .ok (⟨(path.map (("bookmarks", ·))).toList, [], [toString id]⟩, none) := by
  have number : ValueKind.number.accepts (toString id) = true := by
    rw [ValueKind.accepts, readNumber_toString small]
    rfl
  have first := runShape.readFrom_plain .nothing (path.map (attached "bookmarks")).toList
    (ofArgument_number id) rfl rfl number
  have whole : runShape.readFrom .nothing
      (toString id :: (path.map (attached "bookmarks")).toList) =
        .ok (⟨(path.map (("bookmarks", ·))).toList, [], [toString id]⟩, none) := by
    rw [first]
    cases path with
    | none => rfl
    | some p =>
      exact runShape.readFrom_attached ⟨[], [], [toString id]⟩ [] (ofArgument_bookmarks p) rfl rfl
        rfl (bne_iff_ne.mpr (named p rfl))
  rw [Shape.read, whole]
  rfl

theorem readId_number {g : Given} {id : Nat} (only : g.plain = [toString id])
    (small : id < numberBound) : readId g = .ok id := by
  have one : g.only = .ok (toString id) := by rw [Given.only, only]
  simp only [readId, one, bind, Except.bind, readNumber_toString small]
  rfl

/-- A saved query can be asked for under every number that is small enough. -/
theorem ofArguments_runArguments {dataDir : String} {id : Nat} {path : Option String}
    (directory : dataDir ≠ "") (small : id < numberBound)
    (named : ∀ p, path = some p → p ≠ "") :
    Invocation.ofArguments (runArguments dataDir id path) = .ok ⟨dataDir, .runSaved id path⟩ := by
  have top : programShape.read (runArguments dataDir id path) =
      .ok (⟨[("data-dir", dataDir)], [], []⟩,
        some ("saved", "run" :: toString id :: (path.map (attached "bookmarks")).toList)) := by
    have first := programShape.readFrom_attached .nothing
      ("saved" :: "run" :: toString id :: (path.map (attached "bookmarks")).toList)
      (ofArgument_dataDir dataDir) (attached_not_command dataDir) rfl rfl
      (bne_iff_ne.mpr directory)
    rw [Shape.read, runArguments, first, Shape.readFrom_command _ _ _ rfl]
    rfl
  have middle : savedShape.read
      ("run" :: toString id :: (path.map (attached "bookmarks")).toList) =
        .ok (.nothing, some ("run", toString id :: (path.map (attached "bookmarks")).toList)) := by
    rw [Shape.read, Shape.readFrom_command _ _ _ rfl]
    rfl
  have last := read_runArguments small named
  have number : readId ⟨(path.map (("bookmarks", ·))).toList, [], [toString id]⟩ = .ok id :=
    readId_number rfl small
  have command : readSaved "run" (toString id :: (path.map (attached "bookmarks")).toList) =
      .ok (⟨(path.map (("bookmarks", ·))).toList, [], [toString id]⟩, .runSaved id path) := by
    simp only [readSaved, last, bind, Except.bind, number]
    cases path <;> rfl
  rw [Invocation.ofArguments, readCommand, top]
  simp only [bind, Except.bind, middle, command]
  cases path <;> rfl

end BookmarkSearch.CommandLine
