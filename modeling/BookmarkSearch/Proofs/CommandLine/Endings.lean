import BookmarkSearch.CommandLine.Files
import BookmarkSearch.Proofs.CommandLine.Repetition

/-!
What a run leaves of the saved queries. One that fails leaves all of them; of those that succeed
only a few commands change anything, and each only what it is there for.
-/

namespace BookmarkSearch.CommandLine

open Query Saved Search

namespace Command

def Leaves : Command → Option Store → Option Store → Prop
  | .search query _ _ true, before, after =>
    ∃ old new, before = some old ∧ after = some new ∧
      (new = old ∨ ∃ s : SavedQuery, s.query.text = Unicode.trim query ∧
        new.records = old.records ++ [(old.nextId, s.encode)])
  | .removeSaved id, before, after =>
    ∃ old new front bytes back, before = some old ∧ after = some new ∧
      old.records = front ++ (id, bytes) :: back ∧ new.records = front ++ back
  | .clearSaved, before, after => before.isSome ∧ after = some Store.empty
  | _, before, after => after = before

end Command

def Reverts (act : Store → Except Failure Report × Store) : Prop :=
  ∀ store cause next, act store = (.error cause, next) → next = store

theorem saveQuery_reverts (query : String) (mode : Mode) : Reverts (saveQuery query mode) := by
  intro store cause next failed
  cases valid : QueryText.ofString query with
  | error cause =>
    rw [saveQuery, valid] at failed
    cases failed
    rfl
  | ok text =>
    rcases kept : store.save ⟨text, mode⟩ with ⟨cause | given, left⟩
    · simp only [saveQuery, valid, kept] at failed
      cases failed
      exact Store.save_reverts kept
    · rw [saveQuery_ok valid kept] at failed
      cases failed

theorem removeSaved_reverts (id : Nat) : Reverts (removeSaved id) := by
  intro store cause next failed
  rcases removed : store.remove id with ⟨cause | done, left⟩
  · simp only [removeSaved, removed] at failed
    cases failed
    exact Store.remove_reverts removed
  · simp only [removeSaved, removed] at failed
    cases failed

theorem clearSaved_reverts : Reverts clearSaved := nofun

section Commands

variable {settings : Settings} {dataDir : String} {scene : Scene} {command : Command}
  {act : Store → Except Failure Report × Store}

/-- The saved queries are left as what is done with them leaves them, whether or not it fails. -/
theorem storeAfter_onStore : (scene.onStore dataDir act).storeAfter scene =
    scene.store.map fun store => (act store).2 := by
  cases opened : scene.store with
  | none =>
    rw [Answer.storeAfter, Scene.onStore, opened]
    rfl
  | some store =>
    simp only [Answer.storeAfter, Scene.onStore, opened, Option.map_some]
    rcases act store with ⟨cause | report, next⟩
    · rfl
    · rfl

theorem storeAfter_kept (keeps : ∀ store, (act store).2 = store) :
    (scene.onStore dataDir act).storeAfter scene = scene.store := by
  simp only [storeAfter_onStore, keeps, Option.map_id_fun', id_eq]

theorem storeAfter_failing (reverts : Reverts act)
    (fails : (scene.onStore dataDir act).failure ≠ none) :
    (scene.onStore dataDir act).storeAfter scene = scene.store := by
  rw [storeAfter_onStore]
  cases opened : scene.store with
  | none => rfl
  | some store =>
    rcases done : act store with ⟨cause | report, next⟩
    · rw [Option.map_some, done, reverts store cause next done]
    · rw [Scene.onStore_ok opened done] at fails
      exact absurd rfl fails

theorem storeAfter_ok (succeeds : (scene.onStore dataDir act).failure = none) :
    ∃ store report next, scene.store = some store ∧ act store = (.ok report, next) ∧
      (scene.onStore dataDir act).storeAfter scene = some next := by
  obtain ⟨store, report, next, opened, done⟩ := Scene.exists_of_onStore succeeds
  refine ⟨store, report, next, opened, done, ?_⟩
  rw [storeAfter_onStore, opened, Option.map_some, done]

theorem runWith_failing (fails : (runWith settings dataDir scene command).failure ≠ none) :
    (runWith settings dataDir scene command).storeAfter scene = scene.store := by
  cases command with
  | search query path mode save =>
    simp only [runWith] at fails ⊢
    cases found : scene.find settings query path (mode.union settings.mode) with
    | error cause => rfl
    | ok outcome =>
      cases save with
      | false => rfl
      | true =>
        rw [found] at fails
        exact storeAfter_failing (saveQuery_reverts query (mode.union settings.mode)) fails
  | listSaved => exact storeAfter_kept fun _ => rfl
  | removeSaved id => exact storeAfter_failing (removeSaved_reverts id) fails
  | runSaved id path => exact storeAfter_kept fun _ => rfl
  | clearSaved => exact storeAfter_failing clearSaved_reverts fails

theorem runWith_leaves (succeeds : (runWith settings dataDir scene command).failure = none) :
    command.Leaves scene.store ((runWith settings dataDir scene command).storeAfter scene) := by
  cases command with
  | search query path mode save =>
    simp only [runWith] at succeeds ⊢
    cases found : scene.find settings query path (mode.union settings.mode) with
    | error cause =>
      rw [found] at succeeds
      cases succeeds
    | ok outcome =>
      cases save with
      | false => rfl
      | true =>
        rw [found] at succeeds
        have saved : (scene.onStore dataDir (saveQuery query (mode.union settings.mode))).failure =
          none := succeeds
        obtain ⟨store, report, next, opened, done, after⟩ := storeAfter_ok saved
        obtain ⟨text, given, valid, kept, -⟩ := exists_of_saveQuery done
        refine ⟨store, next, opened, after, ?_⟩
        rcases Store.save_cases kept with ⟨_, -, -, same⟩ | ⟨-, -, same⟩ | ⟨-, -, more⟩
        · exact .inl same
        · exact .inl same
        · exact .inr ⟨_, Search.text_of_ofString valid, more⟩
  | listSaved => exact storeAfter_kept fun _ => rfl
  | removeSaved id =>
    obtain ⟨store, report, next, opened, done, after⟩ := storeAfter_ok succeeds
    rcases removed : store.remove id with ⟨answer, left⟩
    simp only [removeSaved, removed] at done
    obtain ⟨told, rfl⟩ := Prod.mk.inj done
    rcases Store.remove_cases removed with ⟨rfl, -⟩ | ⟨front, bytes, back, -, whole, rest⟩
    · cases told
    · exact ⟨store, left, front, bytes, back, opened, after, whole, rest⟩
  | runSaved id path => exact storeAfter_kept fun _ => rfl
  | clearSaved =>
    obtain ⟨store, report, next, opened, done, after⟩ := storeAfter_ok succeeds
    cases done
    exact ⟨by rw [opened]; rfl, after⟩

end Commands

theorem run_failing {i : Invocation} {scene : Scene} (fails : (run i scene).failure ≠ none) :
    (run i scene).storeAfter scene = scene.store := by
  unfold run at fails ⊢
  split
  · rfl
  · rename_i settings loaded
    rw [loaded] at fails
    exact runWith_failing fails

theorem run_leaves {i : Invocation} {scene : Scene} (succeeds : (run i scene).failure = none) :
    i.command.Leaves scene.store ((run i scene).storeAfter scene) := by
  unfold run at succeeds ⊢
  split
  · rename_i loaded
    rw [loaded] at succeeds
    cases succeeds
  · rename_i settings loaded
    rw [loaded] at succeeds
    exact runWith_leaves succeeds

theorem readable_storeIn {database : FileContent} {store : Store}
    (found : storeIn database = some store) : Store.Readable store.records := by
  cases database with
  | missing =>
    cases found
    intro r member
    cases member
  | unreadable => cases found
  | bytes content => exact Store.readable_of_decode? found

/-- What a command leaves can be read from the file again. -/
theorem Command.Leaves.readable {command : Command} {before after : Option Store}
    (leaves : command.Leaves before after)
    (readable : ∀ old, before = some old → Store.Readable old.records)
    (small : ∀ old, before = some old → ∀ r ∈ old.records, r.1 < numberBound - 1) :
    ∀ new, after = some new → Store.Readable new.records := by
  intro new left
  unfold Leaves at leaves
  split at leaves
  · obtain ⟨old, _, found, rfl, rfl | ⟨s, -, more⟩⟩ := leaves
    · cases left
      exact readable _ found
    · cases left
      intro r member
      rw [more] at member
      rcases List.mem_append.mp member with there | added
      · exact readable old found r there
      · obtain rfl := List.mem_singleton.mp added
        exact ⟨Store.nextId_lt (small old found), s.encode_length_lt⟩
  · obtain ⟨old, _, front, bytes, back, found, rfl, whole, rest⟩ := leaves
    cases left
    intro r member
    have kept : r ∈ old.records := by
      rw [rest] at member
      rw [whole]
      exact List.mem_append.mpr ((List.mem_append.mp member).imp_right (List.mem_cons_of_mem _))
    exact readable old found r kept
  · obtain ⟨-, rfl⟩ := leaves
    cases left
    intro r member
    cases member
  · subst leaves
    exact readable new left

/-- The database file holds the saved queries after a run, whether or not it has been written. -/
theorem storeIn_databaseAfter {a : Answer} {files : Files}
    (readable : ∀ new, a.storeAfter files.scene = some new → Store.Readable new.records) :
    storeIn (a.databaseAfter files.database) = a.storeAfter files.scene := by
  cases opened : a.store with
  | none =>
    rw [Answer.databaseAfter, Answer.storeAfter, opened]
    rfl
  | some store =>
    have after : a.storeAfter files.scene = some store := by
      rw [Answer.storeAfter, opened]
      rfl
    rw [Answer.databaseAfter, opened, after]
    exact Store.decode?_encode store (readable store after)

theorem code_ne_zero {a : Answer} (fails : a.code ≠ 0) : a.failure ≠ none := by
  intro none
  rw [Answer.code, none] at fails
  exact fails rfl

/-- Whatever the files hold and the arguments are, a run that fails leaves the saved queries as they
were. One that succeeds adds a record at most, when it saves a query, takes away the one record it
is to remove, or clears them all; every other command changes nothing. -/
theorem execute_leaves (args : List String) (files : Files)
    (small : ∀ old, storeIn files.database = some old → ∀ r ∈ old.records, r.1 < numberBound - 1) :
    ((execute args files).code ≠ 0 →
      storeIn (execute args files).database = storeIn files.database) ∧
    (∀ stop, Invocation.ofArguments args = .error stop →
      (execute args files).database = files.database) ∧
    ∀ i, Invocation.ofArguments args = .ok i → (execute args files).code = 0 →
      i.command.Leaves (storeIn files.database) (storeIn (execute args files).database) := by
  have readable : ∀ old, storeIn files.database = some old → Store.Readable old.records :=
    fun _ => readable_storeIn
  cases asked : Invocation.ofArguments args with
  | error stop =>
    have ending : execute args files = ⟨stop.code, files.database⟩ := by
      simp only [execute, asked]
    rw [ending]
    exact ⟨fun _ => rfl, fun _ _ => rfl, nofun⟩
  | ok i =>
    have ending : execute args files = ⟨(run i files.scene).code,
        (run i files.scene).databaseAfter files.database⟩ := by
      simp only [execute, asked]
    rw [ending]
    refine ⟨fun fails => ?_, nofun, fun _ same succeeds => ?_⟩
    · have kept : (run i files.scene).storeAfter files.scene = storeIn files.database :=
        run_failing (code_ne_zero fails)
      rw [storeIn_databaseAfter (by rwa [kept]), kept]
    · cases same
      have leaves := run_leaves (code_eq_zero succeeds)
      rwa [storeIn_databaseAfter (leaves.readable readable small)]

def damagedStore : Store :=
  ⟨[(2, [9]), (4, [1, 2, 0x67, 0x6F, 0, 0])], by decide⟩

def damagedFiles : Files where
  settings := .missing
  bookmarks := fun _ => .bytes (Text.bytesOf "[[\"Maps\",\"https://maps.example\",\"tag:maps\"]]")
  database := .bytes damagedStore.encode

/-- A query cannot be saved as long as there is a record in front that cannot be read, and that
record can be removed. -/
theorem execute_leaves_damaged_record :
    let saving := ["search", "maps", "--save", "--bookmarks=b.json"]
    let removing := ["saved", "remove", "2"]
    (∀ old, storeIn damagedFiles.database = some old →
      ∀ r ∈ old.records, r.1 < numberBound - 1) ∧
    (execute saving damagedFiles).code ≠ 0 ∧
    storeIn (execute saving damagedFiles).database = storeIn damagedFiles.database ∧
    Invocation.ofArguments removing = .ok ⟨".marksift", .removeSaved 2⟩ ∧
    (execute removing damagedFiles).code = 0 ∧
    (Command.removeSaved 2).Leaves (storeIn damagedFiles.database)
      (storeIn (execute removing damagedFiles).database) := by
  intro saving removing
  have found : storeIn damagedFiles.database = some damagedStore := by
    refine Store.decode?_encode damagedStore ?_
    unfold Store.Readable
    decide
  have small : ∀ old, storeIn damagedFiles.database = some old →
      ∀ r ∈ old.records, r.1 < numberBound - 1 := by
    intro old read
    obtain rfl := Option.some.inj (found.symm.trans read)
    decide
  have fails : (execute saving damagedFiles).code ≠ 0 := by decide +kernel
  have asked : Invocation.ofArguments removing = .ok ⟨".marksift", .removeSaved 2⟩ := by
    decide +kernel
  have succeeds : (execute removing damagedFiles).code = 0 := by decide +kernel
  exact ⟨small, fails, (execute_leaves saving damagedFiles small).1 fails, asked, succeeds,
    (execute_leaves removing damagedFiles small).2.2 _ asked succeeds⟩

end BookmarkSearch.CommandLine
