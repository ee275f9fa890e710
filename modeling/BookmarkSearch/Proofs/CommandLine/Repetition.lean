import Mathlib.Data.List.TakeWhile
import BookmarkSearch.CommandLine.Run
import BookmarkSearch.Proofs.CommandLine.Asking
import BookmarkSearch.Proofs.Saved.Retrieval
import BookmarkSearch.Proofs.Search.Scan

/-!
A search whose query has been saved can be repeated. The query is saved without the blanks around
it, in the mode the search was done in, and neither makes a difference to what is found.
-/

namespace BookmarkSearch.Unicode

theorem isAllBlank_iff (s : String) : isAllBlank s = true ↔ trim s = "" := by
  rw [trim, String.ofList_eq_empty_iff]
  constructor
  · intro blank
    have nothing : s.toList.dropWhile isBlank = [] :=
      List.dropWhile_eq_nil_iff.mpr (List.all_eq_true.mp blank)
    rw [trimBy, nothing]
    rfl
  · intro nothing
    rw [trimBy, List.reverse_eq_nil_iff, List.dropWhile_eq_nil_iff] at nothing
    -- Were there anything behind the blanks in front, it would begin with a character that is none.
    cases front : s.toList.dropWhile isBlank with
    | nil => exact List.all_eq_true.mpr (List.dropWhile_eq_nil_iff.mp front)
    | cons c rest =>
      have visible := head_dropWhile (p := isBlank) s.toList c (by rw [front]; rfl)
      have blank := nothing c (by rw [front]; simp)
      rw [visible] at blank
      cases blank

theorem isAllBlank_trim (s : String) : isAllBlank (trim s) = isAllBlank s := by
  rw [Bool.eq_iff_iff, isAllBlank_iff, isAllBlank_iff, trim_idem]

end BookmarkSearch.Unicode

namespace BookmarkSearch.Search

open Query Unicode

theorem ofString_trim (s : String) : QueryText.ofString (trim s) = QueryText.ofString s := by
  simp only [QueryText.ofString, trim_idem]

theorem text_of_ofString {s : String} {text : QueryText} (read : QueryText.ofString s = .ok text) :
    text.text = trim s := by
  rw [QueryText.ofString] at read
  split at read
  · cases read
  split at read
  · cases read
    rfl
  · cases read

theorem search_trim (config : Config) (query : String) (documents : List Document) :
    search config (trim query) documents = search config query documents := by
  rw [search, search, isAllBlank_trim, ofString_trim]

end BookmarkSearch.Search

namespace BookmarkSearch.CommandLine

open Query Saved Search Unicode

theorem code_eq_zero {a : Answer} (succeeds : a.code = 0) : a.failure = none := by
  rw [Answer.code] at succeeds
  cases cause : a.failure with
  | none => rfl
  | some _ =>
    rw [cause] at succeeds
    cases succeeds

namespace Scene

variable {scene : Scene}

theorem onStore_ok {dataDir : String} {act : Store → Except Failure Report × Store}
    {store next : Store} {report : Report} (opened : scene.store = some store)
    (done : act store = (.ok report, next)) :
    scene.onStore dataDir act = ⟨report, none, some next⟩ := by
  rw [onStore, opened]
  simp only [done]

/-- What is done with the saved queries succeeds only if there is a store and it can be done. -/
theorem exists_of_onStore {dataDir : String} {act : Store → Except Failure Report × Store}
    (succeeds : (scene.onStore dataDir act).failure = none) :
    ∃ store report next, scene.store = some store ∧ act store = (.ok report, next) := by
  cases opened : scene.store with
  | none =>
    rw [onStore, opened] at succeeds
    cases succeeds
  | some store =>
    rcases done : act store with ⟨cause | report, next⟩
    · rw [onStore, opened] at succeeds
      simp only [done] at succeeds
      cases succeeds
    · exact ⟨store, report, next, rfl, done⟩

theorem find_trim (settings : Settings) (query : String) (path : Option String) (mode : Mode) :
    scene.find settings (trim query) path mode = scene.find settings query path mode := by
  simp only [find, isAllBlank_trim, search_trim]

end Scene

theorem saveQuery_ok {query : String} {mode : Mode} {store next : Store} {text : QueryText}
    {given : Option Nat} (valid : QueryText.ofString query = .ok text)
    (kept : store.save ⟨text, mode⟩ = (.ok given, next)) :
    saveQuery query mode store = (.ok (.ofLines [savedLine given]), next) := by
  simp only [saveQuery, valid, kept]
  rfl

theorem exists_of_saveQuery {query : String} {mode : Mode} {store next : Store} {report : Report}
    (done : saveQuery query mode store = (.ok report, next)) :
    ∃ text given, QueryText.ofString query = .ok text ∧
      store.save ⟨text, mode⟩ = (.ok given, next) ∧ report = .ofLines [savedLine given] := by
  cases valid : QueryText.ofString query with
  | error cause =>
    rw [saveQuery, valid] at done
    cases done
  | ok text =>
    rcases kept : store.save ⟨text, mode⟩ with ⟨cause | given, left⟩
    · simp only [saveQuery, valid, kept] at done
      cases done
    · rw [saveQuery_ok valid kept] at done
      cases done
      exact ⟨text, given, rfl, kept, rfl⟩

/-- How a search with an outcome can be repeated that has left its query in the store: the query is
there under a number that has been told or was taken before, and can be asked for by arguments. -/
structure Repeats (dataDir : String) (path : Option String) (scene : Scene) (answer : Answer)
    (o : Outcome) (saved : SavedQuery) (id : Nat) : Prop where
  stored : (answer.storeAfter scene).map (·.get id) = some (.ok saved)
  told : answer.report = ⟨[o.report, savedLine (some id)], o.warnings⟩ ∨
    answer.report = ⟨[o.report, savedLine none], o.warnings⟩ ∧
      answer.storeAfter scene = scene.store
  code : (run ⟨dataDir, .runSaved id path⟩
    { scene with store := answer.storeAfter scene }).code = 0
  report : (run ⟨dataDir, .runSaved id path⟩
    { scene with store := answer.storeAfter scene }).report = ⟨[o.report], o.warnings⟩
  asked : id < numberBound →
    Invocation.ofArguments (runArguments dataDir id path) = .ok ⟨dataDir, .runSaved id path⟩

section Search

variable {dataDir query : String} {path : Option String} {flags : Mode} {scene : Scene}

theorem find_ok {settings : Settings} {mode : Mode} {file : String} {documents : List Document}
    {text : QueryText} (named : (path <|> settings.bookmarksPath) = some file)
    (loaded : Bookmarks.load (scene.bookmarks file).bytes? = .ok documents)
    (valid : QueryText.ofString query = .ok text) :
    scene.find settings query path mode =
      .ok ((Prepared.ofQuery (settings.searchConfig mode) text).run documents) := by
  rw [Scene.find, isAllBlank_of_accepted valid, named]
  simp only [loaded, search_accepted valid]
  rfl

/-- What a search comes to that can be done and its query be saved. -/
theorem run_saving (dataDir : String) {settings : Settings} {o : Outcome} {store next : Store}
    {text : QueryText} {given : Option Nat} (loaded : scene.settings? = some settings)
    (found : scene.find settings query path (flags.union settings.mode) = .ok o)
    (opened : scene.store = some store) (valid : QueryText.ofString query = .ok text)
    (kept : store.save ⟨text, flags.union settings.mode⟩ = (.ok given, next)) :
    run ⟨dataDir, .search query path flags true⟩ scene =
      ⟨⟨[o.report, savedLine given], o.warnings⟩, none, some next⟩ := by
  simp only [run, loaded, runWith, found, ↓reduceIte]
  rw [Scene.onStore_ok opened (saveQuery_ok valid kept)]
  simp [Report.append, Report.ofOutcome, Report.ofLines]

theorem exists_of_saving
    (succeeds : (run ⟨dataDir, .search query path flags true⟩ scene).code = 0) :
    ∃ settings o store text given next, scene.settings? = some settings ∧
      scene.find settings query path (flags.union settings.mode) = .ok o ∧
      scene.store = some store ∧ QueryText.ofString query = .ok text ∧
      store.save ⟨text, flags.union settings.mode⟩ = (.ok given, next) ∧
      run ⟨dataDir, .search query path flags true⟩ scene =
        ⟨⟨[o.report, savedLine given], o.warnings⟩, none, some next⟩ := by
  have finished := code_eq_zero succeeds
  cases loaded : scene.settings? with
  | none =>
    simp only [run, loaded] at finished
    cases finished
  | some settings =>
    cases found : scene.find settings query path (flags.union settings.mode) with
    | error cause =>
      simp only [run, loaded, runWith, found] at finished
      cases finished
    | ok o =>
      simp only [run, loaded, runWith, found, ↓reduceIte] at finished
      obtain ⟨store, report, next, opened, done⟩ := Scene.exists_of_onStore finished
      obtain ⟨text, given, valid, kept, rfl⟩ := exists_of_saveQuery done
      exact ⟨settings, o, store, text, given, next, rfl, found, opened, valid, kept,
        run_saving dataDir loaded found opened valid kept⟩

theorem run_runSaved (dataDir : String) {settings : Settings} {store : Store} {id : Nat}
    {saved : SavedQuery} {o : Outcome} (loaded : scene.settings? = some settings)
    (there : store.get id = .ok saved)
    (found : scene.find settings saved.query.text path saved.mode = .ok o) :
    run ⟨dataDir, .runSaved id path⟩ { scene with store := some store } =
      ⟨⟨[o.report], o.warnings⟩, none, some store⟩ := by
  have opened : Scene.store { scene with store := some store } = some store := rfl
  have loadedAgain : Scene.settings? { scene with store := some store } = some settings := loaded
  have foundAgain : Scene.find { scene with store := some store } settings saved.query.text path
      saved.mode = .ok o := found
  simp only [run, loadedAgain, runWith]
  apply Scene.onStore_ok opened
  simp only [Scene.runSaved, there, Except.mapError, bind, Except.bind, foundAgain]
  rfl

/-- Blanks around a query make no difference. A search whose query has been saved, or was saved
before, is repeated by running the saved query. -/
theorem saved_search_repeats :
    (∀ config query documents,
      search config (trim query) documents = search config query documents) ∧
    ∀ args dataDir query path flags,
      Invocation.ofArguments args = .ok ⟨dataDir, .search query path flags true⟩ →
      ∀ scene, (run ⟨dataDir, .search query path flags true⟩ scene).code = 0 →
        ∃ settings text o id, scene.settings? = some settings ∧ text.text = trim query ∧
          Repeats dataDir path scene (run ⟨dataDir, .search query path flags true⟩ scene) o
            ⟨text, flags.union settings.mode⟩ id := by
  refine ⟨search_trim, ?_⟩
  intro args dataDir query path flags asked scene succeeds
  obtain ⟨settings, o, store, text, given, next, loaded, found, opened, valid, kept, answered⟩ :=
    exists_of_saving succeeds
  obtain ⟨directory, named⟩ := Invocation.named asked
  obtain ⟨id, there, numbered⟩ := Store.get_of_save kept
  have written := text_of_ofString valid
  have foundAgain : scene.find settings text.text path (flags.union settings.mode) = .ok o := by
    rw [written, Scene.find_trim, found]
  have repeated := run_runSaved dataDir loaded there foundAgain
  refine ⟨settings, text, o, id, loaded, written, ?_⟩
  rw [answered]
  refine ⟨?_, ?_, ?_, ?_, fun small => ofArguments_runArguments directory small named⟩
  · exact congrArg some there
  · rcases numbered with rfl | ⟨rfl, rfl⟩
    · exact .inl rfl
    · exact .inr ⟨rfl, opened.symm⟩
  · change (run _ { scene with store := some next }).code = 0
    rw [repeated]
    rfl
  · change (run _ { scene with store := some next }).report = _
    rw [repeated]

def exampleStore : Store := ⟨[(4, [1, 2, 0x67, 0x6F, 0, 0])], List.pairwise_singleton _ _⟩

def exampleScene : Scene where
  settings := .bytes (Text.bytesOf "[search]\ntags_only = true\n")
  bookmarks := fun _ => .bytes (Text.bytesOf "[[\"Maps\",\"https://maps.example\",\"tag:maps\"]]")
  store := some exampleStore

/-- The blanks around the query are not saved, and the mode from the settings is. -/
theorem saved_search_repeats_trimmed :
    let args := ["search", " tag:maps ", "--regex", "--save", "--bookmarks=b.json"]
    let command : Command := .search " tag:maps " (some "b.json") ⟨false, true⟩ true
    let answer := run ⟨".marksift", command⟩ exampleScene
    Invocation.ofArguments args = .ok ⟨".marksift", command⟩ ∧ answer.code = 0 ∧
      ∃ settings text o id, exampleScene.settings? = some settings ∧ text.text = trim " tag:maps " ∧
        Repeats ".marksift" (some "b.json") exampleScene answer o
          ⟨text, Mode.union ⟨false, true⟩ settings.mode⟩ id := by
  intro args command answer
  let settings : Settings := ⟨none, "warn", ⟨true, false⟩, 32, 256⟩
  let text : QueryText := ⟨"tag:maps", by decide, by decide, by decide⟩
  have asked : Invocation.ofArguments args = .ok ⟨".marksift", command⟩ := by decide +kernel
  have loaded : exampleScene.settings? = some settings := by decide +kernel
  have documents : Bookmarks.load (exampleScene.bookmarks "b.json").bytes? =
      .ok [⟨"Maps", "https://maps.example", "tag:maps"⟩] := by decide +kernel
  have valid : QueryText.ofString " tag:maps " = .ok text := by decide
  have found : exampleScene.find settings " tag:maps " (some "b.json")
      (Mode.union ⟨false, true⟩ settings.mode) = .ok _ := find_ok rfl documents valid
  have unsaved : isSaved ⟨text, Mode.union ⟨false, true⟩ settings.mode⟩ exampleStore.records =
      .ok false := by decide +kernel
  have done : answer = _ :=
    run_saving ".marksift" loaded found rfl valid (Store.save_new unsaved)
  have succeeds : answer.code = 0 := by
    rw [done]
    rfl
  exact ⟨asked, succeeds, saved_search_repeats.2 _ _ _ _ _ asked _ succeeds⟩

end Search

end BookmarkSearch.CommandLine
