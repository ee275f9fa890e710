import BookmarkSearch.Proofs.Saved.Codec
import BookmarkSearch.Proofs.Toml.Lines
import BookmarkSearch.Settings.File

/-!
Settings that have been written to a file are loaded again as they were.
-/

namespace BookmarkSearch.Settings

open Search Toml

/-! The file as lines. -/

def textLine (key text : String) : Line :=
  .entry key (writeQuoted text.toList) (.scalar (.string text))

def flagLine (key : String) (flag : Bool) : Line :=
  .entry key (toString flag).toList (.scalar (.boolean flag))

def limitLine (key : String) (limit : UInt64) : Line :=
  .entry key (toString limit.toNat).toList (.scalar (.integer limit.toNat))

def lines (s : Settings) : List Line :=
  .header "general" :: (s.bookmarksPath.map (textLine "bookmarks_path")).toList ++
    [textLine "log_level" s.logLevel, .blank, .header "search",
      flagLine "tags_only" s.mode.tagsOnly, flagLine "use_regex" s.mode.allRegex,
      limitLine "max_depth" s.maxDepth, limitLine "max_tokens" s.maxTokens]

theorem toList_line (key value : String) :
    (line key value).toList = key.toList ++ [' ', '=', ' '] ++ value.toList ++ ['\n'] := by
  simp [line]

theorem text_textLine (key text : String) :
    (textLine key text).text = (line key (quote text)).toList := by
  rw [toList_line, quote, String.toList_ofList]
  rfl

theorem text_flagLine (key : String) (flag : Bool) :
    (flagLine key flag).text = (line key (toString flag)).toList := by
  rw [toList_line]
  rfl

theorem text_limitLine (key : String) (limit : UInt64) :
    (limitLine key limit).text = (line key (toString limit.toNat)).toList := by
  rw [toList_line]
  rfl

theorem toList_toText (s : Settings) : s.toText.toList = s.lines.flatMap Line.text := by
  have path : (s.bookmarksPath.elim "" fun path => line "bookmarks_path" (quote path)).toList =
      (s.bookmarksPath.map (textLine "bookmarks_path")).toList.flatMap Line.text := by
    cases s.bookmarksPath with
    | none => rfl
    | some path => simp [text_textLine]
  have general : (Line.header "general").text = "[general]\n".toList := rfl
  have search : Line.blank.text ++ (Line.header "search").text = "\n[search]\n".toList := rfl
  -- By `delta`: making the equation of so long a text takes seconds.
  delta toText
  simp only [lines, String.toList_append, path, general, ← search, text_textLine,
    text_flagLine, text_limitLine, List.flatMap_append, List.flatMap_cons, List.flatMap_nil,
    List.append_assoc, List.cons_append, List.append_nil]

theorem textLine_legible {key : String} (bare : IsBare key) (text : String) :
    (textLine key text).Legible :=
  ⟨bare, denotes_quoted text⟩

theorem flagLine_legible {key : String} (bare : IsBare key) (flag : Bool) :
    (flagLine key flag).Legible :=
  ⟨bare, denotes_flag flag⟩

theorem limitLine_legible {key : String} (bare : IsBare key) (limit : UInt64) :
    (limitLine key limit).Legible :=
  ⟨bare, denotes_number limit.toNat⟩

theorem lines_legible (s : Settings) : ∀ l ∈ s.lines, l.Legible := by
  have general : (Line.header "general").Legible := show IsBare "general" by decide
  have search : (Line.header "search").Legible := show IsBare "search" by decide
  have path : ∀ l ∈ (s.bookmarksPath.map (textLine "bookmarks_path")).toList, l.Legible := by
    intro l member
    obtain ⟨path, -, rfl⟩ := Option.map_eq_some_iff.mp (Option.mem_toList.mp member)
    exact textLine_legible (by decide) path
  intro l member
  rcases List.mem_append.mp member with first | rest
  · rcases List.mem_cons.mp first with rfl | first
    · exact general
    · exact path l first
  · simp only [List.mem_cons, List.not_mem_nil, or_false] at rest
    rcases rest with rfl | rfl | rfl | rfl | rfl | rfl | rfl
    · exact textLine_legible (by decide) s.logLevel
    · trivial
    · exact search
    · exact flagLine_legible (by decide) s.mode.tagsOnly
    · exact flagLine_legible (by decide) s.mode.allRegex
    · exact limitLine_legible (by decide) s.maxDepth
    · exact limitLine_legible (by decide) s.maxTokens

/-! What the lines hold. -/

def generalEntries (s : Settings) : Entries :=
  (s.bookmarksPath.map fun path => ("bookmarks_path", .scalar (.string path))).toList ++
    [("log_level", .scalar (.string s.logLevel))]

def searchEntries (s : Settings) : Entries :=
  [("tags_only", .scalar (.boolean s.mode.tagsOnly)),
    ("use_regex", .scalar (.boolean s.mode.allRegex)),
    ("max_depth", .scalar (.integer s.maxDepth.toNat)),
    ("max_tokens", .scalar (.integer s.maxTokens.toNat))]

def entries (s : Settings) : Entries :=
  [("general", .table .opened s.generalEntries), ("search", .table .opened s.searchEntries)]

theorem extend_lines (s : Settings) :
    s.lines.foldlM Line.extend Draft.empty = some ⟨s.entries, ["search"]⟩ := by
  obtain ⟨path, level, mode, depth, tokens⟩ := s
  cases path with
  | none => rfl
  | some path => rfl

theorem limit?_toNat (limit : UInt64) : limit? (.scalar (.integer limit.toNat)) = some limit := by
  have below : (limit.toNat : Int) < UInt64.size := by exact_mod_cast limit.toNat_lt_size
  rw [limit?, if_pos ⟨Int.natCast_nonneg _, below⟩, Int.toNat_natCast, UInt64.ofNat_toNat]

theorem readField_limit {found : Option Item} {limit : UInt64}
    (there : found = some (.scalar (.integer limit.toNat))) (fallback : UInt64) :
    readField limit? fallback found = some limit := by
  rw [there, readField, limit?_toNat]

theorem fieldsOf?_general (s : Settings) :
    fieldsOf? generalFields (s.entries.lookup "general") =
      some fun name => s.generalEntries.lookup name := by
  obtain ⟨path, level, mode, depth, tokens⟩ := s
  cases path with
  | none => rfl
  | some path => rfl

theorem fieldsOf?_search (s : Settings) :
    fieldsOf? searchFields (s.entries.lookup "search") =
      some fun name => s.searchEntries.lookup name := rfl

theorem ofEntries?_entries (s : Settings) : ofEntries? s.entries = some s := by
  have known : othersInRange ["general", "search"] s.entries = true := rfl
  have path : readField (fun item => (text? item).map some) default.bookmarksPath
      (s.generalEntries.lookup "bookmarks_path") = some s.bookmarksPath := by
    rw [generalEntries]
    cases s.bookmarksPath with
    | none => rfl
    | some path => rfl
  have level : readField text? default.logLevel (s.generalEntries.lookup "log_level") =
      some s.logLevel := by
    rw [generalEntries]
    cases s.bookmarksPath with
    | none => rfl
    | some path => rfl
  have depth : readField limit? default.maxDepth (s.searchEntries.lookup "max_depth") =
      some s.maxDepth := readField_limit rfl _
  have tokens : readField limit? default.maxTokens (s.searchEntries.lookup "max_tokens") =
      some s.maxTokens := readField_limit rfl _
  rw [ofEntries?, known, fieldsOf?_general, fieldsOf?_search]
  simp only [Option.bind_eq_bind, Option.bind_some, path, level, depth, tokens]
  rfl

theorem ofText?_toText (s : Settings) : ofText? s.toText = some s := by
  rw [ofText?, read_lines s.toList_toText s.lines_legible s.extend_lines]
  exact s.ofEntries?_entries

/-- Settings come back from the file they have been written to. -/
theorem load_toText (s : Settings) : load (some (Text.bytesOf s.toText)) = .ok s := by
  simp only [load, Saved.ofBytes?_bytesOf, ofText?_toText]
  rfl

end BookmarkSearch.Settings
