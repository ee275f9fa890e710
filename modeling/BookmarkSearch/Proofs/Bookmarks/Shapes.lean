import BookmarkSearch.Bookmarks.File
import BookmarkSearch.Proofs.Bookmarks.Forms
import BookmarkSearch.Proofs.Json.Reading

/-!
The shapes of a bookmark file. Nodes can be written as a list, as the roots of an export or as the
children of a folder, and the bookmarks of the file are the same: those of the nodes in preorder.
-/

namespace BookmarkSearch.Bookmarks

open Json Search

namespace Node

mutual

def preorder : Node → List Node
  | .mk title url description children =>
    .mk title url description children :: preorderOf children

def preorderOf : List Node → List Node
  | [] => []
  | n :: rest => n.preorder ++ preorderOf rest

end

def document? : Node → Option Document
  | .mk title (some url) description _ =>
    if url = "" then none else some ⟨title, url, description.getD ""⟩
  | .mk _ none _ _ => none

mutual

theorem documents_eq (n : Node) : n.documents = n.preorder.filterMap document? := by
  match n with
  | .mk title url description children =>
    simp only [documents, preorder, List.filterMap_cons, documentsOf_eq children]
    cases url with
    | none => rfl
    | some url => by_cases blank : url = "" <;> simp [document?, blank]

theorem documentsOf_eq (ns : List Node) : documentsOf ns = (preorderOf ns).filterMap document? := by
  match ns with
  | [] => rfl
  | n :: rest =>
    rw [documentsOf, preorderOf, List.filterMap_append, documents_eq n, documentsOf_eq rest]

end

/-- What has no address is no bookmark itself. -/
theorem documentsOf_folder (title : String) (description : Option String) (ns : List Node) :
    documentsOf [.mk title none description ns] = documentsOf ns := by
  rw [documentsOf, documents, documentsOf, List.append_nil]
  rfl

end Node

inductive FileForm (ns : List Node) : Value → Prop where
  | list {items : List Value} (forms : Forms ns items) : FileForm ns (.array items)
  /-- Some of the roots, whose names differ, are the nodes. The others are no nodes. -/
  | exported {own : List String} {fields roots : List (String × Value)}
      (given : valuesOf ["roots"] fields = [.object roots]) (distinct : own.Nodup)
      (named : (roots.filter fun r => own.contains r.1).map Prod.fst = own)
      (trees : Forms ns (valuesOf own roots))
      (others : ∀ r ∈ roots, r.1 ∉ own → ∀ n, ¬Form n r.2.collapse) : FileForm ns (.object fields)
  | folder {title : String} {description : Option String} {fields : List (String × Value)}
      (form : Form (.mk title none description ns) (.object fields))
      (rootless : valuesOf ["roots"] fields = []) : FileForm ns (.object fields)

theorem valuesOf_eq_map (name : String) (fields : List (String × Value)) :
    valuesOf [name] fields = (fields.filter (·.1 = name)).map Prod.snd := by
  simp [valuesOf]

theorem exportNodes?_given {fields roots : List (String × Value)}
    (given : valuesOf ["roots"] fields = [.object roots]) :
    exportNodes? (.object fields) =
      some ((collapseFields (Value.collapseValues roots)).filterMap fun root => node? root.2) := by
  rw [valuesOf_eq_map, List.map_eq_singleton_iff] at given
  obtain ⟨f, only, value⟩ := given
  obtain ⟨name, v⟩ := f
  subst value
  rw [exportNodes?, only]

theorem exportNodes?_missing {fields : List (String × Value)}
    (missing : valuesOf ["roots"] fields = []) : exportNodes? (.object fields) = none := by
  rw [valuesOf_eq_map, List.map_eq_nil_iff] at missing
  rw [exportNodes?, missing]

theorem filterMap_forms {ns : List Node} {items : List Value} (forms : Forms ns items) :
    items.filterMap node? = ns := by
  induction items generalizing ns with
  | nil =>
    cases forms
    rfl
  | cons v rest ih =>
    cases forms with
    | cons first later => rw [List.filterMap_cons, (node?_iff v _).mpr first, ih later]

/-- Of the collapsed roots, those that are nodes are read and the others are passed over. -/
theorem filterMap_roots {ns : List Node} {own : List String} {roots : List (String × Value)}
    (distinct : own.Nodup)
    (named : (roots.filter fun r => own.contains r.1).map Prod.fst = own)
    (trees : Forms ns (valuesOf own roots))
    (others : ∀ r ∈ roots, r.1 ∉ own → ∀ n, ¬Form n r.2.collapse) :
    (collapseFields (Value.collapseValues roots)).filterMap (fun root => node? root.2) = ns := by
  have passed : ∀ r ∈ collapseFields (Value.collapseValues roots),
      node? r.2 = if own.contains r.1 then node? r.2 else none := by
    intro r member
    split
    · rfl
    · rename_i other
      rw [List.contains_iff_mem] at other
      have given := mem_collapseFields member
      rw [Value.collapseValues_eq_map] at given
      obtain ⟨source, there, rfl⟩ := List.mem_map.mp given
      cases read : node? source.2.collapse with
      | none => rfl
      | some n => exact absurd ((node?_iff _ n).mp read) (others source there other n)
  rw [List.filterMap_congr passed, ← List.filterMap_filter,
    Value.filter_collapse own.contains (named.symm ▸ distinct), List.filterMap_map]
  have collapsed := filterMap_forms trees.collapse
  rw [Value.collapseItems_eq_map, valuesOf, List.map_map, List.filterMap_map] at collapsed
  exact collapsed

theorem fileNodes?_fileForm {ns : List Node} {v : Value} (form : FileForm ns v) :
    ∃ nodes, fileNodes? v = some nodes ∧
      Node.documentsOf nodes = (Node.preorderOf ns).filterMap Node.document? := by
  cases form with
  | @list items forms =>
    refine ⟨ns, ?_, Node.documentsOf_eq ns⟩
    rw [fileNodes?, children?, (nodes?_iff items ns).mpr forms]
    rfl
  | exported given distinct named trees others =>
    refine ⟨ns, ?_, Node.documentsOf_eq ns⟩
    rw [fileNodes?, exportNodes?_given given, filterMap_roots distinct named trees others]
    rfl
  | @folder title description fields form rootless =>
    refine ⟨[.mk title none description ns], ?_,
      (Node.documentsOf_folder title description ns).trans (Node.documentsOf_eq ns)⟩
    rw [fileNodes?, exportNodes?_missing rootless, (node?_iff _ _).mpr form]
    rfl

/-- A text in which nodes are written in one of these ways, nested less than 128 deep. -/
def IsFileOf (text : String) (ns : List Node) : Prop :=
  ∃ v, FileForm ns v ∧ IsTextOf text v ∧ v.depth < 128

/-- Whatever the shape of a file is, its bookmarks are the nodes with an address, in preorder. -/
theorem parse_isFileOf {text : String} {ns : List Node} (file : IsFileOf text ns) :
    parse text = .ok ((Node.preorderOf ns).filterMap Node.document?) := by
  obtain ⟨v, form, written, flat⟩ := file
  obtain ⟨rest, whole, ended⟩ := read_text written flat
  obtain ⟨nodes, found, same⟩ := fileNodes?_fileForm form
  rw [parse, whole]
  simp only [found, ended, same, List.isEmpty_nil, ↓reduceIte]

def shelf : List Node :=
  [.mk "F" (some "f") none [.mk "L" (some "l") (some "x") []], .mk "E" (some "") none []]

theorem parse_isFileOf_shelf :
    let first := "\x7b\"name\":\"F\",\"url\":\"f\",\"id\":null,\"children\":[\x7b\"url\":\"l\"," ++
      "\"description\":\"x\",\"title\":\"L\"\x7d]\x7d"
    let second := "[\"E\",\"\"]"
    let list := "[" ++ first ++ "," ++ second ++ "]"
    let exported := "\x7b\"version\":true,\"roots\":\x7b\"bar\":" ++ first ++
      ",\"sync\":[true],\"other\":" ++ second ++ ",\"checksum\":\"c\"\x7d\x7d"
    let folder := "\x7b\"children\":[" ++ first ++ "," ++ second ++ "],\"kind\":\"folder\"\x7d"
    let found := [⟨"F", "f", ""⟩, ⟨"L", "l", "x"⟩]
    (IsFileOf list shelf ∧ IsFileOf exported shelf ∧ IsFileOf folder shelf) ∧
    parse list = .ok found ∧ parse exported = .ok found ∧ parse folder = .ok found := by
  intro first second list exported folder found
  have below := SpacedText.object <|
    .more (.plain "url" rfl) (.plain "l" rfl) <|
    .more (.plain "description" rfl) (.plain "x" rfl) <|
    .last (.plain "title" rfl) (.plain "L" rfl)
  have firstText := SpacedText.object <|
    .more (.plain "name" rfl) (.plain "F" rfl) <|
    .more (.plain "url" rfl) (.plain "f" rfl) <|
    .more (.plain "id" rfl) ValueText.null.spaced <|
    .last (.plain "children" rfl) (.array (.last below))
  replace firstText := isTextOf_of_eq firstText (show first.toList = _ by simp [first])
  have secondText := SpacedText.array <| .more (.plain "E" rfl) <| .last (.plain "" rfl)
  replace secondText := isTextOf_of_eq secondText (show second.toList = _ by simp [second])
  have bothText := SpacedText.array <| .more firstText <| .last secondText
  have rootsText := SpacedText.object <|
    .more (.plain "bar" rfl) firstText <|
    .more (.plain "sync" rfl) (.array (.last ValueText.true.spaced)) <|
    .more (.plain "other" rfl) secondText <|
    .last (.plain "checksum" rfl) (.plain "c" rfl)
  have exportText := SpacedText.object <|
    .more (.plain "version" rfl) ValueText.true.spaced <|
    .last (.plain "roots" rfl) rootsText
  have folderText := SpacedText.object <|
    .more (.plain "children" rfl) bothText <|
    .last (.plain "kind" rfl) (.plain "folder" rfl)
  have listFile : IsFileOf list shelf := by
    refine ⟨_, .list ((nodes?_iff _ _).mp rfl), isTextOf_of_eq bothText ?_, by decide⟩
    simp [list]
  have exportFile : IsFileOf exported shelf := by
    refine ⟨_, @FileForm.exported _ ["bar", "other"] _ _ rfl (by decide) rfl
      ((nodes?_iff _ _).mp rfl) ?_, isTextOf_of_eq exportText ?_, by decide⟩
    · intro r member other n form
      have read := (node?_iff _ n).mpr form
      simp only [List.mem_cons, List.not_mem_nil, or_false] at member
      rcases member with rfl | rfl | rfl | rfl
      · exact other (by decide)
      · cases read
      · exact other (by decide)
      · cases read
    · simp [exported]
  have folderFile : IsFileOf folder shelf := by
    refine ⟨_, @FileForm.folder _ "" none _ ((node?_iff _ _).mp rfl) rfl,
      isTextOf_of_eq folderText ?_, by decide⟩
    simp [folder]
  have bookmarks : (Node.preorderOf shelf).filterMap Node.document? = found := rfl
  rw [← bookmarks]
  exact ⟨⟨listFile, exportFile, folderFile⟩, parse_isFileOf listFile, parse_isFileOf exportFile,
    parse_isFileOf folderFile⟩

end BookmarkSearch.Bookmarks
