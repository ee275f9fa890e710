import BookmarkSearch.Bookmarks.File
import BookmarkSearch.Proofs.Bookmarks.Shapes

/-!
What an export loses. A root in which anything is malformed is left out as a whole, so a bookmark in
it is found exactly if it is written in another root as well.
-/

namespace BookmarkSearch.Bookmarks

open Json Search

inductive Reaches : Value → Value → Prop where
  | here {fields : List (String × Value)} : Reaches (.object fields) (.object fields)
  | child {fields : List (String × Value)} {items : List Value} {v b : Value}
      (given : ("children", .array items) ∈ fields) (item : v ∈ items) (later : Reaches v b) :
      Reaches (.object fields) b

/-- An object that is a bookmark by its own fields, whatever is below it. -/
inductive IsBookmark : Value → Document → Prop where
  | mk {fields : List (String × Value)} {title url : String} {description : Option String}
      (titled : TitleForm title (valuesOf ["title", "name"] fields))
      (addressed : valuesOf ["url"] fields = [.string url]) (filled : url ≠ "")
      (described : TextForm description (valuesOf ["description"] fields)) :
      IsBookmark (.object fields) ⟨title, url, description.getD ""⟩

namespace Node

theorem mem_documentsOf_iff {ns : List Node} {doc : Document} :
    doc ∈ documentsOf ns ↔ ∃ n ∈ ns, doc ∈ n.documents := by
  induction ns with
  | nil => simp [documentsOf]
  | cons n rest ih => simp [documentsOf, ih]

theorem mem_documents_iff {title : String} {url description : Option String}
    {children : List Node} {doc : Document} :
    doc ∈ (mk title url description children).documents ↔
      document? (mk title url description children) = some doc ∨ doc ∈ documentsOf children := by
  rw [documents_eq, preorder, List.mem_filterMap, documentsOf_eq, List.mem_filterMap]
  simp only [List.mem_cons, exists_eq_or_imp]

end Node

theorem TitleForm.unique {s t : String} {vs : List Value} (first : TitleForm s vs)
    (second : TitleForm t vs) : s = t := by
  cases first <;> cases second <;> rfl

theorem TextForm.unique {s t : Option String} {vs : List Value} (first : TextForm s vs)
    (second : TextForm t vs) : s = t := by
  cases first <;> cases second <;> rfl

theorem Forms.exists_of_mem {ns : List Node} {items : List Value} (forms : Forms ns items)
    {v : Value} (member : v ∈ items) : ∃ n ∈ ns, Form n v := by
  induction items generalizing ns with
  | nil => cases member
  | cons w rest ih =>
    cases forms with
    | cons first later =>
      rcases List.mem_cons.mp member with rfl | there
      · exact ⟨_, List.mem_cons_self, first⟩
      · obtain ⟨n, among, form⟩ := ih later there
        exact ⟨n, List.mem_cons_of_mem _ among, form⟩

theorem mem_valuesOf {names : List String} {fields : List (String × Value)} {name : String}
    {v : Value} (known : name ∈ names) (given : (name, v) ∈ fields) : v ∈ valuesOf names fields :=
  List.mem_map.mpr ⟨(name, v), List.mem_filter.mpr ⟨given, List.contains_iff_mem.mpr known⟩, rfl⟩

theorem IsBookmark.mem_documents {v : Value} {doc : Document} {n : Node}
    (bookmark : IsBookmark v doc) (form : Form n v) : doc ∈ n.documents := by
  obtain ⟨titled, addressed, filled, described⟩ := bookmark
  cases form with
  | object parts =>
    obtain ⟨title, url, description, -⟩ := parts
    obtain rfl := title.unique titled
    obtain rfl := description.unique described
    rw [addressed] at url
    cases url
    rw [Node.mem_documents_iff, Node.document?, if_neg filled]
    exact .inl rfl

/-- In a well-formed root no bookmark is lost. -/
theorem Reaches.mem_documents {root b : Value} {doc : Document} {n : Node}
    (reaches : Reaches root b) (bookmark : IsBookmark b doc) (form : Form n root) :
    doc ∈ n.documents := by
  induction reaches generalizing n with
  | here => exact bookmark.mem_documents form
  | @child fields items v b given item later ih =>
    cases form with
    | object parts =>
      obtain ⟨-, -, -, nested⟩ := parts
      have listed : .array items ∈ valuesOf ["children"] fields :=
        mem_valuesOf List.mem_cons_self given
      rw [Node.mem_documents_iff, Node.mem_documentsOf_iff]
      generalize valuesOf ["children"] fields = lists at nested listed
      cases nested with
      | missing => cases listed
      | given forms =>
        obtain rfl := Value.array.inj (List.mem_singleton.mp listed)
        obtain ⟨n, among, form⟩ := forms.exists_of_mem item
        exact .inr ⟨n, among, ih bookmark form⟩

theorem valuesOf_of_distinct {fields : List (String × Value)} {name : String} {v : Value}
    (distinct : (fields.map Prod.fst).Nodup) (given : (name, v) ∈ fields) :
    valuesOf [name] fields = [v] := by
  induction fields with
  | nil => cases given
  | cons f rest ih =>
    obtain ⟨n, w⟩ := f
    obtain ⟨new, later⟩ := List.nodup_cons.mp distinct
    simp only [valuesOf_cons, List.mem_singleton]
    rcases List.mem_cons.mp given with same | there
    · obtain ⟨rfl, rfl⟩ := Prod.mk.inj same
      have none : valuesOf [name] rest = [] := by
        refine List.eq_nil_iff_forall_not_mem.mpr fun x member => ?_
        obtain ⟨other, known, again⟩ := mem_of_valuesOf member
        obtain rfl := List.mem_singleton.mp known
        exact new (List.mem_map.mpr ⟨_, again, rfl⟩)
      rw [if_pos rfl, none]
    · rw [if_neg, ih later there]
      rintro rfl
      exact new (List.mem_map.mpr ⟨_, there, rfl⟩)

/-- The bookmarks of an export without repeated names are those of its well-formed roots. -/
theorem parse_export {text : String} {rest : List Char} {fields roots : List (String × Value)}
    (whole : Json.read text = .ok (.object fields, rest)) (ended : skipSpace rest = [])
    (distinct : (Value.object fields).Distinct) (given : ("roots", .object roots) ∈ fields) :
    parse text = .ok (Node.documentsOf (roots.filterMap fun root => node? root.2)) := by
  have inner : (Value.object roots).Distinct := Value.DistinctFields.of_mem distinct.2 given
  have nodes : fileNodes? (.object fields) = some (roots.filterMap fun root => node? root.2) := by
    rw [fileNodes?, exportNodes?_given (valuesOf_of_distinct distinct.1 given),
      Value.collapseValues_of_distinct inner.2, collapseFields_of_nodup inner.1]
    rfl
  rw [parse, whole]
  simp only [nodes, ended, List.isEmpty_nil, ↓reduceIte]

/-- An export is always accepted. A bookmark in it is found exactly if its root is well-formed, or
if it is written in another root that is: nothing is lost as long as each root is well-formed. -/
theorem export_keeps_iff {text : String} {rest : List Char} {fields roots : List (String × Value)}
    (whole : Json.read text = .ok (.object fields, rest)) (ended : skipSpace rest = [])
    (distinct : (Value.object fields).Distinct) (given : ("roots", .object roots) ∈ fields) :
    ∃ docs, parse text = .ok docs ∧
      ∀ root ∈ roots, ∀ b doc, Reaches root.2 b → IsBookmark b doc →
        (doc ∈ docs ↔ (∃ n, Form n root.2) ∨
          ∃ other ∈ roots, ∃ n, Form n other.2 ∧ doc ∈ n.documents) := by
  refine ⟨_, parse_export whole ended distinct given, ?_⟩
  intro root member b doc reaches bookmark
  have found : doc ∈ Node.documentsOf (roots.filterMap fun root => node? root.2) ↔
      ∃ other ∈ roots, ∃ n, Form n other.2 ∧ doc ∈ n.documents := by
    simp only [Node.mem_documentsOf_iff, List.mem_filterMap, node?_iff]
    constructor
    · rintro ⟨n, ⟨other, among, form⟩, there⟩
      exact ⟨other, among, n, form, there⟩
    · rintro ⟨other, among, n, form, there⟩
      exact ⟨n, ⟨other, among, form⟩, there⟩
  rw [found]
  refine ⟨.inr, ?_⟩
  rintro (⟨n, form⟩ | elsewhere)
  · exact ⟨root, member, n, form, reaches.mem_documents bookmark form⟩
  · exact elsewhere

def entry : Value := .object [("title", .string "A"), ("url", .string "http://a")]

def entryText : String := "\x7b\"title\":\"A\",\"url\":\"http://a\"\x7d"

def oddFolder : Value := .object [("children", .array [entry, .object [("title", .null)]])]

def oddFolderText : String := "\x7b\"children\":[" ++ entryText ++ ",\x7b\"title\":null\x7d]\x7d"

theorem isBookmark_entry : IsBookmark entry ⟨"A", "http://a", ""⟩ :=
  @IsBookmark.mk _ "A" "http://a" none .given rfl (by decide) .missing

theorem reaches_entry : Reaches oddFolder entry :=
  .child List.mem_cons_self List.mem_cons_self .here

theorem entry_text : IsTextOf entryText entry :=
  isTextOf_of_eq (.object <|
    .more (.plain "title" rfl) (.plain "A" rfl) <|
    .last (.plain "url" rfl) (.plain "http://a" rfl)) rfl

theorem oddFolder_text : IsTextOf oddFolderText oddFolder := by
  have odd := SpacedText.object <| .last (.plain "title" rfl) ValueText.null.spaced
  have items := SpacedText.array <| .more entry_text <| .last odd
  refine isTextOf_of_eq (.object <| .last (.plain "children" rfl) items) ?_
  simp [oddFolderText]

/-- A bookmark in a folder that is not well-formed is found in another root that is written so. -/
theorem export_keeps_iff_repeated :
    let text := "\x7b\"roots\":\x7b\"bar\":" ++ oddFolderText ++ ",\"other\":" ++ entryText ++
      "\x7d\x7d"
    let roots := [("bar", oddFolder), ("other", entry)]
    let fields := [("roots", Value.object roots)]
    ∃ rest, Json.read text = .ok (.object fields, rest) ∧ skipSpace rest = [] ∧
      (Value.object fields).Distinct ∧ ("roots", Value.object roots) ∈ fields ∧
      ∃ docs, parse text = .ok docs ∧ ⟨"A", "http://a", ""⟩ ∈ docs := by
  intro text roots fields
  have rootsText := SpacedText.object <|
    .more (.plain "bar" rfl) oddFolder_text <| .last (.plain "other" rfl) entry_text
  have written : IsTextOf text (.object fields) := by
    refine isTextOf_of_eq (.object <| .last (.plain "roots" rfl) rootsText) ?_
    simp [text]
  have distinct : (Value.object fields).Distinct := by
    simp [Value.Distinct, Value.DistinctFields, Value.DistinctItems, fields, roots, oddFolder,
      entry]
  have form : Form (.mk "A" (some "http://a") none []) entry := (node?_iff _ _).mp rfl
  obtain ⟨rest, whole, ended⟩ := read_text written (by decide)
  obtain ⟨docs, parsed, kept⟩ := export_keeps_iff whole ended distinct List.mem_cons_self
  have other : ("other", entry) ∈ roots := List.mem_cons_of_mem _ List.mem_cons_self
  refine ⟨rest, whole, ended, distinct, List.mem_cons_self, docs, parsed, ?_⟩
  refine (kept ("bar", oddFolder) List.mem_cons_self entry _ reaches_entry isBookmark_entry).mpr ?_
  exact .inr ⟨_, other, _, form, isBookmark_entry.mem_documents form⟩

/-- A bookmark is lost to a sibling whose title is no text. -/
theorem export_loses_bookmark :
    let text := "\x7b\"roots\":\x7b\"bar\":" ++ oddFolderText ++ "\x7d\x7d"
    let fields := [("roots", Value.object [("bar", oddFolder)])]
    IsTextOf text (.object fields) ∧ (Value.object fields).Distinct ∧ Reaches oddFolder entry ∧
    IsBookmark entry ⟨"A", "http://a", ""⟩ ∧ parse text = .ok [] := by
  intro text fields
  have roots := SpacedText.object <| .last (.plain "bar" rfl) oddFolder_text
  have written : IsTextOf text (.object fields) := by
    refine isTextOf_of_eq (.object <| .last (.plain "roots" rfl) roots) ?_
    simp [text]
  have distinct : (Value.object fields).Distinct := by
    simp [Value.Distinct, Value.DistinctFields, Value.DistinctItems, fields, oddFolder, entry]
  obtain ⟨rest, whole, ended⟩ := read_text written (by decide)
  refine ⟨written, distinct, reaches_entry, isBookmark_entry, ?_⟩
  rw [parse_export whole ended distinct List.mem_cons_self]
  rfl

end BookmarkSearch.Bookmarks
