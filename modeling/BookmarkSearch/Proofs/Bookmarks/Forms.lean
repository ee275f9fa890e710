import BookmarkSearch.Bookmarks.Tree
import BookmarkSearch.Proofs.Json.Collapse
import Mathlib.Data.Option.Basic

/-!
The forms of a node. A value is read as a node exactly if it is one of the node's forms, and it
remains one when repeated names are collapsed.
-/

namespace BookmarkSearch.Bookmarks

open Json

def valuesOf (names : List String) (fields : List (String × Value)) : List Value :=
  (fields.filter fun f => names.contains f.1).map Prod.snd

inductive TitleForm : String → List Value → Prop where
  | missing : TitleForm "" []
  | given {s : String} : TitleForm s [.string s]

inductive TextForm : Option String → List Value → Prop where
  | missing : TextForm none []
  | null : TextForm none [.null]
  | given {s : String} : TextForm (some s) [.string s]

mutual

inductive Parts : Node → List Value → List Value → List Value → List Value → Prop where
  | mk {title : String} {url description : Option String} {children : List Node}
      {titles urls descriptions lists : List Value} (titled : TitleForm title titles)
      (addressed : TextForm url urls) (described : TextForm description descriptions)
      (nested : ChildrenForm children lists) :
      Parts (.mk title url description children) titles urls descriptions lists

inductive ChildrenForm : List Node → List Value → Prop where
  | missing : ChildrenForm [] []
  | given {ns : List Node} {items : List Value} (forms : Forms ns items) :
      ChildrenForm ns [.array items]

/-- The title of an object has two names, one of which is used, and names that mean nothing are
free. An array gives the parts in order and may end early. -/
inductive Form : Node → Value → Prop where
  | object {n : Node} {fields : List (String × Value)}
      (parts : Parts n (valuesOf ["title", "name"] fields) (valuesOf ["url"] fields)
        (valuesOf ["description"] fields) (valuesOf ["children"] fields)) :
      Form n (.object fields)
  | array {n : Node} {items : List Value} (short : items.length ≤ 4)
      (parts : Parts n items[0]?.toList items[1]?.toList items[2]?.toList items[3]?.toList) :
      Form n (.array items)

inductive Forms : List Node → List Value → Prop where
  | nil : Forms [] []
  | cons {n : Node} {ns : List Node} {v : Value} {items : List Value} (first : Form n v)
      (later : Forms ns items) : Forms (n :: ns) (v :: items)

end

/-! Reading takes up each part once. -/

/-- A part is taken up from the values given for it, of which there is one at most, and none if it
has been taken up before. -/
inductive Filled {α : Type} (read : Value → Option α) :
    Option α → List Value → Option α → Prop where
  | missing (slot : Option α) : Filled read slot [] slot
  | given {v : Value} {a : α} (done : read v = some a) : Filled read none [v] (some a)

section Filled

variable {α : Type} {read : Value → Option α} {slot result : Option α} {v : Value} {vs : List Value}

@[simp]
theorem filled_nil_iff : Filled read slot [] result ↔ slot = result := by
  refine ⟨fun filled => ?_, ?_⟩
  · cases filled
    rfl
  · rintro rfl
    exact .missing slot

theorem filled_cons_iff :
    Filled read slot (v :: vs) result ↔
      slot = none ∧ ∃ a, read v = some a ∧ Filled read (some a) vs result := by
  constructor
  · intro filled
    cases filled with
    | given done => exact ⟨rfl, _, done, .missing _⟩
  · rintro ⟨rfl, a, done, rest⟩
    cases rest
    exact .given done

theorem filled_titleForm {vs : List Value} {title : String} :
    (∃ slot, Filled text? none vs slot ∧ slot.getD "" = title) ↔ TitleForm title vs := by
  constructor
  · rintro ⟨slot, filled, rfl⟩
    cases filled with
    | missing => exact .missing
    | @given v a done =>
      cases v with
      | string s =>
        cases done
        exact .given
      | null | bool b | number n | array items | object fields => cases done
  · intro form
    cases form with
    | missing => exact ⟨none, .missing none, rfl⟩
    | given => exact ⟨some title, .given rfl, rfl⟩

theorem filled_textForm {vs : List Value} {text : Option String} :
    (∃ slot, Filled optionalText? none vs slot ∧ slot.getD none = text) ↔ TextForm text vs := by
  constructor
  · rintro ⟨slot, filled, rfl⟩
    cases filled with
    | missing => exact .missing
    | @given v a done =>
      cases v with
      | string s =>
        cases done
        exact .given
      | null =>
        cases done
        exact .null
      | bool b | number n | array items | object fields => cases done
  · intro form
    cases form with
    | missing => exact ⟨none, .missing none, rfl⟩
    | null => exact ⟨some none, .given rfl, rfl⟩
    | @given s => exact ⟨some (some s), .given rfl, rfl⟩

end Filled

theorem valuesOf_cons (names : List String) (name : String) (v : Value)
    (fields : List (String × Value)) :
    valuesOf names ((name, v) :: fields) =
      if name ∈ names then v :: valuesOf names fields else valuesOf names fields := by
  rw [valuesOf, List.filter_cons]
  simp only [List.contains_iff_mem]
  split <;> rfl

/-- One field, taken up for a part that has not been taken up yet. -/
theorem taken_iff {α β γ : Type} {slot : Option α} {read : Option β} {next : β → Option γ}
    {done : γ} :
    (do guard slot.isNone; let a ← read; next a) = some done ↔
      slot = none ∧ ∃ a, read = some a ∧ next a = some done := by
  cases slot with
  | none =>
    change read.bind next = some done ↔ _
    rw [Option.bind_eq_some_iff]
    exact (and_iff_right rfl).symm
  | some a =>
    change none = some done ↔ _
    exact ⟨nofun, nofun⟩

def Draft.Takes (draft : Draft) (titles urls descriptions lists : List Value) (done : Draft) :
    Prop :=
  Filled text? draft.title titles done.title ∧ Filled optionalText? draft.url urls done.url ∧
    Filled optionalText? draft.description descriptions done.description ∧
    Filled children? draft.children lists done.children

/-- The fields are taken up name by name, whatever their order. -/
theorem fillDraft_iff {fields : List (String × Value)} {draft done : Draft} :
    fillDraft draft fields = some done ↔
      draft.Takes (valuesOf ["title", "name"] fields) (valuesOf ["url"] fields)
        (valuesOf ["description"] fields) (valuesOf ["children"] fields) done := by
  unfold Draft.Takes
  induction fields generalizing draft with
  | nil =>
    obtain ⟨title, url, description, children⟩ := draft
    obtain ⟨title', url', description', children'⟩ := done
    simp [fillDraft, valuesOf]
  | cons f rest ih =>
    obtain ⟨name, v⟩ := f
    simp only [fillDraft, valuesOf_cons, List.mem_cons, List.not_mem_nil, or_false]
    -- A field goes to the part of its name and leaves the other parts as they are.
    by_cases title : name = "title" ∨ name = "name"
    · have others : name ≠ "url" ∧ name ≠ "description" ∧ name ≠ "children" := by
        rcases title with rfl | rfl <;> decide
      simp only [title, others, ↓reduceIte, taken_iff, ih, filled_cons_iff]
      grind
    by_cases url : name = "url"
    · subst url
      simp only [String.reduceEq, or_self, ↓reduceIte, taken_iff, ih, filled_cons_iff]
      grind
    by_cases description : name = "description"
    · subst description
      simp only [String.reduceEq, or_self, ↓reduceIte, taken_iff, ih, filled_cons_iff]
      grind
    by_cases children : name = "children"
    · subst children
      simp only [String.reduceEq, or_self, ↓reduceIte, taken_iff, ih, filled_cons_iff]
      grind
    · simp only [title, url, description, children, ↓reduceIte, ih]

theorem Draft.exists_iff {p : Draft → Prop} :
    (∃ draft, p draft) ↔ ∃ title url description children, p ⟨title, url, description, children⟩ :=
  ⟨fun ⟨d, holds⟩ => ⟨d.title, d.url, d.description, d.children, holds⟩,
    fun ⟨_, _, _, _, holds⟩ => ⟨_, holds⟩⟩

theorem node?_object_iff {fields : List (String × Value)} {n : Node} :
    node? (.object fields) = some n ↔ ∃ draft,
      Draft.empty.Takes (valuesOf ["title", "name"] fields) (valuesOf ["url"] fields)
        (valuesOf ["description"] fields) (valuesOf ["children"] fields) draft ∧
      draft.node = n := by
  rw [node?, Option.map_eq_some_iff]
  simp only [fillDraft_iff]

theorem node?_array_iff {items : List Value} {n : Node} :
    node? (.array items) = some n ↔ items.length ≤ 4 ∧ ∃ draft,
      Draft.empty.Takes items[0]?.toList items[1]?.toList items[2]?.toList items[3]?.toList draft ∧
      draft.node = n := by
  unfold Draft.Takes
  match items with
  | [] => simp [node?, Draft.exists_iff, Draft.empty]
  | [_] | [_, _] | [_, _, _] | [_, _, _, _] =>
    simp [node?, Draft.exists_iff, Draft.empty, filled_cons_iff, Option.bind_eq_some_iff,
      Draft.node, and_assoc]
  | _ :: _ :: _ :: _ :: _ :: _ => simp [node?]

/-- If this is an array, it is read as exactly the nodes it is the forms of. -/
def ListsForms (v : Value) : Prop :=
  ∀ ns, children? v = some ns ↔ ∃ items, v = .array items ∧ Forms ns items

theorem filled_childrenForm {vs : List Value} (lists : ∀ v ∈ vs, ListsForms v) {ns : List Node} :
    (∃ slot, Filled children? none vs slot ∧ slot.getD [] = ns) ↔ ChildrenForm ns vs := by
  constructor
  · rintro ⟨slot, filled, rfl⟩
    cases filled with
    | missing => exact .missing
    | @given v ns done =>
      obtain ⟨items, rfl, forms⟩ := (lists v List.mem_cons_self ns).mp done
      exact .given forms
  · intro form
    cases form with
    | missing => exact ⟨none, .missing none, rfl⟩
    | given forms =>
      exact ⟨some ns, .given ((lists _ List.mem_cons_self ns).mpr ⟨_, rfl, forms⟩), rfl⟩

/-- What has been taken up makes the node that the values are the parts of. -/
theorem filled_parts {titles urls descriptions lists : List Value} {n : Node}
    (listed : ∀ v ∈ lists, ListsForms v) :
    (∃ draft, Draft.empty.Takes titles urls descriptions lists draft ∧ draft.node = n) ↔
      Parts n titles urls descriptions lists := by
  constructor
  · rintro ⟨draft, ⟨titled, addressed, described, nested⟩, rfl⟩
    exact .mk (filled_titleForm.mp ⟨_, titled, rfl⟩) (filled_textForm.mp ⟨_, addressed, rfl⟩)
      (filled_textForm.mp ⟨_, described, rfl⟩) ((filled_childrenForm listed).mp ⟨_, nested, rfl⟩)
  · rintro ⟨titled, addressed, described, nested⟩
    obtain ⟨title, first, rfl⟩ := filled_titleForm.mpr titled
    obtain ⟨url, second, rfl⟩ := filled_textForm.mpr addressed
    obtain ⟨description, third, rfl⟩ := filled_textForm.mpr described
    obtain ⟨children, fourth, rfl⟩ := (filled_childrenForm listed).mpr nested
    exact ⟨⟨title, url, description, children⟩, ⟨first, second, third, fourth⟩, rfl⟩

theorem mem_of_valuesOf {names : List String} {fields : List (String × Value)} {v : Value}
    (member : v ∈ valuesOf names fields) : ∃ name ∈ names, (name, v) ∈ fields := by
  obtain ⟨f, kept, rfl⟩ := List.mem_map.mp member
  rw [List.mem_filter, List.contains_iff_mem] at kept
  exact ⟨f.1, kept.2, kept.1⟩

mutual

/-- A value is read as a node exactly if it is a form of that node. -/
theorem node?_iff (v : Value) (n : Node) : node? v = some n ↔ Form n v := by
  match v with
  | .null | .bool _ | .number _ | .string _ =>
    change none = some n ↔ _
    exact ⟨nofun, nofun⟩
  | .array items =>
    have listed : ∀ v ∈ items[3]?.toList, ListsForms v := by
      intro v member
      exact listsForms_items items v (List.mem_of_getElem? (Option.mem_toList.mp member))
    rw [node?_array_iff, filled_parts listed]
    exact ⟨fun ⟨short, parts⟩ => .array short parts, fun | .array short parts => ⟨short, parts⟩⟩
  | .object fields =>
    have listed : ∀ v ∈ valuesOf ["children"] fields, ListsForms v := by
      intro v member
      obtain ⟨name, -, given⟩ := mem_of_valuesOf member
      exact listsForms_fields fields _ given
    rw [node?_object_iff, filled_parts listed]
    exact ⟨.object, fun | .object parts => parts⟩

theorem nodes?_iff (items : List Value) (ns : List Node) :
    nodes? items = some ns ↔ Forms ns items := by
  match items with
  | [] =>
    rw [nodes?]
    constructor
    · rintro ⟨⟩
      exact .nil
    · rintro ⟨⟩
      rfl
  | v :: rest =>
    rw [nodes?]
    simp only [Option.bind_eq_bind, Option.bind_eq_some_iff, pure, Option.some.injEq]
    constructor
    · rintro ⟨n, first, ns, later, rfl⟩
      exact .cons ((node?_iff v n).mp first) ((nodes?_iff rest ns).mp later)
    · intro forms
      cases forms with
      | cons first later =>
        exact ⟨_, (node?_iff v _).mpr first, _, (nodes?_iff rest _).mpr later, rfl⟩

theorem listsForms (v : Value) : ListsForms v := by
  intro ns
  match v with
  | .null | .bool _ | .number _ | .string _ | .object _ =>
    change none = some ns ↔ _
    exact ⟨nofun, nofun⟩
  | .array items =>
    rw [children?, nodes?_iff items ns]
    exact ⟨fun forms => ⟨items, rfl, forms⟩, fun | ⟨_, rfl, forms⟩ => forms⟩

theorem listsForms_items (items : List Value) : ∀ v ∈ items, ListsForms v := by
  match items with
  | [] => nofun
  | v :: rest =>
    intro w member
    rcases List.mem_cons.mp member with same | later
    · rw [same]
      exact listsForms v
    · exact listsForms_items rest _ later

theorem listsForms_fields (fields : List (String × Value)) : ∀ f ∈ fields, ListsForms f.2 := by
  match fields with
  | [] => nofun
  | (name, v) :: rest =>
    intro f member
    rcases List.mem_cons.mp member with same | later
    · rw [same]
      exact listsForms v
    · exact listsForms_fields rest _ later

end

/-! Collapsing keeps forms. -/

theorem Parts.once {n : Node} {titles urls descriptions lists : List Value}
    (parts : Parts n titles urls descriptions lists) :
    titles.length ≤ 1 ∧ urls.length ≤ 1 ∧ descriptions.length ≤ 1 ∧ lists.length ≤ 1 := by
  obtain ⟨titled, addressed, described, nested⟩ := parts
  refine ⟨?_, ?_, ?_, ?_⟩
  · cases titled <;> simp
  · cases addressed <;> simp
  · cases described <;> simp
  · cases nested <;> simp

theorem TitleForm.collapse {title : String} {vs : List Value} (form : TitleForm title vs) :
    TitleForm title (vs.map Value.collapse) := by
  cases form with
  | missing => exact .missing
  | given => exact .given

theorem TextForm.collapse {text : Option String} {vs : List Value} (form : TextForm text vs) :
    TextForm text (vs.map Value.collapse) := by
  cases form with
  | missing => exact .missing
  | null => exact .null
  | given => exact .given

theorem valuesOf_collapse {names : List String} {fields : List (String × Value)}
    (once : (valuesOf names fields).length ≤ 1) :
    valuesOf names (collapseFields (Value.collapseValues fields)) =
      (valuesOf names fields).map Value.collapse := by
  have distinct : ((fields.filter fun f => names.contains f.1).map Prod.fst).Nodup := by
    rw [List.Nodup, List.pairwise_iff_getElem]
    intro i j _ below _
    rw [List.length_map, ← List.length_map Prod.snd, ← valuesOf] at below
    omega
  rw [valuesOf, Value.filter_collapse names.contains distinct, valuesOf, List.map_map, List.map_map]
  rfl

mutual

theorem Parts.collapse {n : Node} {titles urls descriptions lists : List Value}
    (parts : Parts n titles urls descriptions lists) :
    Parts n (titles.map Value.collapse) (urls.map Value.collapse)
      (descriptions.map Value.collapse) (lists.map Value.collapse) := by
  match parts with
  | .mk titled addressed described nested =>
    exact .mk titled.collapse addressed.collapse described.collapse nested.collapse

theorem ChildrenForm.collapse {ns : List Node} {vs : List Value} (form : ChildrenForm ns vs) :
    ChildrenForm ns (vs.map Value.collapse) := by
  match form with
  | .missing => exact .missing
  | .given forms => exact .given forms.collapse

theorem Form.collapse {n : Node} {v : Value} (form : Form n v) : Form n v.collapse := by
  match form with
  | .object parts =>
    obtain ⟨title, url, description, list⟩ := parts.once
    rw [Value.collapse]
    refine .object ?_
    rw [valuesOf_collapse title, valuesOf_collapse url, valuesOf_collapse description,
      valuesOf_collapse list]
    exact parts.collapse
  | @Form.array _ items short parts =>
    rw [Value.collapse, Value.collapseItems_eq_map]
    refine .array (by rwa [List.length_map]) ?_
    simp only [List.getElem?_map, Option.toList_map]
    exact parts.collapse

theorem Forms.collapse {ns : List Node} {items : List Value} (forms : Forms ns items) :
    Forms ns (Value.collapseItems items) := by
  match forms with
  | .nil => exact .nil
  | .cons first later => exact .cons first.collapse later.collapse

end

end BookmarkSearch.Bookmarks
