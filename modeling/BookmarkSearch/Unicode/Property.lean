import BookmarkSearch.Unicode.Age
import BookmarkSearch.Unicode.BinaryProperty
import BookmarkSearch.Unicode.Category
import BookmarkSearch.Unicode.Script
import BookmarkSearch.Unicode.ScriptExtension
import BookmarkSearch.Unicode.Segmentation

/-!
Sets of characters by the name of a property, or by the name of a property and one of its values.
-/

namespace BookmarkSearch.Unicode

/-- The set that a single name stands for: a property, else a category, else a script. Three
abbreviations are shared by a property and a category, and mean the category. -/
def named? (name : List Char) : Option CodeSet :=
  let reduced := reduceName name
  let property? :=
    if ["cf", "sc", "lc"].contains reduced then none else binaryProperty? reduced
  property? <|> category? reduced <|> script? reduced

def valuedProperties : List (List String × (String → Option CodeSet)) := [
  (["generalcategory", "gc", "category"], category?),
  (["script", "sc"], script?),
  (["scriptextensions", "scx"], scriptExtension?),
  (["age"], age?),
  (["graphemeclusterbreak", "gcb"], NamedSet.find? graphemeBreaks),
  (["wordbreak", "wb"], NamedSet.find? wordBreaks),
  (["sentencebreak", "sb"], NamedSet.find? sentenceBreaks)]

def valued? (name value : List Char) : Option CodeSet :=
  (valuedProperties.find? (·.1.contains (reduceName name))).bind fun property =>
    property.2 (reduceName value)

def digits : CodeSet := categoryOf ["nd"]

def spaces : CodeSet := (binaryProperty? "whitespace").getD CodeSet.empty

def wordChars : CodeSet :=
  CodeSet.unionAll
    (["alphabetic", "joincontrol"].filterMap binaryProperty? ++
      [categoryOf ["mn", "mc", "me", "nd", "pc"]])

/-- Characters that leave no ink of their own: controls, format characters, unassigned and private
code points, and every separator but the space. -/
def unprintables : CodeSet :=
  (categoryOf ["cc", "cf", "co", "cn", "zs", "zl", "zp"]).diff (CodeSet.singleton ' ')

def extenders : CodeSet := (binaryProperty? "graphemeextend").getD CodeSet.empty

end BookmarkSearch.Unicode
