import AvroLink.Unicode.Age
import AvroLink.Unicode.Segmentation

/-!
# Asking for a set by name

A set is asked for by the name of a property, a general category or a script, or by a property and
its value. Names match loosely: case, blanks, hyphens, underscores and a leading `is` do not
count.
-/

namespace AvroLink.Unicode

/-- A name without what does not count in it; only its ASCII characters do. -/
def plainName (name : List Char) : String :=
  let hasIs := (name.take 2).map Char.toLower == ['i', 's']
  let name := if hasIs then name.drop 2 else name
  let name := (name.filter fun c => c.toNat < 128 && c ∉ [' ', '_', '-']).map Char.toLower
  -- `isc` is a name of its own and not `c` behind `is`.
  if hasIs && name == ['c'] then "isc" else String.ofList name

/-- A property, a category or a script. -/
def named? (name : List Char) : Option CodeSet :=
  let name := plainName name
  (find? properties name).or ((find? categories name).or (script? name))

/-- The characters for which a property has a value. -/
def valued? (property value : List Char) : Option CodeSet :=
  let value := plainName value
  match plainName property with
  | "gc" | "generalcategory" => find? categories value
  | "sc" | "script" => script? value
  | "scx" | "scriptextensions" => extendedScript? value
  | "age" => age? value
  | "gcb" | "graphemeclusterbreak" => find? graphemeClasses value
  | "wb" | "wordbreak" => find? wordClasses value
  | "sb" | "sentencebreak" => find? sentenceClasses value
  | _ => none

/-! ## Common sets -/

/-- Characters of words. -/
def wordChars : CodeSet :=
  .unions [alphabetic, marks, decimalNumbers, connectorPunctuation, joinControl]

/-- Letters and numbers. -/
def alphanumeric : CodeSet := alphabetic.union numbers

end AvroLink.Unicode
