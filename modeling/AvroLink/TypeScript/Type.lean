import AvroLink.Text.Split

/-!
# Type expressions

Brackets bind tighter than a bar, so a union of several types stands in
parentheses before brackets.
-/

namespace AvroLink.TypeScript

inductive TypeExpr where
  | name (identifier : String)
  | array (items : TypeExpr)
  | dictionary (values : TypeExpr)
  | union (branches : List TypeExpr)
  deriving Repr, Inhabited

namespace TypeExpr

/-- Whether a type is written with a bar. -/
def hasBar : TypeExpr → Bool
  | union (_ :: _ :: _) => true
  | _ => false

mutual

def text : TypeExpr → String
  | name s => s
  | array items => if items.hasBar then "(" ++ text items ++ ")[]" else text items ++ "[]"
  | dictionary values => "Record<string, " ++ text values ++ ">"
  | union branches => Text.joinWith " | " (texts branches)

def texts : List TypeExpr → List String
  | [] => []
  | t :: ts => text t :: texts ts

end

end TypeExpr

end AvroLink.TypeScript
