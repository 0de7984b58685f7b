import AvroLink.Text.Split

/-!
# Full names of named types

A record, enum or fixed type is identified by a simple name in a dotted
namespace. A name that holds a dot carries its own namespace; an empty
namespace is the null namespace, `none`.
-/

namespace AvroLink

/-- A letter of ASCII or an underscore. -/
def isNameStart (c : Char) : Bool := c.isAlpha || c == '_'

/-- A letter or digit of ASCII or an underscore. -/
def isNameRest (c : Char) : Bool := c.isAlphanum || c == '_'

/-- The texts `[A-Za-z_][A-Za-z0-9_]*`. -/
def isNameText : List Char → Bool
  | [] => false
  | c :: cs => isNameStart c && cs.all isNameRest

/-- Dot-separated sequence of names. -/
def isNamespaceText (cs : List Char) : Bool := (Text.pieces '.' cs).all isNameText

def isValidName (s : String) : Bool := isNameText s.toList

def isValidNamespace (s : String) : Bool := isNamespaceText s.toList

/-- Ways in which a name or namespace breaks the naming rules. -/
inductive NameError where
  | empty
  | invalidName (name : String)
  | invalidNamespace (space : String)
  deriving DecidableEq, Repr

def NameError.message : NameError → String
  | .empty => "name cannot be empty"
  | .invalidName n => "`" ++ n ++ "` is not a valid name"
  | .invalidNamespace n => "`" ++ n ++ "` is not a valid namespace"

/-- Identity of a named type. -/
structure FullName where
  space : Option String
  name : String
  deriving DecidableEq, Repr, Inhabited, Hashable

namespace FullName

/-- The null namespace is also written as the empty text. -/
def spaceOf : Option String → Option String
  | some "" => none
  | s => s

/-- The full name a text denotes inside the namespace `enclosing`, which counts only for a text
without a dot. -/
def resolve (text : String) (enclosing : Option String) : Except NameError FullName :=
  if text = "" then .error .empty
  else
    let (space, simple) :=
      match Text.cutLast '.' text.toList with
      | some (ns, simple) => (some (String.ofList ns), String.ofList simple)
      | none => (enclosing, text)
    if isValidName simple then
      match spaceOf space with
      | none => .ok ⟨none, simple⟩
      | some ns =>
        if isValidNamespace ns then .ok ⟨some ns, simple⟩ else .error (.invalidNamespace ns)
    else .error (.invalidName text)

/-- The full name a text denotes on its own. -/
def parse (text : String) : Except NameError FullName := resolve text none

/-- Same simple name in another namespace. -/
def withSpace (f : FullName) (space : Option String) : FullName := ⟨spaceOf space, f.name⟩

def text (f : FullName) : String :=
  match f.space with
  | some ns => ns ++ "." ++ f.name
  | none => f.name

instance : ToString FullName := ⟨text⟩

/-- Segments of the namespace, none for the null namespace. -/
def segments (f : FullName) : List String :=
  match f.space with
  | some ns => (Text.pieces '.' ns.toList).map String.ofList
  | none => []

/-- Order by namespace, the null namespace first, then by simple name. -/
def le (a b : FullName) : Bool :=
  match a.space, b.space with
  | none, some _ => true
  | some _, none => false
  | none, none => decide (a.name ≤ b.name)
  | some x, some y => if x = y then decide (a.name ≤ b.name) else decide (x < y)

/-- The names in order. -/
def sort (names : List FullName) : List FullName := names.mergeSort le

end FullName

end AvroLink
