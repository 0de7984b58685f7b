import AvroLink.Remap
import AvroLink.TypeScript.Fresh
import AvroLink.TypeScript.Identifier

/-!
# Names of other types in a file

A file declares one type and imports the others it mentions. `refer` gives the
identifier under which a type is mentioned. A type that was mentioned before keeps its
identifier; a new one takes the name it is declared under, or when that is taken its
qualified name, numbered if need be.
-/

namespace AvroLink.TypeScript

structure Import where
  path : String
  exported : String
  localName : String
  deriving DecidableEq, Repr

namespace Import

/-- Set the import of a path in a table sorted by path. -/
def put (i : Import) : List Import → List Import
  | [] => [i]
  | j :: js =>
    if i.path < j.path then i :: j :: js
    else if i.path = j.path then i :: js
    else j :: put i js

def line (i : Import) : String :=
  let names := if i.exported = i.localName then i.exported else i.exported ++ " as " ++ i.localName
  "import type \x7b " ++ names ++ " \x7d from \"" ++ i.path ++ "\";\n"

end Import

/-- The names in use in the file that declares `self`. -/
structure Scope where
  self : FullName
  locals : List (FullName × String)
  imports : List Import

namespace Scope

def empty (self : FullName) : Scope := ⟨self, [], []⟩

/-- Identifiers that a new one must differ from. -/
def taken (sc : Scope) : List String :=
  declaredIdentifier sc.self :: globals ++ sc.locals.map Prod.snd

/-- The identifier for a type not mentioned before. -/
def choose (sc : Scope) (target : FullName) : String :=
  let exported := declaredIdentifier target
  let base := if exported ∈ sc.taken then qualifiedIdentifier target else exported
  firstFree sc.taken (numbered base "")

/-- The identifier for a type by its renamed name, and the names in use afterwards. -/
def mention (sc : Scope) (target : FullName) : String × Scope :=
  if target = sc.self then (declaredIdentifier sc.self, sc)
  else
    match sc.locals.lookup target with
    | some l => (l, sc)
    | none =>
      let l := sc.choose target
      let i : Import := ⟨importPath sc.self target, declaredIdentifier target, l⟩
      (l, { sc with locals := sc.locals ++ [(target, l)], imports := i.put sc.imports })

end Scope

/-- The identifier for a type referred to by its own name. -/
def refer (remap : Remap) (target : FullName) : StateM Scope String := fun sc =>
  sc.mention (remap.applyName target)

end AvroLink.TypeScript
