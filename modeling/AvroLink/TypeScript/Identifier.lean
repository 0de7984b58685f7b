import AvroLink.Name
import AvroLink.Text.Pascal

/-!
# Identifiers and paths of named types

The file of `com.acme.Order` is `com/acme/Order.ts`. Its type is declared under the simple
name, unless that is a global type which generated code relies on: then the namespace
stands before it, or `Type` behind it in the null namespace.
-/

namespace AvroLink.TypeScript

/-- Global types that generated code names. -/
def globals : List String := ["Record", "Uint8Array"]

/-- `com.other.Order` as `ComOtherOrder`. -/
def qualifiedIdentifier (n : FullName) : String :=
  String.join (n.segments.map Text.pascal) ++ n.name

def declaredIdentifier (n : FullName) : String :=
  if n.name ∈ globals then
    match n.space with
    | some _ => qualifiedIdentifier n
    | none => n.name ++ "Type"
  else n.name

/-- The file that declares a type. -/
def filePath (n : FullName) : String := Text.joinWith "/" (n.segments ++ [n.name ++ ".ts"])

/-- What is left of two lists after their common front. -/
def dropCommon : List String → List String → List String × List String
  | a :: as, b :: bs => if a = b then dropCommon as bs else (a :: as, b :: bs)
  | as, bs => (as, bs)

/-- Steps from the directory of `source` to the file of `target`. -/
def importSteps (source target : FullName) : List String :=
  let (up, down) := dropCommon source.segments target.segments
  up.map (fun _ => "..") ++ down ++ [target.name]

/-- The module path of `target` as the file of `source` spells it. -/
def importPath (source target : FullName) : String :=
  let steps := importSteps source target
  let path := Text.joinWith "/" steps
  match steps with
  | ".." :: _ => path
  | _ => "./" ++ path

end AvroLink.TypeScript
