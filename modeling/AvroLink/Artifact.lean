import AvroLink.Remap
import AvroLink.Schema.Basic

/-!
# Generated files and what they are generated from

Every named type that is defined anywhere in a batch yields one artifact. Types are
collected under their renamed full names; two under one name are an error.
-/

namespace AvroLink

/-- A file to write, with a path relative to the output directory. -/
structure Artifact where
  path : String
  contents : String
  deriving DecidableEq, Repr

/-- Two types of a batch have the same name. -/
structure DuplicateType where
  name : FullName
  deriving DecidableEq, Repr

def DuplicateType.message (e : DuplicateType) : String :=
  "`" ++ e.name.text ++ "` is defined more than once in the generated batch"

namespace Artifact

/-- Types under their renamed names, after those already collected. -/
def collectFrom (remap : Remap) :
    List (FullName × Schema) → List Schema → Except DuplicateType (List (FullName × Schema))
  | done, [] => .ok done
  | done, s :: ss =>
    match s.name? with
    | none => collectFrom remap done ss
    | some n =>
      let name := remap.applyName n
      if name ∈ done.map Prod.fst then .error ⟨name⟩
      else collectFrom remap (done ++ [(name, s)]) ss

/-- Every named type defined in a batch, by its renamed name. -/
def collectNamed (types : List Schema) (remap : Remap) :
    Except DuplicateType (List (FullName × Schema)) :=
  collectFrom remap [] (types.flatMap Schema.definitions)

end Artifact

end AvroLink
