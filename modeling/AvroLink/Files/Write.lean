import AvroLink.Artifact
import AvroLink.Files.Tree

/-!
# Writing artifacts

Artifacts are written below a directory one after another, with the directories they need.
The first that cannot be written ends it; what was written before stays.
-/

namespace AvroLink

structure WriteError where
  path : String
  error : FileError
  deriving DecidableEq, Repr

def WriteError.message (e : WriteError) : String :=
  "cannot write `" ++ e.path ++ "`: " ++ e.error.message

namespace Artifact

/-- Make the directory of a file and write it. -/
def write (a : Artifact) (dir : String) (d : Disk) : Except WriteError Disk := do
  let path := Path.join dir a.path
  let made ← match Path.parent? path with
    | some above => (d.createAllDirs above).mapError (⟨above, ·⟩)
    | none => pure d
  (made.writeFile path a.contents.toUTF8).mapError (⟨path, ·⟩)

/-- Write artifacts below `dir`: the paths written or what stopped it, and the disk afterwards. -/
def writeAll (dir : String) : List Artifact → Disk → Except WriteError (List String) × Disk
  | [], d => (.ok [], d)
  | a :: as, d =>
    match a.write dir d with
    | .error e => (.error e, d)
    | .ok d =>
      let (written, d) := writeAll dir as d
      (written.map (Path.join dir a.path :: ·), d)

end Artifact

end AvroLink
