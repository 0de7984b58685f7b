import AvroLink.Glob.Walk
import AvroLink.Source.Basic

/-!
# Definitions in files

A file source takes the files below a directory that match a pattern. A definition is
called by the names on its path below that directory.
-/

namespace AvroLink

structure FileSource where
  root : String
  glob : String
  filter : Option Regex

namespace FileSource

def defaultGlob : String := "**/*.avsc"

/-- The directory, taken literally, and the pattern below it. -/
def pattern (s : FileSource) : List Char :=
  ((Glob.escape s.root.toList).reverse.dropWhile (· = '/')).reverse ++ '/' :: s.glob.toList

/-- The definition at a place; none at a directory or under an identifier that is filtered out. -/
def read? (s : FileSource) (p : Glob.Place) : Except SourceError (Option Definition) :=
  match p.tree with
  | .dir _ => .ok none
  | .file bytes =>
    let id := Path.identifier s.root p.path
    if passes s.filter id then
      match Disk.readText bytes with
      | .ok content => .ok (some ⟨id, content⟩)
      | .error e => .error (.unreadable p.path e)
    else .ok none

/-- All definitions of a source; the first file that cannot be read ends it. -/
def load (s : FileSource) (d : Disk) : Except SourceError (List Definition) := do
  if d.isDir s.root then
    match Glob.find d s.pattern with
    | .error e => throw (.badPattern s.glob e)
    | .ok places => return Definition.sort ((← places.mapM s.read?).filterMap id)
  else throw (.missingRoot s.root)

end FileSource

end AvroLink
