import AvroLink.Text.Split

/-!
# Paths

A path is a text cut at `/`. Its components leave out empty pieces and, except at the
front, the piece `.`; `..` is a component of its own and is not worked out.
-/

namespace AvroLink.Path

inductive Component where
  | root
  | here
  | up
  | name (s : String)
  deriving DecidableEq, Repr

/-- Pieces of a path between slashes. -/
def pieces (path : String) : List String := (Text.pieces '/' path.toList).map String.ofList

def isAbsolute (path : String) : Bool := path.toList.head? == some '/'

/-- The component a piece stands for behind the first one. -/
def innerComponent? (piece : String) : Option Component :=
  if piece = "" ∨ piece = "." then none
  else if piece = ".." then some .up
  else some (.name piece)

def components (path : String) : List Component :=
  match pieces path with
  | [] => []
  | first :: rest =>
    let front :=
      if isAbsolute path then [Component.root]
      else if first = "." then [.here]
      else (innerComponent? first).toList
    front ++ rest.filterMap innerComponent?

/-- What follows `front` in a list of components. -/
def after? : List Component → List Component → Option (List Component)
  | [], cs => some cs
  | _ :: _, [] => none
  | f :: fs, c :: cs => if f = c then after? fs cs else none

def Component.name? : Component → Option String
  | name s => some s
  | _ => none

/-- The names on a path, relative to `root` when it lies below it. -/
def identifier (root path : String) : String :=
  let cs := components path
  Text.joinWith "/" (((after? (components root) cs).getD cs).filterMap Component.name?)

/-- The path `below` as seen from `path`. -/
def join (path below : String) : String :=
  if isAbsolute below then below
  else if path = "" ∨ path.toList.getLast? = some '/' then path ++ below
  else path ++ "/" ++ below

/-- Drop pieces at the end, here at the front of the reversed list, that are no components. -/
def dropBlank : List String → List String
  | [] => []
  | [p] => [p]
  | p :: ps => if p = "" ∨ p = "." then dropBlank ps else p :: ps

/-- The path without its last component; a root and the empty path have none. -/
def parent? (path : String) : Option String :=
  match dropBlank (pieces path).reverse with
  | [] => none
  | [p] => if p = "" then none else some ""
  | _ :: ps =>
    match dropBlank ps with
    | [""] => some "/"
    | ps => some (Text.joinWith "/" ps.reverse)

end AvroLink.Path
