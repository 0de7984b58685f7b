import AvroLink.Files.Path

/-!
# Trees of files

A directory holds entries sorted by name. A disk is a tree with a working directory; paths
are followed step by step, so `..` leads to the directory above the one reached, and each
step needs a directory to step from. Names and paths are bounded in bytes. The errors are those of
the operating system.
-/

namespace AvroLink

inductive FileTree where
  | file (bytes : ByteArray)
  | dir (entries : List (String × FileTree))

inductive FileError where
  | notFound
  | exists
  | notDirectory
  | isDirectory
  | nameTooLong
  | nulByte
  | notText
  deriving DecidableEq, Repr

def FileError.message : FileError → String
  | notFound => "No such file or directory (os error 2)"
  | .exists => "File exists (os error 17)"
  | notDirectory => "Not a directory (os error 20)"
  | isDirectory => "Is a directory (os error 21)"
  | nameTooLong => "File name too long (os error 36)"
  | nulByte => "file name contained an unexpected NUL byte"
  | notText => "stream did not contain valid UTF-8"

namespace FileTree

def isDir : FileTree → Bool
  | dir _ => true
  | file _ => false

def entries : FileTree → List (String × FileTree)
  | dir es => es
  | file _ => []

/-- What lies at the end of a list of names. -/
def get? : FileTree → List String → Option FileTree
  | t, [] => some t
  | t, n :: ns => (t.entries.lookup n).bind fun u => u.get? ns

def putEntry (name : String) (t : FileTree) : List (String × FileTree) → List (String × FileTree)
  | [] => [(name, t)]
  | (n, u) :: es =>
    if name < n then (name, t) :: (n, u) :: es
    else if name = n then (name, t) :: es
    else (n, u) :: putEntry name t es

theorem lookup_putEntry (name m : String) (t : FileTree) (es : List (String × FileTree)) :
    (putEntry name t es).lookup m = if m = name then some t else es.lookup m := by
  induction es with
  | nil =>
    by_cases h : m = name
    · simp [putEntry, h]
    · have : (m == name) = false := by simp [h]
      simp [putEntry, List.lookup_cons, this, h]
  | cons e es ih =>
    obtain ⟨n, u⟩ := e
    unfold putEntry
    split
    · by_cases h : m = name
      · simp [h]
      · have : (m == name) = false := by simp [h]
        rw [if_neg h, List.lookup_cons, this]
    · split
      · rename_i h
        subst h
        by_cases h : m = name
        · simp [h]
        · have : (m == name) = false := by simp [h]
          simp [List.lookup_cons, this, h]
      · rename_i h
        rw [List.lookup_cons, ih, List.lookup_cons]
        by_cases hn : m = n
        · subst hn
          simp [Ne.symm h]
        · have : (m == n) = false := by simp [hn]
          simp [this]

/-- Put a tree at the end of a list of names; directories on the way are made, and a file on the
way stays. -/
def put (new : FileTree) : List String → FileTree → FileTree
  | [], _ => new
  | _ :: _, file b => file b
  | n :: ns, dir es => dir (putEntry n (put new ns ((es.lookup n).getD (dir []))) es)

mutual

/-- All files below a tree by their names on the way, in order. -/
def files : FileTree → List (List String × ByteArray)
  | file b => [([], b)]
  | dir es => entryFiles es

def entryFiles : List (String × FileTree) → List (List String × ByteArray)
  | [] => []
  | (n, t) :: es => (files t).map (fun (ns, b) => (n :: ns, b)) ++ entryFiles es

end

end FileTree

structure Disk where
  root : FileTree
  /-- Names that lead to the working directory. -/
  cwd : List String

namespace Disk

def maxNameSize : Nat := 255

def maxPathSize : Nat := 4095

/-- Whether a path can be handed to the operating system at all. -/
def checkPath (path : String) : Except FileError Unit :=
  if Char.ofNat 0 ∈ path.toList then .error .nulByte
  else if path = "" then .error .notFound
  else if maxPathSize < path.utf8ByteSize then .error .nameTooLong
  else .ok ()

/-- Take one step from a directory. -/
def step (d : Disk) (at_ : List String) (piece : String) : Except FileError (List String) :=
  match d.root.get? at_ with
  | some (.dir es) =>
    if piece = "" ∨ piece = "." then .ok at_
    else if piece = ".." then .ok at_.dropLast
    else if maxNameSize < piece.utf8ByteSize then .error .nameTooLong
    else if (es.lookup piece).isSome then .ok (at_ ++ [piece])
    else .error .notFound
  | some (.file _) => .error .notDirectory
  | none => .error .notFound

def follow (d : Disk) : List String → List String → Except FileError (List String)
  | at_, [] => .ok at_
  | at_, p :: ps => do follow d (← d.step at_ p) ps

def origin (d : Disk) (path : String) : List String := if Path.isAbsolute path then [] else d.cwd

/-- Names that lead to what a path denotes. -/
def resolve (d : Disk) (path : String) : Except FileError (List String) := do
  checkPath path
  d.follow (d.origin path) (Path.pieces path)

/-- What a path denotes. -/
def find? (d : Disk) (path : String) : Option FileTree :=
  match d.resolve path with
  | .ok names => d.root.get? names
  | .error _ => none

def isDir (d : Disk) (path : String) : Bool := (d.find? path).any FileTree.isDir

def put (d : Disk) (names : List String) (t : FileTree) : Disk :=
  { d with root := t.put names d.root }

/-- The pieces of a path before the last one, and that one, without slashes at the end. -/
def splitLast (path : String) : List String × String :=
  match ((Path.pieces path).reverse.dropWhile (· = "")) with
  | [] => ([], "")
  | p :: ps => (ps.reverse, p)

/-- Make a directory in one that exists. -/
def createDir (d : Disk) (path : String) : Except FileError Disk := do
  checkPath path
  let (front, last) := splitLast path
  if last = "" ∨ last = "." ∨ last = ".." then
    let _ ← d.resolve path
    .error .exists
  else
    let at_ ← d.follow (d.origin path) front
    match d.step at_ last with
    | .ok _ => .error .exists
    | .error .notFound => .ok (d.put (at_ ++ [last]) (.dir []))
    | .error e => .error e

/-- Make a directory and those above it that are missing; `fuel` bounds how many. -/
def createDirs (d : Disk) (path : String) : Nat → Except FileError Disk
  | 0 => .ok d
  | fuel + 1 =>
    if path = "" then .ok d
    else
      let make (d : Disk) : Except FileError Disk :=
        match d.createDir path with
        | .ok d => .ok d
        | .error e => if d.isDir path then .ok d else .error e
      match d.createDir path with
      | .error .notFound =>
        match Path.parent? path with
        | some above => do make (← createDirs d above fuel)
        | none => .error .notFound
      | _ => make d

def createAllDirs (d : Disk) (path : String) : Except FileError Disk :=
  d.createDirs path (path.length + 1)

/-- Write a file, over one that is there. Only a name without a slash behind it can be a file. -/
def writeFile (d : Disk) (path : String) (bytes : ByteArray) : Except FileError Disk := do
  checkPath path
  let (front, last) := splitLast path
  let at_ ← d.step (← d.follow (d.origin path) front) "."
  if last ∈ ["", ".", ".."] ∨ path.toList.getLast? = some '/' then .error .isDirectory
  else
    match d.step at_ last with
    | .ok names =>
      match d.root.get? names with
      | some (.dir _) => .error .isDirectory
      | _ => .ok (d.put names (.file bytes))
    | .error .notFound => .ok (d.put (at_ ++ [last]) (.file bytes))
    | .error e => .error e

def readText (bytes : ByteArray) : Except FileError String :=
  match String.fromUTF8? bytes with
  | some s => .ok s
  | none => .error .notText

end Disk

end AvroLink
