import AvroLink.Files.Tree
import AvroLink.Glob.Pattern

/-!
# Files that a pattern matches

A pattern is cut at slashes, and each part is matched against the names in one directory. A part
without wildcards is looked up at once; so are `.` and `..`. `**` stands for the
directories below and for none at all, so a file may be found more than once. Names
are visited in order, and what matches comes before what lies below it.
-/

namespace AvroLink.Glob

/-- Something found on the way, by the path that led to it. -/
structure Place where
  path : String
  names : List String
  tree : FileTree

/-- The place of an entry; the working directory is left out of paths. -/
def Place.below (p : Place) (piece : String) (names : List String) (t : FileTree) : Place :=
  ⟨if p.path = "." then piece else Path.join p.path piece, names, t⟩

/-- The place one step further, `none` when there is nothing. -/
def stepTo (d : Disk) (p : Place) (piece : String) : Option Place :=
  if p.path = "." ∧ piece = "" then none
  else
    match d.step p.names piece with
    | .ok names =>
      ((d.root.get? names).map (p.below piece names)).filter fun next =>
        (Disk.checkPath next.path).isOk
    | .error _ => none

/-- The place above, by a path that keeps the working directory in front. -/
def stepUp (d : Disk) (p : Place) : Option Place :=
  (stepTo d p "..").map fun up => { up with path := Path.join p.path ".." }

/-- Parts of a pattern between slashes; an empty last one does not count. -/
def parts (pattern : List Char) : List (List Char) :=
  match (Text.pieces '/' pattern).reverse with
  | [] :: ps => ps.reverse
  | ps => ps.reverse

theorem sizeOf_lt_of_mem {e : String × FileTree} {es : List (String × FileTree)} (h : e ∈ es) :
    sizeOf e.2 < sizeOf es := by
  induction es with
  | nil => simp at h
  | cons a es ih =>
    rcases List.mem_cons.mp h with h | h
    · subst h
      obtain ⟨n, t⟩ := e
      simp
      omega
    · have := ih h
      simp
      omega

/-- Whether a place counts; a pattern that ends in a slash asks for a directory. -/
def accept (needDir : Bool) (p : Place) : List Place :=
  if needDir && !p.tree.isDir then [] else [p]

mutual

/-- Places below `p` that the parts `ps` match. -/
def fill (d : Disk) (needDir : Bool) (ps : List Pattern) (p : Place) : List Place :=
  match ps with
  | [] => []
  | q :: qs =>
    let follow (next : Option Place) : List Place :=
      match next with
      | none => []
      | some next => if qs.isEmpty then accept needDir next else fill d needDir qs next
    match literal? q with
    | some s => follow (stepTo d p (String.ofList s))
    | none =>
      let dots := if q.head? = some (.char '.') && p.tree.isDir then
          (if matchesName q ['.', '.'] then follow (stepUp d p) else []) ++
            (if matchesName q ['.'] then follow (stepTo d p ".") else [])
        else []
      match h : p.tree with
      | .file _ => []
      | .dir es =>
        dots ++ es.attach.flatMap fun ⟨(n, t), he⟩ =>
          have : sizeOf t < sizeOf p.tree := by
            have := sizeOf_lt_of_mem he
            rw [h]
            simp at this ⊢
            omega
          visit d needDir q qs n (p.below n (p.names ++ [n]) t)
termination_by (ps.length, sizeOf p.tree, 0)
decreasing_by
  · left; simp
  · right; left; exact this

/-- Match the entry `p` called `name` against the part `q`, and what is below it against the
parts `qs`. -/
def visit (d : Disk) (needDir : Bool) (q : Pattern) (qs : List Pattern) (name : String)
    (p : Place) : List Place :=
  if isRecursive q then
    let rest := qs.dropWhile isRecursive
    have hr : rest.length ≤ qs.length := (List.dropWhile_suffix isRecursive).length_le
    match h : p.tree with
    | .file _ =>
      match hq : rest with
      | [] => []
      | r :: rs =>
        have : rs.length + 1 < qs.length + 1 := by simp at hr; omega
        matchEntry d needDir r rs name p
    | .dir es =>
      let deeper := es.attach.flatMap fun ⟨(n, t), he⟩ =>
        have : sizeOf t < sizeOf p.tree := by
          have := sizeOf_lt_of_mem he
          rw [h]
          simp at this ⊢
          omega
        visit d needDir q rest n (p.below n (p.names ++ [n]) t)
      match hq : rest with
      | [] => p :: deeper
      | r :: rs => matchEntry d needDir r rs name p ++ deeper
  else matchEntry d needDir q qs name p
termination_by (qs.length + 1, sizeOf p.tree, 2)
decreasing_by
  · left; omega
  · rcases Nat.lt_or_eq_of_le hr with hlt | heq
    · left; exact Nat.succ_lt_succ hlt
    · rw [show rest.length = qs.length from heq]; right; left; exact this
  · left; simp at hr; omega
  · right; right; omega

/-- Match an entry against a part that names one directory level. -/
def matchEntry (d : Disk) (needDir : Bool) (q : Pattern) (qs : List Pattern) (name : String)
    (p : Place) : List Place :=
  if matchesName q name.toList then
    if qs.isEmpty then accept needDir p else fill d needDir qs p
  else []
termination_by (qs.length + 1, sizeOf p.tree, 1)

end

/-- The places that a pattern matches, in order. The whole pattern is read first, so that positions
in errors count from its start; then each part alone. -/
def find (d : Disk) (pattern : List Char) : Except PatternError (List Place) := do
  let _ ← parse pattern
  let (path, names, rest) := match pattern with
    | '/' :: rest => ("/", [], rest)
    | _ => (".", d.cwd, pattern)
  let read ← (parts rest).mapM parse
  let read := if rest.isEmpty then [[]] else read
  match d.root.get? names with
  | none => return []
  | some t => return fill d (pattern.getLast? == some '/') read ⟨path, names, t⟩

end AvroLink.Glob
