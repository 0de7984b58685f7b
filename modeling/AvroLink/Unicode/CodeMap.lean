import AvroLink.Unicode.CodeSet

/-!
# Maps of code points

A map is kept as runs in order that do not overlap. The code points of a run either all have the
same image, or each has an image as far from it as the first one has. `get?` searches the runs by
halving, and `ofText` reads a map as the tables write it.
-/

namespace AvroLink.Unicode

structure CodeRun where
  first : Nat
  last : Nat
  /-- Every `step`-th code point from the first one on belongs to the run. -/
  step : Nat
  /-- Whether the image moves along with the code point. -/
  moves : Bool
  image : List Nat
  deriving DecidableEq, Repr, Inhabited

/-- The image of a code point between the ends of a run. -/
def CodeRun.get? (r : CodeRun) (n : Nat) : Option (List Nat) :=
  if (n - r.first) % r.step ≠ 0 then none
  else if r.moves then some (r.image.map (· + (n - r.first)))
  else some r.image

structure CodeMap where
  runs : Array CodeRun
  deriving Repr, Inhabited

namespace CodeMap

/-- Search the runs from index `i` to before `j` for `n`. -/
def search (runs : Array CodeRun) (n i j : Nat) : Option (List Nat) :=
  if _h : i < j then
    let mid := (i + j) / 2
    match runs[mid]? with
    | none => none
    | some r =>
      if n < r.first then search runs n i mid
      else if r.last < n then search runs n (mid + 1) j
      else r.get? n
  else none
termination_by j - i

def get? (m : CodeMap) (n : Nat) : Option (List Nat) := search m.runs n 0 m.runs.size

/-- The characters that a character is mapped to. -/
def chars? (m : CodeMap) (c : Char) : Option (List Char) :=
  (m.get? c.toNat).map fun ns => ns.map Char.ofNat

/-- The first code point with a given image. -/
def preimage? (m : CodeMap) (image : List Nat) : Option Nat :=
  (m.runs.find? fun r => r.image == image).map (·.first)

/-! ## Written maps -/

/-- A written map that is being read. -/
structure Reading where
  runs : Array CodeRun
  /-- The ends and the step of the run, as far as they have been read. -/
  source : List Nat
  /-- Set from the sign on that stands before the image. -/
  moves : Option Bool
  image : List Nat
  /-- The number that is being read. -/
  n : Option Nat

namespace Reading

/-- Put the number that has been read where it belongs. -/
def settle (r : Reading) : Reading :=
  match r.n with
  | none => r
  | some n =>
    if r.moves.isSome then { r with image := r.image ++ [n], n := none }
    else { r with source := r.source ++ [n], n := none }

/-- Finish a run. -/
def close (r : Reading) : Reading :=
  let r := r.settle
  match r.source, r.moves with
  | first :: rest, some moves =>
    let run := ⟨first, rest.headD first, rest.tail.headD 1, moves, r.image⟩
    ⟨r.runs.push run, [], none, [], none⟩
  | _, _ => r

def step (r : Reading) (c : Char) : Reading :=
  if c = ' ' ∨ c = '\n' then r.close
  else if c = '>' then { r.settle with moves := some true }
  else if c = '=' then { r.settle with moves := some false }
  else if c = '-' ∨ c = '/' ∨ c = '.' then r.settle
  else { r with n := some (16 * r.n.getD 0 + CodeSet.digitValue c) }

end Reading

/-- Runs in order, in hexadecimal and with blanks between them: `41-5A>61` moves each code point by
the same distance, `100-12E/2>101` every second one; `FB52-FB55=67B` has one image for all, and
`132>69.6A` an image of two. -/
def ofText (text : String) : CodeMap :=
  ⟨(text.foldl Reading.step ⟨#[], [], none, [], none⟩).close.runs⟩

end CodeMap

end AvroLink.Unicode
