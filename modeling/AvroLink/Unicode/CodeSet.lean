/-!
# Sets of code points

A set is kept as its ranges, in order and with a gap between any two. `ofRanges` brings ranges into
that form and `contains` searches them by halving; the other operations are made of these.
`ofText` reads a set as the tables write it.
-/

namespace AvroLink.Unicode

structure CodeSet where
  ranges : Array (Nat × Nat)
  deriving DecidableEq, Repr, Inhabited

namespace CodeSet

def empty : CodeSet := ⟨#[]⟩

def range (lo hi : Nat) : CodeSet := ⟨#[(lo, hi)]⟩

def single (n : Nat) : CodeSet := range n n

/-- Put a range behind ranges that start no later; what touches the last one joins it. -/
def push (ranges : Array (Nat × Nat)) (r : Nat × Nat) : Array (Nat × Nat) :=
  match ranges.back? with
  | some last =>
    if r.1 ≤ last.2 + 1 then ranges.pop.push (last.1, Nat.max last.2 r.2) else ranges.push r
  | none => ranges.push r

/-- Whether a range goes before another one. -/
def startsFirst (r s : Nat × Nat) : Bool := r.1 ≤ s.1

def ofSorted (ranges : List (Nat × Nat)) : CodeSet := ⟨ranges.foldl push #[]⟩

def ofRanges (ranges : List (Nat × Nat)) : CodeSet := ofSorted (ranges.mergeSort startsFirst)

def toList (s : CodeSet) : List (Nat × Nat) := s.ranges.toList

/-- Whether one of the ranges from index `i` to before `j` holds `n`. -/
def search (ranges : Array (Nat × Nat)) (n i j : Nat) : Bool :=
  if _h : i < j then
    let mid := (i + j) / 2
    match ranges[mid]? with
    | none => false
    | some (lo, hi) =>
      if n < lo then search ranges n i mid
      else if hi < n then search ranges n (mid + 1) j
      else true
  else false
termination_by j - i

def contains (s : CodeSet) (n : Nat) : Bool := search s.ranges n 0 s.ranges.size

def mem (s : CodeSet) (c : Char) : Bool := s.contains c.toNat

def union (s t : CodeSet) : CodeSet := ofSorted (s.toList.merge t.toList startsFirst)

def unions (sets : List CodeSet) : CodeSet := sets.foldl union empty

/-- The last code point. -/
def last : Nat := 0x10FFFF

/-- The code points from `next` on that lie between ranges. -/
def gaps (next : Nat) : List (Nat × Nat) → List (Nat × Nat)
  | [] => if next ≤ last then [(next, last)] else []
  | (lo, hi) :: rest =>
    if next < lo then (next, lo - 1) :: gaps (hi + 1) rest else gaps (hi + 1) rest

/-- Halves of pairs of units, which are no characters. -/
def surrogates : CodeSet := range 0xD800 0xDFFF

/-- The characters that are not in a set. -/
def compl (s : CodeSet) : CodeSet := ofSorted (gaps 0 (s.union surrogates).toList)

/-- All characters. -/
def all : CodeSet := compl empty

def inter (s t : CodeSet) : CodeSet := (s.compl.union t.compl).compl

def diff (s t : CodeSet) : CodeSet := (s.compl.union t).compl

def symmDiff (s t : CodeSet) : CodeSet := (s.diff t).union (t.diff s)

/-! ## Written sets -/

def digitValue (c : Char) : Nat := if c ≤ '9' then c.toNat - 48 else c.toNat - 55

/-- A written set that is being read. -/
structure Reading where
  ranges : Array (Nat × Nat)
  /-- The bound before a hyphen. -/
  lo : Option Nat
  /-- The number that is being read. -/
  n : Option Nat
  /-- Only every second code point. -/
  skips : Bool

namespace Reading

/-- Finish a range. -/
def close (r : Reading) : Reading :=
  match r.n with
  | none => r
  | some n =>
    let lo := r.lo.getD n
    let ranges :=
      if r.skips then
        (List.range ((n - lo) / 2 + 1)).foldl
          (fun rs k => push rs (lo + 2 * k, lo + 2 * k)) r.ranges
      else push r.ranges (lo, n)
    ⟨ranges, none, none, false⟩

def step (r : Reading) (c : Char) : Reading :=
  if c = ' ' ∨ c = '\n' then r.close
  else if c = '-' then { r with lo := r.n, n := none }
  else if c = '/' then { r with skips := true }
  else if r.skips then r
  else { r with n := some (16 * r.n.getD 0 + digitValue c) }

end Reading

/-- Ranges in order, in hexadecimal and with blanks between them; of a range such as `100-12E/2`
every second code point is meant. -/
def ofText (text : String) : CodeSet :=
  ⟨(text.foldl Reading.step ⟨#[], none, none, false⟩).close.ranges⟩

end CodeSet

/-- A set and the names by which it is asked for. -/
structure NamedSet where
  names : List String
  set : CodeSet
  deriving Repr

/-- The first set with a name. -/
def find? (sets : List NamedSet) (name : String) : Option CodeSet :=
  (sets.find? fun s => s.names.contains name).map (·.set)

end AvroLink.Unicode
