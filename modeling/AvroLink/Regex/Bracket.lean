import AvroLink.Regex.Escape

/-!
# Bracketed sets

Members, ranges, named sets and sets in brackets make a set; `&&`, `--` and `~~` combine what stands
before and after them, from left to right. `Flags.bracket` reads a set and says how deep it is
nested: every bracket, every operator and every list of two members or more is a level.
-/

namespace AvroLink.Regex

open Unicode

/-- Sets written as `[:alpha:]`. -/
def namedAscii? : String → Option CodeSet
  | "alnum" => some (.ofText "30-39 41-5A 61-7A")
  | "alpha" => some (.ofText "41-5A 61-7A")
  | "ascii" => some (.ofText "0-7F")
  | "blank" => some (.ofText "9 20")
  | "cntrl" => some (.ofText "0-1F 7F")
  | "digit" => some (.ofText "30-39")
  | "graph" => some (.ofText "21-7E")
  | "lower" => some (.ofText "61-7A")
  | "print" => some (.ofText "20-7E")
  | "punct" => some (.ofText "21-2F 3A-40 5B-60 7B-7E")
  | "space" => some (.ofText "9-D 20")
  | "upper" => some (.ofText "41-5A")
  | "word" => some (.ofText "30-39 41-5A 5F 61-7A")
  | "xdigit" => some (.ofText "30-39 41-46 61-66")
  | _ => none

inductive SetOp where
  | inter
  | diff
  | symmDiff
  deriving DecidableEq, Repr

def SetOp.apply : SetOp → CodeSet → CodeSet → CodeSet
  | inter => .inter
  | diff => .diff
  | symmDiff => .symmDiff

/-- A set with the depth to which it is nested. -/
structure Nested where
  set : CodeSet
  depth : Nat

/-- A bracketed set that is being read. -/
structure OpenSet where
  negated : Bool
  /-- The operand before the last operator. -/
  pending : Option (SetOp × Nested) := none
  /-- Ranges of the members since then. -/
  ranges : List (Nat × Nat) := []
  count : Nat := 0
  depth : Nat := 0

namespace OpenSet

def add (o : OpenSet) (ranges : List (Nat × Nat)) (depth : Nat) : OpenSet :=
  { o with
    ranges := ranges ++ o.ranges, count := o.count + 1, depth := Nat.max o.depth depth }

def addChar (o : OpenSet) (c : Char) : OpenSet := o.add [(c.toNat, c.toNat)] 0

/-- The members since the last operator. -/
def members (o : OpenSet) : Nested :=
  ⟨.ofRanges o.ranges, if 2 ≤ o.count then o.depth + 1 else o.depth⟩

/-- All that was read; letters have their variants before an operator takes them. -/
def value (f : Flags) (o : OpenSet) : Nested :=
  let last := o.members
  match o.pending with
  | none => last
  | some (op, first) =>
    ⟨op.apply (f.cased first.set) (f.cased last.set), Nat.max first.depth last.depth + 1⟩

def operator (f : Flags) (o : OpenSet) (op : SetOp) : OpenSet :=
  { negated := o.negated, pending := some (op, o.value f) }

/-- The finished set. -/
def close? (f : Flags) (o : OpenSet) : Option Nested := do
  let value := o.value f
  some ⟨← f.signed? o.negated (f.cased value.set), value.depth + 1⟩

end OpenSet

namespace Flags

/-- Hyphens at the front stand for themselves. -/
def leadingHyphens (f : Flags) (o : OpenSet) : Nat → List Char → OpenSet × List Char
  | 0, cs => (o, cs)
  | _, [] => (o, [])
  | fuel + 1, c :: cs =>
    if c = '-' then f.leadingHyphens (o.addChar '-') fuel (f.skip cs) else (o, c :: cs)

/-- The start of a set, behind its bracket: a closing bracket comes first only as a member. -/
def openSet (f : Flags) (cs : List Char) : Option (OpenSet × List Char) :=
  let cs := f.skip cs
  let (negated, cs) := match cs with
    | '^' :: cs => (true, f.skip cs)
    | cs => (false, cs)
  let (o, cs) := f.leadingHyphens { negated } cs.length cs
  match cs with
  | [] => none
  | ']' :: rest =>
    if o.count = 0 then
      match f.skip rest with
      | [] => none
      | rest => some (o.addChar ']', rest)
    else some (o, cs)
  | cs => some (o, cs)

/-- A set such as `[:alpha:]`, behind its first bracket. -/
def namedSet? (cs : List Char) : Option (Bool × CodeSet × List Char) :=
  match cs with
  | ':' :: cs =>
    let (negated, cs) := match cs with
      | '^' :: cs => (true, cs)
      | cs => (false, cs)
    match cs.dropWhile (· ≠ ':') with
    | ':' :: ']' :: rest => do
      let s ← namedAscii? (String.ofList (cs.takeWhile (· ≠ ':')))
      some (negated, s, rest)
    | _ => none
  | _ => none

/-- One member of a set. -/
def setAtom (f : Flags) (cs : List Char) : Option (Atom × List Char) :=
  match cs with
  | [] => none
  | '\\' :: cs => f.escape cs
  | c :: cs => some (.char c, cs)

/-- A character as a bound of a range; without Unicode there are only the first 128. -/
def bound? (f : Flags) : Atom → Option Char
  | .char c => if f.unicode || c.toNat < 128 then some c else none
  | _ => none

/-- A member or a range of a set. -/
def setItem (f : Flags) (cs : List Char) : Option (List (Nat × Nat) × List Char) := do
  let (first, rest) ← f.setAtom cs
  let rest := f.skip rest
  let alone : Option (List (Nat × Nat) × List Char) :=
    match first with
    | .set s => some (s.toList, rest)
    | a => (f.bound? a).map fun c => ([(c.toNat, c.toNat)], rest)
  match rest with
  | [] => none
  | '-' :: more =>
    let more := f.skip more
    if more.head? = some ']' ∨ more.head? = some '-' then alone
    else
      let (last, rest) ← f.setAtom more
      let lo ← f.bound? first
      let hi ← f.bound? last
      if lo ≤ hi then some ([(lo.toNat, hi.toNat)], rest) else none
  | _ => alone

/-- Read on in the set `o`, which lies in the sets `outer`; every round takes a character. -/
def sets (f : Flags) (o : OpenSet) (outer : List OpenSet) (cs : List Char) :
    Option (Nested × List Char) :=
  let go (o : OpenSet) (outer : List OpenSet) (rest : List Char) : Option (Nested × List Char) :=
    if _h : rest.length < cs.length then f.sets o outer rest else none
  match f.skip cs with
  | [] => none
  | '[' :: rest =>
    match namedSet? rest with
    | some (negated, s, rest) => do
      let s ← f.signed? negated (f.cased s)
      go (o.add s.toList 0) outer rest
    | none => do
      let (inner, rest) ← f.openSet rest
      go inner (o :: outer) rest
  | ']' :: rest => do
    let inner ← o.close? f
    match outer with
    | [] => some (inner, rest)
    | up :: outer => go (up.add inner.set.toList inner.depth) outer rest
  | '&' :: '&' :: rest => go (o.operator f .inter) outer rest
  | '-' :: '-' :: rest => go (o.operator f .diff) outer rest
  | '~' :: '~' :: rest => go (o.operator f .symmDiff) outer rest
  | cs => do
    let (ranges, rest) ← f.setItem cs
    go (o.add ranges 0) outer rest
termination_by cs.length

/-- A set behind its bracket. -/
def bracket (f : Flags) (cs : List Char) : Option (Nested × List Char) := do
  let (o, cs) ← f.openSet cs
  f.sets o [] cs

end Flags

end AvroLink.Regex
