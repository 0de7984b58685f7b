import AvroLink.Regex.Anchor

/-!
# Regular expressions

An expression is kept in a simple form: texts are as long as they can be, sequences and choices are
flat, and what can be read as one set is one set. `ofSet`, `sequence`, `choice` and `repeated`
build that form. What is taken first, or how much of it, does not matter here, so there is one kind
of repetition.
-/

namespace AvroLink

open Unicode

inductive Regex where
  | empty
  /-- A text, which is not empty. -/
  | text (cs : List Char)
  | set (s : CodeSet)
  | anchor (a : Regex.Anchor)
  /-- A group that remembers what it matched. -/
  | group (index : Nat) (r : Regex)
  | seq (rs : List Regex)
  | alt (rs : List Regex)
  | times (r : Regex) (min : Nat) (max : Option Nat)
  deriving Inhabited, Repr

namespace Regex

/-! ## Equality -/

mutual

def beq : Regex → Regex → Bool
  | empty, empty => true
  | text a, text b => a == b
  | set s, set t => s == t
  | anchor a, anchor b => a == b
  | group i r, group j s => i == j && beq r s
  | seq rs, seq ss => beqs rs ss
  | alt rs, alt ss => beqs rs ss
  | times r m n, times s p q => beq r s && m == p && n == q
  | _, _ => false

def beqs : List Regex → List Regex → Bool
  | [], [] => true
  | r :: rs, s :: ss => beq r s && beqs rs ss
  | _, _ => false

end

instance : BEq Regex := ⟨beq⟩

/-! ## Lengths of what matches, in bytes -/

/-- Bytes of a text in UTF-8. -/
def byteLength (cs : List Char) : Nat := cs.foldl (fun n c => n + c.utf8Size) 0

/-- Bytes of a code point in UTF-8. -/
def codeLength (n : Nat) : Nat :=
  if n < 0x80 then 1 else if n < 0x800 then 2 else if n < 0x10000 then 3 else 4

mutual

/-- The shortest match; `none` when some part can match nothing at all. -/
def minLength : Regex → Option Nat
  | empty => some 0
  | text cs => some (byteLength cs)
  | set s => s.ranges[0]?.map fun r => codeLength r.1
  | anchor _ => some 0
  | group _ r => minLength r
  | seq rs => minTotal rs
  | alt rs => minOf rs
  | times r min _ => (minLength r).map (· * min)

def minTotal : List Regex → Option Nat
  | [] => some 0
  | r :: rs => do some ((← minLength r) + (← minTotal rs))

def minOf : List Regex → Option Nat
  | [] => none
  | [r] => minLength r
  | r :: rs => do some (Nat.min (← minLength r) (← minOf rs))

end

mutual

/-- The longest match; `none` when there is no bound or nothing matches. -/
def maxLength : Regex → Option Nat
  | empty => some 0
  | text cs => some (byteLength cs)
  | set s => s.ranges.back?.map fun r => codeLength r.2
  | anchor _ => some 0
  | group _ r => maxLength r
  | seq rs => maxTotal rs
  | alt rs => maxOf rs
  | times r _ max => do some ((← maxLength r) * (← max))

def maxTotal : List Regex → Option Nat
  | [] => some 0
  | r :: rs => do some ((← maxLength r) + (← maxTotal rs))

def maxOf : List Regex → Option Nat
  | [] => none
  | [r] => maxLength r
  | r :: rs => do some (Nat.max (← maxLength r) (← maxOf rs))

end

/-! ## Building -/

/-- A set of one character is a text. -/
def ofSet (s : CodeSet) : Regex :=
  match s.toList with
  | [(lo, hi)] => if lo = hi then text [Char.ofNat lo] else set s
  | _ => set s

/-- The parts of a sequence. -/
def parts : Regex → List Regex
  | empty => []
  | seq rs => rs
  | r => [r]

/-- Put a part in front of others; two texts become one. -/
def consPart : Regex → List Regex → List Regex
  | text a, text b :: rs => text (a ++ b) :: rs
  | r, rs => r :: rs

def sequence (rs : List Regex) : Regex :=
  match (rs.flatMap parts).foldr consPart [] with
  | [] => empty
  | [r] => r
  | rs => seq rs

/-- The alternatives of a choice. -/
def alternatives : Regex → List Regex
  | alt rs => rs
  | r => [r]

/-- The single character of a text. -/
def char? : Regex → Option (Nat × Nat)
  | text [c] => some (c.toNat, c.toNat)
  | _ => none

def set? : Regex → Option CodeSet
  | set s => some s
  | _ => none

/-- A choice between characters, or between sets, is a set. -/
def asSet? (rs : List Regex) : Option CodeSet :=
  ((rs.mapM char?).map .ofRanges).or ((rs.mapM set?).map .unions)

/-- A choice whose alternatives have no common front. -/
def choiceOf (rs : List Regex) : Regex :=
  match rs.flatMap alternatives with
  | [] => set .empty
  | [r] => r
  | rs =>
    match asSet? rs with
    | some s => ofSet s
    | none => alt rs

def seq? : Regex → Option (List Regex)
  | seq rs => some rs
  | _ => none

/-- What two lists have in common at the front. -/
def commonFront : List Regex → List Regex → List Regex
  | r :: rs, s :: ss => if r == s then r :: commonFront rs ss else []
  | _, _ => []

/-- A choice; what all alternatives begin with is taken out in front of it. -/
def choice (rs : List Regex) : Regex :=
  match choiceOf rs with
  | alt rs =>
    match rs.mapM seq? with
    | some (first :: others) =>
      let front := others.foldl commonFront first
      if front.isEmpty then alt rs
      else
        let rests := (first :: others).map fun parts => sequence (parts.drop front.length)
        sequence (front ++ [choiceOf rests])
    | _ => alt rs
  | r => r

/-- A repetition; repeating what takes no text once is enough. -/
def repeated (r : Regex) (min : Nat) (max : Option Nat) : Regex :=
  let isBlank := r.maxLength == some 0
  let min := if isBlank then Nat.min min 1 else min
  let max := if isBlank then some (Nat.min (max.getD 1) 1) else max
  if max = some 0 then empty
  else if min = 1 ∧ max = some 1 then r
  else times r min max

end Regex

end AvroLink
