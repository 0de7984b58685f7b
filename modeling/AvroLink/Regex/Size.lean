import AvroLink.Regex.Basic
import Std.Data.HashMap

/-!
# The size of an expression

An expression is refused when a machine for it, reading bytes, would take too much memory: forwards
with the borders of groups, or backwards without them. A state takes 32 bytes, a byte range in a
state with several of them 8, and each way out of a fork 4. `fits` adds this up state by state and
stops at the limit; no machine is made.
-/

namespace AvroLink.Regex

open Unicode

/-- What a machine takes so far. -/
structure Usage where
  states : Nat
  /-- Bytes besides those of the states. -/
  extra : Nat
  deriving DecidableEq, Repr

/-- Memory that a machine may take, in bytes. -/
def memoryLimit : Nat := 10 * 1024 * 1024

/-- Take more, if the limit allows it. -/
def Usage.take? (u : Usage) (states extra : Nat) : Option Usage :=
  let u := ⟨u.states + states, u.extra + extra⟩
  if 32 * u.states + u.extra ≤ memoryLimit then some u else none

/-! ## Byte sequences of a range -/

/-- Bytes between bounds. -/
abbrev ByteRange := Nat × Nat

/-- The byte sequences of `k` bytes behind a first one for the values from `lo` to `hi`; the first
byte is `lead` and the upper part of the value. -/
def byteSequences : Nat → Nat → Nat → Nat → List (List ByteRange)
  | 0, lead, lo, hi => [[(lead + lo, lead + hi)]]
  | k + 1, lead, lo, hi =>
    let m := 64 ^ (k + 1)
    let (a, b) := (lo / m, hi / m)
    let under (a b lo hi : Nat) := (byteSequences k 0x80 lo hi).map ((lead + a, lead + b) :: ·)
    if a = b then under a a (lo % m) (hi % m)
    else
      let (first, a) := if lo % m = 0 then ([], a) else (under a a (lo % m) (m - 1), a + 1)
      let (last, b) := if hi % m = m - 1 then ([], b + 1) else (under b b 0 (hi % m), b)
      first ++ (if a < b then under a (b - 1) 0 (m - 1) else []) ++ last

/-- The code points with one to four bytes: bounds, bytes behind the first, the first byte. -/
def byteForms : List (Nat × Nat × Nat × Nat) :=
  [(0, 0x7F, 0, 0), (0x80, 0x7FF, 1, 0xC0), (0x800, 0xFFFF, 2, 0xE0), (0x10000, 0x10FFFF, 3, 0xF0)]

def sequencesOfRange (r : Nat × Nat) : List (List ByteRange) :=
  byteForms.flatMap fun (lo, hi, k, lead) =>
    let (lo, hi) := (Nat.max lo r.1, Nat.min hi r.2)
    if lo ≤ hi then byteSequences k lead lo hi else []

/-! ## Sets

The ways through a set are shared as far as a table remembers them; an entry gives way to a later
one with the same hash.
-/

/-- A hash over numbers below `slots`. -/
def slot (slots : Nat) (key : List Nat) : Nat :=
  let h := key.foldl (fun (h : UInt64) n => (h ^^^ n.toUInt64) * 1099511628211) 14695981039346656037
  h.toNat % slots

/-- States by hash, with the keys they were entered by. -/
abbrev Shared := Std.HashMap Nat (List Nat × Nat)

def Shared.get? (t : Shared) (slots : Nat) (key : List Nat) : Option Nat :=
  match Std.HashMap.get? t (slot slots key) with
  | some (k, id) => if k = key then some id else none
  | none => none

def Shared.put (t : Shared) (slots : Nat) (key : List Nat) (id : Nat) : Shared :=
  Std.HashMap.insert t (slot slots key) (key, id)

/-- Backwards: a chain of states for every sequence, which shares its end with others. -/
def chain (ranges : List ByteRange) (last states : Nat) (shared : Shared) : Nat × Nat × Shared :=
  ranges.foldl (fun (last, states, shared) (lo, hi) =>
    match shared.get? 1000 [last, lo, hi] with
    | some id => (id, states, shared)
    | none => (states, states + 1, shared.put 1000 [last, lo, hi] states)) (last, states, shared)

/-- A set backwards: a fork to the chains of all sequences. -/
def chains (sequences : List (List ByteRange)) (u : Usage) : Option Usage :=
  let last := u.states + 1
  let (states, _) := sequences.foldl (fun (states, shared) ranges =>
    (chain ranges last states shared).2) (u.states + 2, (∅ : Shared))
  u.take? (states - u.states) (4 * sequences.length)

/-- Neighbours with the same first item, without it. -/
def sameFirst {α : Type} [DecidableEq α] : List (List α) → List (α × List (List α))
  | [] => []
  | [] :: lists => sameFirst lists
  | (a :: list) :: lists =>
    match sameFirst lists with
    | (b, tails) :: groups =>
      if a = b then (b, list :: tails) :: groups else (a, [list]) :: (b, tails) :: groups
    | [] => [(a, [list])]

structure Tree where
  usage : Usage
  shared : Shared

/-- The state for a tree of sequences with at most `depth` ranges; what leads out of it is the key
by which it is shared. -/
def treeState (last : Nat) : Nat → List (List ByteRange) → Tree → Nat × Tree
  | 0, _, t => (last, t)
  | depth + 1, sequences, t =>
    if sequences.all List.isEmpty then (last, t)
    else
      let (ways, t) := (sameFirst sequences).foldl (fun (ways, t) ((lo, hi), tails) =>
        let (id, t) := treeState last depth tails t
        (ways ++ [lo, hi, id], t)) (([] : List Nat), t)
      match t.shared.get? 10000 ways with
      | some id => (id, t)
      | none =>
        let id := t.usage.states
        (id, ⟨⟨id + 1, t.usage.extra + 8 * (ways.length / 3)⟩, t.shared.put 10000 ways id⟩)

/-- A set forwards: a tree with shared branches. -/
def branches (sequences : List (List ByteRange)) (u : Usage) : Option Usage :=
  let (_, t) := treeState u.states 5 sequences ⟨⟨u.states + 1, u.extra⟩, (∅ : Shared)⟩
  t.usage.take? 0 0

def measureSet (backward : Bool) (s : CodeSet) (u : Usage) : Option Usage :=
  if s.ranges.all fun r => r.2 < 0x80 then u.take? 2 (8 * s.ranges.size)
  else
    let sequences := s.toList.flatMap sequencesOfRange
    if backward then chains sequences u else branches sequences u

/-! ## Choices between texts

Texts to choose from make a tree of bytes. A node of it forks to the places where texts end and,
between these, to the texts that go on.
-/

def bytes (cs : List Char) : List Nat := (String.ofList cs).toUTF8.toList.map UInt8.toNat

/-- The runs of texts that go on, cut where a text ends. -/
def runs : List (List Nat) → List (List (List Nat))
  | [] => [[]]
  | [] :: texts => [] :: runs texts
  | (b :: bs) :: texts =>
    match runs texts with
    | [] => [[b :: bs]]
    | run :: rest => ((b :: bs) :: run) :: rest

/-- Texts that end before any goes on count as one. -/
def endOnce : List (List Nat) → List (List Nat)
  | [] :: [] :: texts => endOnce ([] :: texts)
  | texts => texts

/-- What a tree of texts shorter than `depth` takes. -/
def measureTree : Nat → List (List Nat) → Usage
  | 0, _ => ⟨0, 0⟩
  | depth + 1, texts =>
    if texts.all List.isEmpty then ⟨0, 0⟩
    else
      let runs := runs (endOnce texts)
      let going := runs.filter fun run => !run.isEmpty
      let fork : Usage := ⟨1, 4 * (runs.length - 1 + going.length)⟩
      going.foldl (fun u run =>
        let groups := sameFirst (run.mergeSort fun a b => a.headD 0 ≤ b.headD 0)
        let ways := if groups.length = 1 then 0 else 8 * groups.length
        groups.foldl (fun u (_, tails) =>
          let v := measureTree depth tails
          ⟨u.states + v.states, u.extra + v.extra⟩) ⟨u.states + 1, u.extra + ways⟩) fork

def text? : Regex → Option (List Nat)
  | .text cs => some (bytes cs)
  | _ => none

/-! ## Expressions -/

/-- Do a step `n` times. -/
def measureCopies (step : Usage → Option Usage) : Nat → Usage → Option Usage
  | 0, u => some u
  | n + 1, u =>
    match step u with
    | some u => measureCopies step n u
    | none => none

mutual

def measure (backward : Bool) : Regex → Usage → Option Usage
  | .empty, u => u.take? 1 0
  | .text cs, u => u.take? (byteLength cs) 0
  | .set s, u => measureSet backward s u
  | .anchor _, u => u.take? 1 0
  | .group _ r, u =>
    if backward then measure backward r u
    else do (← measure backward r (← u.take? 1 0)).take? 1 0
  | .seq rs, u => if backward then measureBack rs u else measureAll rs u
  | .alt rs, u =>
    match rs.mapM text? with
    | some texts =>
      let texts := if backward then texts.map List.reverse else texts
      let tree := measureTree (texts.foldl (fun n t => Nat.max n t.length) 0 + 1) texts
      u.take? (tree.states + 1) tree.extra
    | none => measureAlt backward rs.length 1 rs u
  | .times r min max, u =>
    let copy := measure backward r
    match max with
    | none =>
      if min = 0 then
        if r.minLength.any (0 < ·) then do copy (← u.take? 1 8)
        else do (← copy u).take? 3 16
      else do (← measureCopies copy min u).take? 1 8
    | some max =>
      if min = 0 ∧ max = 1 then do (← copy (← u.take? 1 8)).take? 1 0
      else if min = max then measureCopies copy min u
      else do
        let u ← if min = 0 then u.take? 1 0 else measureCopies copy min u
        measureCopies (fun u => do copy (← u.take? 1 8)) (max - min) (← u.take? 1 0)

def measureAll : List Regex → Usage → Option Usage
  | [], u => some u
  | r :: rs, u => do measureAll rs (← measure false r u)

/-- Backwards, the last part comes first. -/
def measureBack : List Regex → Usage → Option Usage
  | [], u => some u
  | r :: rs, u => do measure true r (← measureBack rs u)

/-- Alternatives; the fork between all `n` of them is made behind the second. -/
def measureAlt (backward : Bool) (n k : Nat) : List Regex → Usage → Option Usage
  | [], u => some u
  | r :: rs, u => do
    let u ← measure backward r u
    let u ← if k = 2 then u.take? 2 (4 * n) else some u
    measureAlt backward n (k + 1) rs u

end

mutual

/-- Whether every match lies at an end of the text: at the start, or backwards at the end. -/
def isFixed (backward : Bool) : Regex → Bool
  | .anchor a => a == if backward then .textEnd else .textStart
  | .group _ r => isFixed backward r
  | .seq rs => if backward then (isFixedLast rs).1 else isFixedFirst rs
  | .alt rs => isFixedAll backward rs
  | .times r min _ => 0 < min && isFixed backward r
  | _ => false

/-- Only parts in front of any text count. -/
def isFixedFirst : List Regex → Bool
  | [] => false
  | r :: rs => isFixed false r || (r.maxLength == some 0 && isFixedFirst rs)

/-- Only parts behind any text count; also whether no part takes any. -/
def isFixedLast : List Regex → Bool × Bool
  | [] => (false, true)
  | r :: rs =>
    let (fixed, blank) := isFixedLast rs
    (fixed || (blank && isFixed true r), blank && r.maxLength == some 0)

def isFixedAll (backward : Bool) : List Regex → Bool
  | [] => true
  | r :: rs => isFixed backward r && isFixedAll backward rs

end

/-- A whole machine; unless matches are fixed to an end, it begins by skipping some bytes. -/
def measureMachine (backward : Bool) (r : Regex) : Option Usage := do
  let u ← if isFixed backward r then Usage.take? ⟨0, 0⟩ 1 0 else Usage.take? ⟨0, 0⟩ 3 16
  let u ← if backward then some u else u.take? 1 0
  let u ← measure backward r u
  u.take? (if backward then 1 else 2) 0

def fits (r : Regex) : Bool :=
  (measureMachine false r).isSome && (measureMachine true r).isSome

end AvroLink.Regex
