import AvroLink.Regex.Bracket
import AvroLink.Regex.Size

/-!
# Reading regular expressions

The usual syntax: alternatives, groups with or without a name, flags, repetitions, anchors, escapes
and bracketed sets. There are no references to groups and no conditions on what lies ahead or
behind. One pass keeps the open groups on a stack; a text that is no regular expression, is nested
too deep or makes too large a machine gives `none`.
-/

namespace AvroLink.Regex

open Unicode

/-! ## Groups and repetitions -/

/-- A part of a pattern. -/
structure Part where
  value : Regex
  /-- How deep it is nested: groups, repetitions, sequences and choices are levels. -/
  depth : Nat
  /-- Neither nothing nor a change of flags. -/
  repeatable : Bool := true

/-- Parts side by side are a level deeper than one alone. -/
def joinedDepth (parts : List Part) : Nat :=
  let depth := parts.foldl (fun n part => Nat.max n part.depth) 0
  if 2 ≤ parts.length then depth + 1 else depth

/-- A group that is being read: finished alternatives and the parts of the last one, both
backwards. -/
structure OpenGroup where
  /-- The number of a group that remembers what it matched. -/
  index : Option Nat
  alternatives : List Part
  parts : List Part
  /-- Flags that hold again behind the group. -/
  outerFlags : Flags

namespace OpenGroup

def last (g : OpenGroup) : Part :=
  ⟨sequence (g.parts.reverse.map (·.value)), joinedDepth g.parts, true⟩

/-- All that was read. -/
def value (g : OpenGroup) : Part :=
  let all := g.last :: g.alternatives
  if g.alternatives.isEmpty then g.last
  else ⟨choice (all.reverse.map (·.value)), joinedDepth all, true⟩

def add (g : OpenGroup) (part : Part) : OpenGroup := { g with parts := part :: g.parts }

/-- Finish the last alternative and start another. -/
def branch (g : OpenGroup) : OpenGroup :=
  { g with alternatives := g.last :: g.alternatives, parts := [] }

/-- Repeat the last part; there must be one, and it is not a change of flags. -/
def repeat? (g : OpenGroup) (min : Nat) (max : Option Nat) : Option OpenGroup :=
  match g.parts with
  | part :: parts =>
    if part.repeatable then
      some { g with parts := ⟨repeated part.value min max, part.depth + 1, true⟩ :: parts }
    else none
  | [] => none

/-- The finished group as a part of the one around it. -/
def close (g : OpenGroup) : Part :=
  let inner := g.value
  ⟨match g.index with
    | some index => group index inner.value
    | none => inner.value, inner.depth + 1, true⟩

end OpenGroup

structure State where
  flags : Flags
  names : List (List Char)
  /-- How many groups remember what they matched. -/
  count : Nat
  group : OpenGroup
  outer : List OpenGroup

def Flags.set? (f : Flags) (on : Bool) : Char → Option Flags
  | 'i' => some { f with ignoreCase := on }
  | 'm' => some { f with multiLine := on }
  | 's' => some { f with dotAll := on }
  | 'x' => some { f with blanks := on }
  | 'R' => some { f with crlf := on }
  | 'u' => some { f with unicode := on }
  | 'U' => some f
  | _ => none

/-- Flags up to a colon or a closing parenthesis; no letter comes twice, and a hyphen, which
switches off what follows, is not the last. Also whether there were any. -/
def Flags.change (f : Flags) (seen : List Char) : List Char → Option (Flags × Bool × List Char)
  | [] => none
  | c :: cs =>
    if c = ':' ∨ c = ')' then
      if seen.head? = some '-' then none else some (f, !seen.isEmpty, c :: cs)
    else if c ∈ seen then none
    else if c = '-' then f.change (c :: seen) cs
    else
      match f.set? (!seen.contains '-') c with
      | some f => f.change (c :: seen) cs
      | none => none

def isNameStart (c : Char) : Bool := c == '_' || alphabetic.mem c

def isNameChar (c : Char) : Bool := c ∈ ['_', '.', '[', ']'] || alphanumeric.mem c

namespace State

def add (st : State) (r : Regex) (depth : Nat) : State :=
  { st with group := st.group.add ⟨r, depth, true⟩ }

/-- Open a group that only holds together; its inside has the flags `f`. -/
def openPlain (st : State) (f : Flags) : State :=
  { st with flags := f, group := ⟨none, [], [], st.flags⟩, outer := st.group :: st.outer }

/-- Open a group that remembers what it matched. -/
def openGroup (st : State) : State :=
  { st with
    count := st.count + 1, group := ⟨some st.count, [], [], st.flags⟩,
    outer := st.group :: st.outer }

def closeGroup? (st : State) : Option State :=
  match st.outer with
  | [] => none
  | g :: outer =>
    some { st with flags := st.group.outerFlags, group := g.add st.group.close, outer := outer }

/-- Open a group with a name, behind the angle bracket. -/
def namedGroup (st : State) (cs : List Char) : Option (State × List Char) :=
  let name := cs.takeWhile (· ≠ '>')
  match name, cs.dropWhile (· ≠ '>') with
  | c :: more, _ :: rest =>
    if isNameStart c && more.all isNameChar && !st.names.contains name then
      some ({ st.openGroup with names := name :: st.names }, rest)
    else none
  | _, _ => none

/-- What follows an opening parenthesis. -/
def group? (st : State) (cs : List Char) : Option (State × List Char) :=
  match st.flags.skip cs with
  | '?' :: '=' :: _ => none
  | '?' :: '!' :: _ => none
  | '?' :: '<' :: '=' :: _ => none
  | '?' :: '<' :: '!' :: _ => none
  | '?' :: 'P' :: '<' :: cs => st.namedGroup cs
  | '?' :: '<' :: cs => st.namedGroup cs
  | '?' :: cs =>
    match st.flags.change [] cs with
    | some (f, _, ':' :: rest) => some (st.openPlain f, rest)
    | some (f, true, _ :: rest) =>
      some ({ st with flags := f, group := st.group.add ⟨.empty, 0, false⟩ }, rest)
    | _ => none
  | cs => some (st.openGroup, cs)

def repeat? (st : State) (min : Nat) (max : Option Nat) : Option State :=
  (st.group.repeat? min max).map fun g => { st with group := g }

end State

/-- Leave out a question mark that asks for short matches. -/
def dropLazy : List Char → List Char
  | '?' :: cs => cs
  | cs => cs

/-- Digits, with blanks between them where those do not count. -/
def Flags.digits (f : Flags) : Nat → List Char → List Nat × List Char
  | 0, cs => ([], cs)
  | _, [] => ([], [])
  | fuel + 1, c :: cs =>
    if c.isDigit then
      let (ds, rest) := f.digits fuel (f.skip cs)
      ((c.toNat - 48) :: ds, rest)
    else ([], c :: cs)

/-- A number below 2 ^ 32 with blanks around it. -/
def Flags.count (f : Flags) (cs : List Char) : Option (Nat × List Char) :=
  let cs := cs.dropWhile Text.isSpace
  let (ds, rest) := f.digits cs.length cs
  let n := ds.foldl (fun n d => 10 * n + d) 0
  if ds.isEmpty || UInt32.size ≤ n then none else some (n, f.skip (rest.dropWhile Text.isSpace))

/-- A repetition count, behind its brace. -/
def State.counted? (st : State) (cs : List Char) : Option (State × List Char) := do
  let f := st.flags
  let (min, rest) ← f.count (f.skip cs)
  match rest with
  | '\x7d' :: rest => some (← st.repeat? min (some min), dropLazy (f.skip rest))
  | ',' :: rest =>
    match f.skip rest with
    | '\x7d' :: rest => some (← st.repeat? min none, dropLazy (f.skip rest))
    | rest =>
      let (max, rest) ← f.count rest
      match rest with
      | '\x7d' :: rest =>
        if max < min then none else some (← st.repeat? min (some max), dropLazy (f.skip rest))
      | _ => none
  | _ => none

/-! ## Parts -/

def Flags.dot? (f : Flags) : Option CodeSet :=
  if !f.unicode then none
  else if f.dotAll then some .all
  else if f.crlf then some (CodeSet.compl (.ofText "A D"))
  else some (CodeSet.compl (.ofText "A"))

def Flags.atom (f : Flags) : Atom → Regex
  | .char c =>
    let variants := f.cased (.single c.toNat)
    if variants = .single c.toNat then text [c] else ofSet variants
  | .set s => ofSet s
  | .anchor a => anchor a

/-- Read one part of a pattern. -/
def State.step (st : State) (cs : List Char) : Option (State × List Char) :=
  let f := st.flags
  match cs with
  | [] => none
  | '(' :: cs => st.group? cs
  | ')' :: cs => st.closeGroup?.map (·, cs)
  | '|' :: cs => some ({ st with group := st.group.branch }, cs)
  | '[' :: cs => do
    let (s, rest) ← f.bracket cs
    some (st.add (ofSet s.set) s.depth, rest)
  | '?' :: cs => (st.repeat? 0 (some 1)).map (·, dropLazy cs)
  | '*' :: cs => (st.repeat? 0 none).map (·, dropLazy cs)
  | '+' :: cs => (st.repeat? 1 none).map (·, dropLazy cs)
  | '\x7b' :: cs => st.counted? cs
  | '\\' :: cs => do
    let (a, rest) ← f.escape cs
    some (st.add (f.atom a) 0, rest)
  | '.' :: cs => f.dot?.map fun s => (st.add (ofSet s) 0, cs)
  | '^' :: cs =>
    some (st.add (.anchor (if f.multiLine then .lineStart f.crlf else .textStart)) 0, cs)
  | '$' :: cs =>
    some (st.add (.anchor (if f.multiLine then .lineEnd f.crlf else .textEnd)) 0, cs)
  | c :: cs => some (st.add (f.atom (.char c)) 0, cs)

/-- Patterns may be nested this deep. -/
def maxDepth : Nat := 250

/-- Read part after part; every round takes a character. -/
def State.run (st : State) (cs : List Char) : Option Part :=
  match st.flags.skip cs with
  | [] => if st.outer.isEmpty then some st.group.value else none
  | rest =>
    match st.step rest with
    | none => none
    | some (st, rest) => if _h : rest.length < cs.length then st.run rest else none
termination_by cs.length

def parse? (pattern : String) : Option Regex := do
  let start : Flags := {}
  let whole ← State.run ⟨start, [], 0, ⟨none, [], [], start⟩, []⟩ pattern.toList
  if whole.depth ≤ maxDepth && whole.value.fits then some whole.value else none

end AvroLink.Regex
