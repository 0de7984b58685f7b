import AvroLink.Regex.Basic
import AvroLink.Text.Lines
import AvroLink.Text.Split
import AvroLink.Unicode.Folding

/-!
# Escapes

What a backslash stands for in a pattern: a character, a set of them or an anchor. `Flags.escape`
reads one; a text that is no escape gives `none`. The flags say how letters, blanks and sets count.
-/

namespace AvroLink.Regex

open Unicode

structure Flags where
  ignoreCase : Bool := false
  multiLine : Bool := false
  dotAll : Bool := false
  blanks : Bool := false
  crlf : Bool := false
  unicode : Bool := true
  deriving DecidableEq, Repr

mutual

/-- Leave out blanks and comments. -/
def skipBlanks : List Char → List Char
  | [] => []
  | c :: cs =>
    if Text.isSpace c then skipBlanks cs
    else if c = '#' then skipComment cs
    else c :: cs

def skipComment : List Char → List Char
  | [] => []
  | c :: cs => if c = '\n' then skipBlanks cs else skipComment cs

end

namespace Flags

/-- Leave out blanks where they do not count. -/
def skip (f : Flags) (cs : List Char) : List Char := if f.blanks then skipBlanks cs else cs

/-! ## Sets -/

/-- A set with the variants in case that the flags ask for. -/
def cased (f : Flags) (s : CodeSet) : CodeSet :=
  if f.ignoreCase then (if f.unicode then s.anyCase else s.anyCaseAscii) else s

/-- The complement of a set; without Unicode it would take in parts of characters. -/
def negate? (f : Flags) (s : CodeSet) : Option CodeSet := if f.unicode then some s.compl else none

def signed? (f : Flags) (negated : Bool) (s : CodeSet) : Option CodeSet :=
  if negated then f.negate? s else some s

/-- The set of a letter such as `d` behind a backslash; an upper case letter negates. -/
def shorthand? (f : Flags) (c : Char) : Option CodeSet :=
  let base : Option CodeSet := match c.toLower with
    | 'd' => some (if f.unicode then decimalNumbers else .ofText "30-39")
    | 's' => some (if f.unicode then whiteSpace else .ofText "9-D 20")
    | 'w' => some (if f.unicode then wordChars else .ofText "30-39 41-5A 5F 61-7A")
    | _ => none
  base.bind (f.signed? c.isUpper)

/-- A name up to a closing brace. -/
def braced (f : Flags) : Nat → List Char → Option (List Char × List Char)
  | 0, _ => none
  | fuel + 1, cs =>
    match f.skip cs with
    | [] => none
    | '\x7d' :: cs => some ([], cs)
    | c :: cs => (f.braced fuel cs).map fun (name, rest) => (c :: name, rest)

/-- A text cut at the first `!=`. -/
def cutUnequal : List Char → Option (List Char × List Char)
  | [] => none
  | '!' :: '=' :: cs => some ([], cs)
  | c :: cs => (cutUnequal cs).map fun (a, b) => (c :: a, b)

/-- The set of a name, or of a property and a value; also whether an unequal sign negates it. -/
def query? (name : List Char) : Option (CodeSet × Bool) :=
  match cutUnequal name with
  | some (property, value) => (valued? property value).map (·, true)
  | none =>
    match (Text.cutFirst ':' name).or (Text.cutFirst '=' name) with
    | some (property, value) => (valued? property value).map (·, false)
    | none => (named? name).map (·, false)

/-- A property of characters, behind `\p`: one letter, or a name in braces. -/
def property (f : Flags) (negated : Bool) (cs : List Char) : Option (CodeSet × List Char) := do
  let (name, rest) ←
    match f.skip cs with
    | [] => none
    | '\x7b' :: cs => f.braced (cs.length + 1) cs
    | '\\' :: _ => none
    | c :: cs => some ([c], cs)
  let (s, unequal) ← query? name
  if !f.unicode then none
  some (← f.signed? (negated != unequal) (f.cased s), rest)

end Flags

/-! ## Numbers -/

def hexValue? (c : Char) : Option Nat :=
  if '0' ≤ c ∧ c ≤ '9' then some (c.toNat - 48)
  else if 'a' ≤ c ∧ c ≤ 'f' then some (c.toNat - 87)
  else if 'A' ≤ c ∧ c ≤ 'F' then some (c.toNat - 55)
  else none

def charOfHex? (digits : List Nat) : Option Char :=
  let n := digits.foldl (fun n d => 16 * n + d) 0
  if h : n.isValidChar then some (Char.ofNatAux n h) else none

/-- One character of a pattern, or what an escape stands for. -/
inductive Atom where
  | char (c : Char)
  | set (s : CodeSet)
  | anchor (a : Anchor)

namespace Flags

/-- Exactly `n` hexadecimal digits, with blanks behind each. -/
def hexDigits (f : Flags) : Nat → List Char → Option (List Nat × List Char)
  | 0, cs => some ([], cs)
  | _ + 1, [] => none
  | n + 1, c :: cs => do
    let d ← hexValue? c
    let (ds, rest) ← f.hexDigits n (f.skip cs)
    some (d :: ds, rest)

/-- Hexadecimal digits up to a closing brace; `fuel` bounds their number. -/
def hexBraced (f : Flags) : Nat → List Char → Option (List Nat × List Char)
  | 0, _ => none
  | fuel + 1, cs =>
    match f.skip cs with
    | [] => none
    | '\x7d' :: cs => some ([], f.skip cs)
    | c :: cs => do
      let d ← hexValue? c
      let (ds, rest) ← f.hexBraced fuel cs
      some (d :: ds, rest)

/-- The number behind `\x`, `\u` or `\U`, of `n` digits or in braces. -/
def hexEscape (f : Flags) (n : Nat) (cs : List Char) : Option (Atom × List Char) :=
  match f.skip cs with
  | '\x7b' :: cs => do
    let (ds, rest) ← f.hexBraced (cs.length + 1) cs
    if ds.isEmpty then none
    let c ← charOfHex? ds
    some (.char c, rest)
  | cs => do
    let (ds, rest) ← f.hexDigits n cs
    let c ← charOfHex? ds
    if !f.unicode && n == 2 && 0x7f < c.toNat then none
    some (.char c, rest)

/-! ## Word boundaries -/

/-- The letters and hyphens between braces, with blanks behind each. -/
def boundaryName (f : Flags) : Nat → List Char → List Char × List Char
  | 0, cs => ([], cs)
  | _, [] => ([], [])
  | fuel + 1, c :: cs =>
    if c.isAlpha || c == '-' then
      let (name, rest) := f.boundaryName fuel (f.skip cs)
      (c :: name, rest)
    else ([], c :: cs)

/-- A word boundary, behind `\b`; braces may say which side of a word. -/
def boundary (f : Flags) (cs : List Char) : Option (Atom × List Char) :=
  match cs with
  | '\x7b' :: inner =>
    match f.skip inner with
    | [] => none
    | c :: inner =>
      if c.isAlpha || c == '-' then
        match f.boundaryName (inner.length + 1) (c :: inner) with
        | (name, '\x7d' :: rest) =>
          match String.ofList name with
          | "start" => some (.anchor (.wordStart f.unicode), rest)
          | "end" => some (.anchor (.wordEnd f.unicode), rest)
          | "start-half" => some (.anchor (.notAfterWord f.unicode), rest)
          | "end-half" => some (.anchor (.notBeforeWord f.unicode), rest)
          | _ => none
        | _ => none
      else some (.anchor (.wordEdge f.unicode), cs)
  | cs => some (.anchor (.wordEdge f.unicode), cs)

end Flags

/-! ## Escapes -/

/-- Characters with a meaning of their own. -/
def isMeta (c : Char) : Bool :=
  c ∈ ['\\', '.', '+', '*', '?', '(', ')', '|', '[', ']', '\x7b', '\x7d', '^', '$', '#', '&', '-',
    '~']

/-- Characters that a backslash makes stand for themselves. -/
def isEscapable (c : Char) : Bool :=
  isMeta c || (c.toNat < 128 && !c.isAlphanum && c != '<' && c != '>')

/-- What a backslash in front of `cs` stands for. -/
def Flags.escape (f : Flags) (cs : List Char) : Option (Atom × List Char) :=
  match cs with
  | [] => none
  | c :: cs =>
    if isEscapable c then some (.char c, cs)
    else
      match c with
      | 'x' => f.hexEscape 2 cs
      | 'u' => f.hexEscape 4 cs
      | 'U' => f.hexEscape 8 cs
      | 'p' => (f.property false cs).map fun (s, rest) => (.set s, rest)
      | 'P' => (f.property true cs).map fun (s, rest) => (.set s, rest)
      | 'a' => some (.char '\x07', cs)
      | 'f' => some (.char '\x0c', cs)
      | 't' => some (.char '\t', cs)
      | 'n' => some (.char '\n', cs)
      | 'r' => some (.char '\r', cs)
      | 'v' => some (.char '\x0b', cs)
      | 'A' => some (.anchor .textStart, cs)
      | 'z' => some (.anchor .textEnd, cs)
      | 'b' => f.boundary cs
      | 'B' => some (.anchor (.noWordEdge f.unicode), cs)
      | '<' => some (.anchor (.wordStart f.unicode), cs)
      | '>' => some (.anchor (.wordEnd f.unicode), cs)
      | c => (f.shorthand? c).map fun s => (.set s, cs)

end AvroLink.Regex
