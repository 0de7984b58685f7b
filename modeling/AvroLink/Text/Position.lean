/-!
# Places in a text

Offsets count bytes of UTF-8. A position is a line, from 1, and a column, the
number of bytes since the line began. `floorBoundary` is the last start of a
character at or before an offset; `find?` is the offset of the first occurrence
of a text.
-/

namespace AvroLink

/-- A range of byte offsets; nothing is said about the order of its ends. -/
structure Span where
  start : Nat
  stop : Nat
  deriving DecidableEq, Repr

namespace Text

def byteLen : List Char → Nat
  | [] => 0
  | c :: cs => c.utf8Size + byteLen cs

/-- The greatest character boundary that is at most `i`. -/
def floorBoundary : List Char → Nat → Nat
  | [], _ => 0
  | c :: cs, i => if i < c.utf8Size then 0 else c.utf8Size + floorBoundary cs (i - c.utf8Size)

/-- The characters that start at or after the offset `i`. -/
def dropBytes : List Char → Nat → List Char
  | [], _ => []
  | c :: cs, i => if i = 0 then c :: cs else dropBytes cs (i - c.utf8Size)

/-- The characters that start before the offset `i`. -/
def takeBytes : List Char → Nat → List Char
  | [], _ => []
  | c :: cs, i => if i = 0 then [] else c :: takeBytes cs (i - c.utf8Size)

/-- Offset of the first occurrence of `needle`. -/
def find? (needle : List Char) : List Char → Option Nat
  | [] => if needle = [] then some 0 else none
  | c :: cs =>
    if needle.isPrefixOf (c :: cs) then some 0
    else (find? needle cs).map (c.utf8Size + ·)

/-- The first `"text"` in a text, without the quotes. -/
def findQuoted (source : List Char) (text : String) : Option Span :=
  (find? ('"' :: text.toList ++ ['"']) source).map fun i =>
    ⟨i + 1, i + 1 + byteLen text.toList⟩

theorem floorBoundary_le (cs : List Char) (i : Nat) : floorBoundary cs i ≤ i := by
  induction cs generalizing i with
  | nil => simp [floorBoundary]
  | cons c cs ih =>
    simp only [floorBoundary]
    split
    · omega
    · have := ih (i - c.utf8Size)
      omega

theorem floorBoundary_le_byteLen (cs : List Char) (i : Nat) :
    floorBoundary cs i ≤ byteLen cs := by
  induction cs generalizing i with
  | nil => simp [floorBoundary]
  | cons c cs ih =>
    simp only [floorBoundary, byteLen]
    split
    · omega
    · have := ih (i - c.utf8Size)
      omega

end Text

structure Position where
  line : Nat
  column : Nat
  deriving DecidableEq, Repr

namespace Position

/-- Move a position over the first `n` bytes of a text. -/
def advance : List Char → Nat → Position → Position
  | [], n, p => ⟨p.line, p.column + n⟩
  | c :: cs, n, p =>
    if n < c.utf8Size then ⟨p.line, p.column + n⟩
    else advance cs (n - c.utf8Size)
      (if c = '\n' then ⟨p.line + 1, 0⟩ else ⟨p.line, p.column + c.utf8Size⟩)

/-- The position after the first `n` bytes of a text. -/
def ofOffset (cs : List Char) (n : Nat) : Position := advance cs n ⟨1, 0⟩

/-- Offset at which the line after `n` line ends begins, or the length of the text. -/
def lineStart : List Char → Nat → Nat
  | _, 0 => 0
  | [], _ + 1 => 0
  | c :: cs, n + 1 => c.utf8Size + lineStart cs (if c = '\n' then n else n + 1)

/-- The offset of the last byte before a position, kept inside the text. -/
def offset (cs : List Char) (p : Position) : Nat :=
  min (lineStart cs (p.line - 1) + (p.column - 1)) (Text.byteLen cs)

def render (p : Position) : String := s!"line {p.line} column {p.column}"

end Position

end AvroLink
