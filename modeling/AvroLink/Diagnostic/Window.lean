import AvroLink.Text.Width

/-!
# Columns that are shown

A snippet shows at most `room` columns of a line. Deep indentation is cut off, and of lines that
are too long the part around the range is kept. Three dots stand where something is cut.
-/

namespace AvroLink.Diagnostic

open Text

structure Window where
  left : Nat
  right : Nat
  /-- How many columns there are. -/
  room : Nat
  deriving DecidableEq, Repr

namespace Window

/-- A window of `room` columns that keeps `size` columns from `start` on, with the share `part` of
what is left over in front of them. -/
def around (room start size : Nat) (part : Nat → Nat) : Window :=
  let left := start - part (room - size)
  ⟨left, left + room, room⟩

/-- The window for lines of up to `longest` columns with an indentation of at least `indent`,
for a range from `start` to `stop` whose label ends at `labelStop`. Nothing of the range is cut
off with the indentation. -/
def fit (indent start stop labelStop longest room : Nat) : Window :=
  let indent := min indent start - 6
  let start := start - 6
  let stop := stop + 6
  let labelStop := labelStop + 6
  let left := if 20 < indent then indent - 16 else 0
  if longest - left ≤ room then ⟨left, max longest left, room⟩
  else if labelStop - indent ≤ room then ⟨indent, indent + room, room⟩
  else if labelStop - start ≤ room then around room start (labelStop - start) (· / 2)
  else if stop - start ≤ room then around room start (stop - start) (· / 5 * 2)
  else ⟨start, stop, room⟩

/-- Characters behind the first `n` columns, and how many columns lie before them. -/
def dropColumns (n : Nat) : List Char → Nat × List Char
  | [] => (0, [])
  | c :: cs =>
    if n = 0 then (0, c :: cs)
    else
      let (skipped, rest) := dropColumns (n - charWidth c) cs
      (skipped + charWidth c, rest)

/-- Characters in the first `n` columns. -/
def takeColumns (n : Nat) : List Char → List Char
  | [] => []
  | c :: cs => if charWidth c ≤ n then c :: takeColumns (n - charWidth c) cs else []

end Window

/-- What is shown of a line. -/
structure Excerpt where
  /-- Columns that are cut off in front. -/
  offset : Nat
  cutLeft : Bool
  text : List Char
  cutRight : Bool
  deriving DecidableEq, Repr

/-- The part of a line in a window, without the characters that the dots replace. -/
def Window.excerpt (w : Window) (line : List Char) : Excerpt :=
  let total := width line
  let left := min w.left total
  let right := if total - w.left ≤ w.room then total else min total w.right
  let (offset, rest) := dropColumns left line
  let kept := takeColumns (right - left) rest
  let cutLeft := decide (0 < w.left)
  let text := if cutLeft then (dropColumns 3 kept).2 else kept
  let cutRight := decide (right < total)
  let text := if cutRight then (dropColumns 3 text.reverse).2.reverse else text
  ⟨offset, cutLeft, text, cutRight⟩

end AvroLink.Diagnostic
