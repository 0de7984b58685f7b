import AvroLink.Text.Position

/-!
# Ranges that can be shown

A span is cut to the text and its ends are moved down to character boundaries.
An empty range is widened to the character after it, or at the end of the text to
the one before it.
-/

namespace AvroLink.Diagnostic

open Text

/-- Length in bytes of the last character. -/
def lastSize : List Char → Nat
  | [] => 0
  | [c] => c.utf8Size
  | _ :: cs => lastSize cs

/-- The range of `source` to show for a span. -/
def adjustRange (s : Span) (source : List Char) : Span :=
  let start := floorBoundary source s.start
  let stop := max (floorBoundary source s.stop) start
  if start ≠ stop then ⟨start, stop⟩
  else
    match dropBytes source start with
    | c :: _ => ⟨start, start + c.utf8Size⟩
    | [] => ⟨start - lastSize source, start⟩

end AvroLink.Diagnostic
