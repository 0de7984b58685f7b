import AvroLink.Diagnostic.Canvas
import AvroLink.Diagnostic.Window
import AvroLink.Text.Lines
import AvroLink.Text.Position
import AvroLink.Text.Split
import AvroLink.Text.Width

/-!
# Annotated lines of a text

A snippet shows the lines that a range touches, with carets under the range and a
label behind them. A range inside one line is underlined; a range over several
lines is joined by a bar in front of the lines, from the column where it starts to
the column of its last character. Of a long range only the first lines and the
end are shown, and of long lines only the columns of a window.
-/

namespace AvroLink.Diagnostic

open Text

/-! ## Lines of a source -/

structure SourceLine where
  number : Nat
  text : List Char
  start : Nat
  /-- Offset behind the end of the line. -/
  stop : Nat

/-- The lines after `n - 1` others that begin at the offset `start`; `acc` holds the characters
of the line so far, last first. -/
def sourceLinesFrom (n start : Nat) (acc : List Char) : List Char → List SourceLine
  | [] =>
    if acc.isEmpty then [] else [⟨n, acc.reverse, start, start + byteLen acc⟩]
  | c :: cs =>
    if c = '\n' then
      let stop := start + byteLen acc + 1
      let text :=
        match acc with
        | '\r' :: t => t.reverse
        | t => t.reverse
      ⟨n, text, start, stop⟩ :: sourceLinesFrom (n + 1) stop [] cs
    else sourceLinesFrom n start (c :: acc) cs

/-- The lines of a text; an empty text has one empty line. -/
def sourceLines (cs : List Char) : List SourceLine :=
  match cs with
  | [] => [⟨1, [], 0, 0⟩]
  | cs => sourceLinesFrom 1 0 [] cs

/-- The line that holds an offset, or else the last one. -/
def lineAt : List SourceLine → Nat → SourceLine
  | [], _ => ⟨1, [], 0, 0⟩
  | [l], _ => l
  | l :: ls, i => if l.start ≤ i ∧ i < l.stop then l else lineAt ls i

def lineNumbered? (lines : List SourceLine) (n : Nat) : Option SourceLine :=
  lines.find? fun l => l.number = n

/-- A place in a line, counted in characters and in columns. -/
structure Spot where
  line : SourceLine
  char : Nat
  column : Nat

def spotOf (line : SourceLine) (i : Nat) : Spot :=
  let before := takeBytes line.text (i - line.start)
  ⟨line, before.length, width before⟩

def startSpot (lines : List SourceLine) (i : Nat) : Spot :=
  let s := spotOf (lineAt lines i) i
  if byteLen s.line.text < i - s.line.start then { s with char := s.char + 1 } else s

/-- Where a range ends; one that goes on to the end of a later line includes the line end. -/
def stopSpot (lines : List SourceLine) (start : Spot) (i : Nat) : Spot :=
  let s := spotOf (lineAt lines i) i
  if s.line.number ≠ start.line.number ∧ s.line.start + byteLen s.line.text < i then
    { s with char := s.char + 1, column := s.column + 1 }
  else s

/-! ## Rows -/

/-- Characters that are not shown as they are. -/
def shownChar (c : Char) : List Char :=
  if c = '\t' then [' ', ' ', ' ', ' ']
  else if c = '\n' then [c]
  else if c.toNat < 0x20 then [Char.ofNat (0x2400 + c.toNat)]
  else if c.toNat = 0x7f then ['\u2421']
  else if c.toNat = 0x200d then []
  else if (0x202a ≤ c.toNat ∧ c.toNat ≤ 0x202e) ∨ (0x2066 ≤ c.toNat ∧ c.toNat ≤ 0x2069) then
    ['\ufffd']
  else [c]

def shown (cs : List Char) : List Char := cs.flatMap shownChar

/-- Where things stand in the rows of a snippet. -/
structure Layout where
  /-- Digits of a line number. -/
  digits : Nat
  /-- Whether there is a column for a bar in front of the lines. -/
  bar : Bool
  window : Window

namespace Layout

/-- The column of the bar in front of the lines. -/
def barColumn (l : Layout) : Nat := l.digits + 3

/-- The column where the lines begin. -/
def textColumn (l : Layout) : Nat := if l.bar then l.digits + 5 else l.digits + 3

def emptyGutter (l : Layout) : Row := Row.write (l.digits + 1) .gutter ['|'] []

def numberGutter (l : Layout) (n : Nat) : Row :=
  let number := (toString n).toList
  let row := Row.ofText .gutter (List.replicate (l.digits - number.length) ' ' ++ number)
  row.write (l.digits + 1) .gutter ['|']

def excerpt (l : Layout) (line : SourceLine) : Excerpt := l.window.excerpt (shown line.text)

def sourceRow (l : Layout) (line : SourceLine) : Row :=
  let e := l.excerpt line
  let dots := "...".toList
  let front := if e.cutLeft then dots.length else 0
  let row := (l.numberGutter line.number).write (l.textColumn + front) .plain e.text
  let row := if e.cutLeft then row.write l.textColumn .gutter dots else row
  if e.cutRight then row.write (l.textColumn + front + e.text.length) .gutter dots else row

/-- A line behind the bar. -/
def barRow (l : Layout) (line : SourceLine) : Row :=
  (l.sourceRow line).write l.barColumn .level ['|']

/-- The column under a display column of a line. -/
def columnAt (l : Layout) (line : SourceLine) (column : Nat) : Nat :=
  l.textColumn + column - (l.excerpt line).offset

/-- The label behind a range that stops at a display column. -/
def labelColumn (l : Layout) (line : SourceLine) (stop : Nat) : Nat :=
  l.textColumn + ((if stop = 0 then 2 else stop + 1) - (l.excerpt line).offset)

end Layout

/-- How many columns a row has. -/
def rowColumns : Nat := 140

/-- The least indentation of lines that are not blank. -/
def indentOf (lines : List SourceLine) : Nat :=
  let told := lines.filter fun l => !l.text.all isSpace
  let columns := told.map fun l =>
    (l.text.takeWhile isSpace).foldl (fun n c => if c = '\t' then n + 4 else n + 1) 0
  columns.min?.getD 0

def longestOf (lines : List SourceLine) : Nat := (lines.map fun l => Text.width l.text).foldl max 0

/-- Carets under columns of one line. -/
def inlineRows (digits : Nat) (start stop : Spot) (label : String) : List Row :=
  let line := start.line
  let stop := if stop.column = start.column then stop.column + 1 else stop.column
  let l : Layout :=
    { digits, bar := false
      window := Window.fit (indentOf [line]) start.column (max start.column stop)
        (stop + Text.width label.toList + 1) (longestOf [line]) (rowColumns - (digits + 3)) }
  let row := l.emptyGutter.write (l.labelColumn line stop) .level label.toList
  let carets := List.replicate (stop - start.column) '^'
  [l.sourceRow line, row.write (l.columnAt line start.column) .level carets]

/-- A line that says little: blank, a comment or a single bracket. -/
def isTrivial (line : SourceLine) : Bool :=
  let t := trim line.text
  (t.take 2 == ['/', '/'] && t.take 3 != ['/', '/', '/'] && t.take 3 != ['/', '/', '!']) ||
    t ∈ [[], ['\x7b'], ['\x7d'], ['('], [')'], ['['], [']']]

/-- The last line of `first ..< first + n` that says something. -/
def lastTelling? (lines : List SourceLine) (first : Nat) : Nat → Option Nat
  | 0 => none
  | n + 1 =>
    match lineNumbered? lines (first + n) with
    | some l => if isTrivial l then lastTelling? lines first n else some l.number
    | none => lastTelling? lines first n

/-- Numbers of the lines to show between the first and the last line of a range. -/
def middleLines (lines : List SourceLine) (first last : Nat) : List Nat :=
  let middle := min (first + 4) last
  let head :=
    match lastTelling? lines first (middle - first) with
    | some n => (List.range (n - first)).map (first + 1 + ·)
    | none => []
  let telling := (lineNumbered? lines (last - 1)).any fun l => !isTrivial l
  if middle < last - 1 && telling then head ++ [last - 1] else head

/-- Rows for what lies between two lines that are shown. -/
def gapRows (lines : List SourceLine) (l : Layout) (a b : Nat) : List Row :=
  if b - a = 2 then (lineNumbered? lines (a + 1)).toList.map l.barRow
  else if 2 < b - a then
    [(Row.ofText .gutter "...".toList).write l.barColumn .level ['|']]
  else []

/-- The lines after line `a`, each after what lies before it. -/
def barRows (lines : List SourceLine) (l : Layout) (a : Nat) : List Nat → List Row
  | [] => []
  | n :: ns =>
    gapRows lines l a n ++ (lineNumbered? lines n).toList.map l.barRow ++ barRows lines l n ns

/-- A row from the bar to a caret under a column of a line. -/
def turnRow (l : Layout) (line : SourceLine) (column : Nat) (bar : Char) (row : Row) : Row :=
  let caret := l.columnAt line column
  let row := row.write (l.barColumn + 1) .level (List.replicate (caret - (l.barColumn + 1)) '_')
  (row.write l.barColumn .level [bar]).write caret .level ['^']

/-- A bar from the line where a range starts to the line where it stops. -/
def multilineRows (lines : List SourceLine) (digits : Nat) (start stop : Spot) (label : String) :
    List Row :=
  let first := start.line.number
  let last := stop.line.number
  let middle := middleLines lines first last
  let marked := start.line :: middle.filterMap (lineNumbered? lines) ++ [stop.line]
  let leftmost := if middle.isEmpty then min start.column (stop.column - 1) else 0
  let l : Layout :=
    { digits, bar := true
      window := Window.fit (indentOf marked) leftmost (max (start.column + 1) stop.column)
        (max (start.column + 1) (stop.column + Text.width label.toList + 1)) (longestOf marked)
        (rowColumns - (digits + 5)) }
  let opening :=
    if (start.line.text.take start.column).all isSpace then
      [(l.sourceRow start.line).write l.barColumn .level ['/']]
    else [l.sourceRow start.line, turnRow l start.line start.column ' ' l.emptyGutter]
  let row := l.emptyGutter.write (l.labelColumn stop.line stop.column) .level label.toList
  opening ++ barRows lines l first (middle ++ [last]) ++
    [turnRow l stop.line (stop.column - 1) '|' row]

/-- How many digits line numbers have: as many as the number of the line in which a range ends,
where a line end still counts for its line. -/
def numberDigits (source : List Char) (last : Nat) : Nat :=
  (toString (1 + ((Text.lines (takeBytes source last)).length - 1))).length

/-- The rows of a snippet: the place, the lines and the carets. -/
def snippetRows (path : String) (source : List Char) (first last : Nat) (label : String) :
    List Row :=
  let lines := sourceLines source
  let start := startSpot lines first
  let stop := stopSpot lines start last
  let digits := numberDigits source last
  let place := path ++ s!":{start.line.number}:{start.char + 1}"
  let header := (Row.write digits .gutter "--> ".toList []).write (digits + 4) .plain place.toList
  header :: Row.write (digits + 1) .gutter ['|'] [] ::
    if start.line.number = stop.line.number then inlineRows digits start stop label
    else multilineRows lines digits start stop label

/-- The rows of a title: the word of the severity and a message, whose lines stand below each
other. -/
def titleRows (word message : String) : List Row :=
  let head := word.length + 2
  match Text.pieces '\n' (shown message.toList) with
  | [] => []
  | text :: texts =>
    (Row.ofText .level word.toList ++ Row.ofText .title (':' :: ' ' :: text)) ::
      texts.map fun t => Row.ofText .plain (List.replicate head ' ') ++ Row.ofText .title t

end AvroLink.Diagnostic
