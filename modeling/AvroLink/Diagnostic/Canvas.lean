import AvroLink.Text.Split

/-!
# Styled rows

A row is a list of styled characters. Text is written at a column, over what stands there; blanks
fill up a row that is too short. `paint` turns rows into text, with or without colours.
-/

namespace AvroLink.Diagnostic

inductive Style where
  | plain
  | title
  | gutter
  | level
  deriving DecidableEq, Repr

structure Cell where
  style : Style
  char : Char
  deriving DecidableEq, Repr

abbrev Row := List Cell

namespace Row

def ofText (style : Style) (text : List Char) : Row := text.map (Cell.mk style)

/-- Put `cell` at a column. -/
def put (cell : Cell) : Nat → Row → Row
  | 0, [] => [cell]
  | 0, _ :: r => cell :: r
  | col + 1, [] => ⟨.plain, ' '⟩ :: put cell col []
  | col + 1, c :: r => c :: put cell col r

/-- Write a text from a column on. -/
def write (col : Nat) (style : Style) : List Char → Row → Row
  | [], r => r
  | c :: cs, r => write (col + 1) style cs (put ⟨style, c⟩ col r)

end Row

/-- The codes that switch a style on; `level` is the colour of the severity. -/
def Style.codes (level : String) : Style → String
  | plain => ""
  | title => "\x1b[1m"
  | gutter => "\x1b[1m\x1b[94m"
  | .level => "\x1b[1m" ++ level

def Style.off : Style → String
  | plain => ""
  | _ => "\x1b[0m"

/-- The text of a row behind a character of style `s`; codes stand where the style changes. -/
def paintFrom (level : String) (s : Style) : Row → String
  | [] => s.off
  | c :: r =>
    if c.style = s then c.char.toString ++ paintFrom level s r
    else s.off ++ c.style.codes level ++ c.char.toString ++ paintFrom level c.style r

def paintRow (level : Option String) (r : Row) : String :=
  match level with
  | none => String.ofList (r.map Cell.char)
  | some l => paintFrom l .plain r

/-- Rows as text, in colours when `level` is given. -/
def paint (level : Option String) (rows : List Row) : String :=
  Text.joinWith "\n" (rows.map (paintRow level))

end AvroLink.Diagnostic
