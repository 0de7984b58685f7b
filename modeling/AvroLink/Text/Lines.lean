/-!
# Lines and blanks

A line ends at a newline, with or without a carriage return before it; the text after the
last newline is a line only when it is not empty. Blanks are the characters of the
Unicode property `White_Space`.
-/

namespace AvroLink.Text

/-- The characters of the property `White_Space`. -/
def isSpace (c : Char) : Bool :=
  let n := c.toNat
  (0x09 ≤ n && n ≤ 0x0d) || n == 0x20 || n == 0x85 || n == 0xa0 || n == 0x1680 ||
    (0x2000 ≤ n && n ≤ 0x200a) || n == 0x2028 || n == 0x2029 || n == 0x202f || n == 0x205f ||
    n == 0x3000

/-- A text without the blanks at its end. -/
def trimEnd : List Char → List Char
  | [] => []
  | c :: cs =>
    match trimEnd cs with
    | [] => if isSpace c then [] else [c]
    | d :: t => c :: d :: t

def trimStart (cs : List Char) : List Char := cs.dropWhile isSpace

def trim (cs : List Char) : List Char := trimEnd (trimStart cs)

/-- Put a character before the first line of a text. -/
def consLine (c : Char) : List (List Char) → List (List Char)
  | [] => [[c]]
  | l :: ls => (c :: l) :: ls

/-- The lines of a text without their ends. -/
def lines : List Char → List (List Char)
  | [] => []
  | '\n' :: cs => [] :: lines cs
  | '\r' :: '\n' :: cs => [] :: lines cs
  | c :: cs => consLine c (lines cs)

end AvroLink.Text
