/-!
# Pascal case

Words are separated by `_`, `-` or `.`; each begins with an upper-case letter
and goes on in lower case. A text that starts with an upper-case letter, holds a
lower-case letter and no separator is left as it is. Only letters of ASCII
change case.
-/

namespace AvroLink.Text

def isWordSeparator (c : Char) : Bool := c == '_' || c == '-' || c == '.'

/-- Whether a text already is a single word in Pascal case. -/
def isPascal (cs : List Char) : Bool :=
  match cs with
  | [] => false
  | c :: _ => c.isUpper && cs.any Char.isLower && !cs.any isWordSeparator

/-- Capitalise the words of a text; `fresh` says that a word begins here. -/
def capitalize : Bool → List Char → List Char
  | _, [] => []
  | fresh, c :: cs =>
    if isWordSeparator c then capitalize true cs
    else (if fresh then c.toUpper else c.toLower) :: capitalize false cs

def pascalChars (cs : List Char) : List Char :=
  if isPascal cs then cs else capitalize true cs

def pascal (s : String) : String := String.ofList (pascalChars s.toList)

end AvroLink.Text
