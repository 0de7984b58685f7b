/-!
# Quoted literals

A literal is the text between double quotes, where a quote, a backslash, a
newline, a carriage return and a tab are escaped and all else stands as it is.
-/

namespace AvroLink.Text

/-- The characters that stand for one character of a literal. -/
def escapeChar : Char → List Char
  | '"' => ['\\', '"']
  | '\\' => ['\\', '\\']
  | '\n' => ['\\', 'n']
  | '\r' => ['\\', 'r']
  | '\t' => ['\\', 't']
  | c => [c]

def escape (cs : List Char) : List Char := cs.flatMap escapeChar

def literal (s : String) : String := String.ofList ('"' :: escape s.toList ++ ['"'])

end AvroLink.Text
