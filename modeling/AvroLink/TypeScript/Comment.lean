import AvroLink.Text.Lines

/-!
# Doc comments

One line of documentation stands in a comment of one line, several in a block. Blanks at
the end of a line are dropped, and the end mark of a comment is broken up wherever it
occurs in the text.
-/

namespace AvroLink.TypeScript

/-- Break up the marks that would end a comment. -/
def escapeEnd : List Char → List Char
  | [] => []
  | '*' :: '/' :: cs => '*' :: '\\' :: '/' :: escapeEnd cs
  | c :: cs => c :: escapeEnd cs

/-- The lines of a comment over some texts. -/
def commentLines (docs : List String) : List (List Char) :=
  docs.flatMap fun d => (Text.lines d.toList).map fun l => escapeEnd (Text.trimEnd l)

def blockLine (indent line : List Char) : List Char :=
  match line with
  | [] => indent ++ " *\n".toList
  | l => indent ++ " * ".toList ++ l ++ ['\n']

/-- The comment over some texts, nothing when they have no lines. -/
def docChars (indent : List Char) (docs : List String) : List Char :=
  match commentLines docs with
  | [] => []
  | [line] => indent ++ "/** ".toList ++ line ++ " */\n".toList
  | lines =>
    indent ++ "/**\n".toList ++ lines.flatMap (blockLine indent) ++ indent ++ " */\n".toList

def docComment (indent : String) (docs : List String) : String :=
  String.ofList (docChars indent.toList docs)

end AvroLink.TypeScript
