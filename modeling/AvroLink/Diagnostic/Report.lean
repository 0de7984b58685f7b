import AvroLink.Diagnostic.Basic
import AvroLink.Diagnostic.Range
import AvroLink.Diagnostic.Snippet

/-!
# Reports

A diagnostic with a text and a span is shown as a snippet, any other on one line.
Hints follow, and an empty line separates one diagnostic from the next.
-/

namespace AvroLink.Diagnostic

def Severity.color : Severity → String
  | .error => "\x1b[91m"
  | .warning => "\x1b[33m"

/-- The snippet of a diagnostic under its title. -/
def snippet (d : Diagnostic) (source : String) (span : Span) (colored : Bool) : String :=
  let cs := source.toList
  let range := adjustRange span cs
  let level := if colored then some (Severity.color d.severity) else none
  paint level (titleRows d.severity.word d.message ++
    snippetRows d.definition cs range.start range.stop d.message)

def reportOne (colored : Bool) (d : Diagnostic) : String :=
  let body :=
    match d.source, d.span with
    | some source, some span => snippet d source span colored
    | _, _ => d.severity.word ++ ": " ++ d.message ++ " [" ++ d.definition ++ "]"
  body ++ "\n" ++ String.join (d.hints.map fun h => "  = help: " ++ h ++ "\n")

/-- All diagnostics, in order. -/
def report (colored : Bool) (ds : List Diagnostic) : String :=
  Text.joinWith "\n" (ds.map (reportOne colored))

end AvroLink.Diagnostic
