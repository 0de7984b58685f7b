import AvroLink.Text.Position

/-!
# Diagnostics

A problem reported against one definition, with the text it points into when
there is one.
-/

namespace AvroLink

inductive Severity where
  | error
  | warning
  deriving DecidableEq, Repr

def Severity.word : Severity → String
  | error => "error"
  | warning => "warning"

structure Diagnostic where
  severity : Severity
  definition : String
  message : String
  source : Option String
  span : Option Span
  hints : List String
  deriving DecidableEq, Repr

namespace Diagnostic

/-- The problem on one line. -/
def line (d : Diagnostic) : String :=
  let place :=
    match d.span with
    | some s => s!" at {s.start}..{s.stop}"
    | none => ""
  d.severity.word ++ " in " ++ d.definition ++ place ++ ": " ++ d.message ++
    String.join (d.hints.map fun h => " (hint: " ++ h ++ ")")

def isError (d : Diagnostic) : Bool := d.severity == .error

def errorCount (ds : List Diagnostic) : Nat := ds.countP isError

def warningCount (ds : List Diagnostic) : Nat := ds.countP fun d => d.severity == .warning

end Diagnostic

end AvroLink
