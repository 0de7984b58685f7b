import AvroLink.Diagnostic.Basic
import AvroLink.Resolve.Basic
import AvroLink.Schema.Parser

/-!
# Resolving Avro schemas

A run over Avro documents, and the diagnostics for what it left unresolved: each points into
the text of its definition, and a name that nothing introduced comes with a hint.
-/

namespace AvroLink.Resolve

abbrev AvroResolution := Resolution ParseError Schema

def resolveAvro (limit : Option UInt32) (definitions : List Definition) (seed : Namespace) :
    Except FuelExhausted AvroResolution :=
  resolve Schema.parse limit definitions seed

def unresolvedHints (e : ParseError) : List String :=
  match e.cause with
  | .unknownType name =>
    ["no resolved definition introduces `" ++ name ++
      "`; check its namespace or add the schema that defines it"]
  | _ => []

def diagnosticOf (u : Unresolved ParseError) : Diagnostic where
  severity := .error
  definition := u.definition.id
  message := u.error.message
  source := some u.definition.content
  span := u.error.span
  hints := unresolvedHints u.error

/-- One error per unresolved definition. -/
def diagnostics (r : AvroResolution) : List Diagnostic := r.unresolved.map diagnosticOf

end AvroLink.Resolve
