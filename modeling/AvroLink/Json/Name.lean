import AvroLink.Json.Typed
import AvroLink.Name

/-!
# Full names in JSON

A full name is written as a string, and read from one.
-/

namespace AvroLink.FullName

inductive ReadError where
  | json (fault : Json.Fault)
  | name (error : NameError)

def ReadError.message (source : List Char) : ReadError → String
  | .json f => f.message source
  | .name e => e.message

def write (n : FullName) : String := Json.writeString n.text

/-- The full name a JSON text holds; a name that breaks the rules is reported before what
follows the string. -/
def read (source : List Char) : Except ReadError FullName := do
  let v ← (Json.stringValue source).mapError .json
  let n ← (parse v.value).mapError .name
  (Json.atEnd v.rest).mapError .json
  return n

end AvroLink.FullName
