import AvroLink.Json.Fault
import AvroLink.Name

/-!
# Why a text is not a schema

An error is a cause and, where it is known, the place in the text. Only an
unknown name may become known later.
-/

namespace AvroLink

/-- Ways in which a JSON value breaks the rules for schemas. -/
inductive SchemaFault where
  | notASchema (found : Json.Value)
  | missing (what key : String)
  | notAString (what key : String)
  | typeNotAString (found : Json.Value)
  | namespaceNotAString (found : Json.Value)
  | aliasesNotNames
  | emptyUnion
  | nestedUnion
  | repeatedBranch (key : String)
  | noFields (record : FullName)
  | fieldNotAnObject
  | repeatedField (field : String)
  | noSymbols (enum : FullName)
  | symbolNotAString (enum : FullName)
  | repeatedSymbol (enum : FullName) (symbol : String)
  | defaultNotASymbol (enum : FullName) (found : Json.Value)
  | noSize (fixed : FullName)
  | unnamed (kind : String)
  deriving Repr

def quoted (s : String) : String := "`" ++ s ++ "`"

def SchemaFault.message : SchemaFault → String
  | notASchema v => "expected a type name, union or object, found " ++ quoted v.text
  | missing what key => what ++ " is missing " ++ quoted key
  | notAString what key => what ++ " " ++ quoted key ++ " must be a string"
  | typeNotAString v => "`type` must be a string, found " ++ quoted v.text
  | namespaceNotAString v => "`namespace` must be a string, found " ++ quoted v.text
  | aliasesNotNames => "`aliases` must be an array of names"
  | emptyUnion => "union must have at least one branch"
  | nestedUnion => "unions may not immediately contain other unions"
  | repeatedBranch key => "union contains " ++ quoted key ++ " more than once"
  | noFields r => "record " ++ quoted r.text ++ " is missing a `fields` array"
  | fieldNotAnObject => "record fields must be objects"
  | repeatedField f => "field " ++ quoted f ++ " is declared more than once"
  | noSymbols e => "enum " ++ quoted e.text ++ " is missing a `symbols` array"
  | symbolNotAString e => "enum " ++ quoted e.text ++ " symbols must be strings"
  | repeatedSymbol e s => "enum " ++ quoted e.text ++ " declares " ++ quoted s ++ " more than once"
  | defaultNotASymbol e v =>
    "enum " ++ quoted e.text ++ " default " ++ quoted v.text ++ " is not one of its symbols"
  | noSize f => "fixed " ++ quoted f.text ++ " needs a non-negative integer `size`"
  | unnamed kind => "only record, enum and fixed schemas can be registered, got " ++ kind

namespace ParseError

inductive Cause where
  | json (cause : Json.Cause) (position : Position)
  | unknownType (name : String)
  | duplicateName (name : FullName)
  | invalidName (error : NameError)
  | invalidSchema (fault : SchemaFault)
  deriving Repr

def Cause.message : Cause → String
  | json c p => "invalid JSON: " ++ c.text ++ " at " ++ p.render
  | unknownType n => quoted n ++ " is not defined"
  | duplicateName n => quoted n.text ++ " is already defined"
  | invalidName e => e.message
  | invalidSchema f => f.message

end ParseError

structure ParseError where
  cause : ParseError.Cause
  span : Option Span
  deriving Repr

namespace ParseError

def message (e : ParseError) : String := e.cause.message

/-- Whether the failure is a name that may still be defined later. -/
def isUnknownType (e : ParseError) : Bool :=
  match e.cause with
  | .unknownType _ => true
  | _ => false

/-- The error for a text that is not JSON: an empty span where reading stopped. -/
def ofFault (source : List Char) (f : Json.Fault) : ParseError :=
  let p := f.position source
  let i := p.offset source
  ⟨.json f.cause p, some ⟨i, i⟩⟩

end ParseError

end AvroLink
