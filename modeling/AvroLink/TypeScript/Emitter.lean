import AvroLink.Artifact
import AvroLink.Json.Writer
import AvroLink.Text.Literal
import AvroLink.TypeScript.Comment
import AvroLink.TypeScript.Config
import AvroLink.TypeScript.Imports
import AvroLink.TypeScript.Type

/-!
# Files that declare named types

A record becomes an interface, an enum a union of literals or an enum, a fixed type a byte
array. The declaration is rendered first, which settles the imports; the file is a
header, the imports and the declaration, with one newline at its end.
-/

namespace AvroLink.TypeScript

/-- The type of a primitive. -/
def primitiveType : Primitive → TypeExpr
  | .null => .name "null"
  | .boolean => .name "boolean"
  | .int | .long | .float | .double => .name "number"
  | .bytes => .name "Uint8Array"
  | .string => .name "string"

def logicalType : LogicalType → TypeExpr
  | .uuid | .decimal _ _ => .name "string"
  | .date | .timeMillis | .timeMicros | .timestampMillis | .timestampMicros => .name "number"

mutual

/-- The type of a schema where it is used. -/
def typeOf (remap : Remap) : Schema → StateM Scope TypeExpr
  | .primitive p => pure (primitiveType p)
  | .logical l _ => pure (logicalType l)
  | .array items => do return .array (← typeOf remap items)
  | .map values => do return .dictionary (← typeOf remap values)
  | .union branches => do return .union (← typesOf remap branches)
  | .record h _ => do return .name (← refer remap h.name)
  | .enum e => do return .name (← refer remap e.name)
  | .fixed f => do return .name (← refer remap f.name)
  | .ref n => do return .name (← refer remap n)

def typesOf (remap : Remap) : List Schema → StateM Scope (List TypeExpr)
  | [] => pure []
  | s :: ss => do return (← typeOf remap s) :: (← typesOf remap ss)

end

/-! ## Declarations -/

def exportWord (config : Config) : String := if config.exported then "export " else ""

def fieldDocs (f : Field) : List String :=
  f.doc.toList ++ f.default.toList.map fun v => "@default " ++ v.text

/-- The line that declares a field. -/
def fieldLine (config : Config) (remap : Remap) (f : Field) : StateM Scope String := do
  match f.schema.nullable?, config.optional with
  | some s, .undefined => return "  " ++ f.name ++ "?: " ++ (← typeOf remap s).text ++ ";\n"
  | some s, .null => return "  " ++ f.name ++ ": " ++ (← typeOf remap s).text ++ " | null;\n"
  | none, _ => return "  " ++ f.name ++ ": " ++ (← typeOf remap f.schema).text ++ ";\n"

def fieldTexts (config : Config) (remap : Remap) : List Field → StateM Scope String
  | [] => pure ""
  | f :: fs => do
    let line ← fieldLine config remap f
    return docComment "  " (fieldDocs f) ++ line ++ (← fieldTexts config remap fs)

/-- The member name of a symbol: its Pascal case when that starts with a letter, numbered when it is
taken. -/
def memberName (used : List String) (symbol : String) : String :=
  let pascal := Text.pascal symbol
  let base := if pascal.toList.head?.any Char.isAlpha then pascal else symbol
  firstFree used (numbered base "_")

/-- Names for the symbols of an enum, each different from those before. -/
def memberNames : List String → List String → List (String × String)
  | _, [] => []
  | used, s :: ss =>
    let m := memberName used s
    (m, s) :: memberNames (used ++ [m]) ss

def enumBody (style : EnumStyle) (ident : String) (symbols : List String) : String :=
  match style with
  | .union =>
    let body := if symbols.isEmpty then "never" else Text.joinWith " | " (symbols.map Text.literal)
    "type " ++ ident ++ " = " ++ body ++ ";\n"
  | .enum =>
    "enum " ++ ident ++ " \x7b\n" ++
      String.join ((memberNames [] symbols).map fun (m, s) =>
        "  " ++ m ++ " = " ++ Text.literal s ++ ",\n") ++
      "\x7d\n"

/-- The declaration of a named type. -/
def declaration (config : Config) (remap : Remap) (s : Schema) : StateM Scope String := do
  let ident := declaredIdentifier (← get).self
  match s with
  | .record h fields =>
    let body ← fieldTexts config remap fields
    return docComment "" h.doc.toList ++ exportWord config ++ "interface " ++ ident ++ " \x7b\n" ++
      body ++ "\x7d\n"
  | .enum e =>
    return docComment "" e.doc.toList ++ exportWord config ++ enumBody config.enums ident e.symbols
  | .fixed f =>
    return docComment "" [s!"Fixed size: {f.size} bytes."] ++ exportWord config ++
      "type " ++ ident ++ " = Uint8Array;\n"
  | _ => return ""

/-! ## Files -/

def headerText (header : Option String) : String :=
  match header with
  | none => ""
  | some h =>
    String.join ((Text.lines h.toList).map fun l =>
      if l.isEmpty then "//\n" else "// " ++ String.ofList l ++ "\n") ++ "\n"

def importText (imports : List Import) : String :=
  if imports.isEmpty then "" else String.join (imports.map Import.line) ++ "\n"

/-- The text with exactly one newline at its end. -/
def endOnce (s : String) : String := String.ofList (Text.trimEnd s.toList ++ ['\n'])

/-- The file that declares the type `s` under the name `self`. -/
def emit (config : Config) (remap : Remap) (self : FullName) (s : Schema) : Artifact :=
  let (body, sc) := declaration config remap s (Scope.empty self)
  ⟨filePath self, endOnce (headerText config.header ++ importText sc.imports ++ body)⟩

/-- The files of all named types of a batch. -/
def generate (config : Config) (types : List Schema) (remap : Remap) :
    Except DuplicateType (List Artifact) := do
  let named ← Artifact.collectNamed types remap
  return named.map fun (name, s) => emit config remap name s

end AvroLink.TypeScript
