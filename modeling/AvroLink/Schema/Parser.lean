import AvroLink.Json.Reader
import AvroLink.Namespace
import AvroLink.Schema.Error

/-!
# Reading schemas

A schema is read in one walk over a JSON value. The walk carries the namespace
and the names of the records whose fields are being read; it keeps both also
when it fails. A named type is registered as soon as its own definition is
complete, so a document that fails later may leave types behind.

The walk sees the text only through `locate`, which finds a quoted name in it.
-/

namespace AvroLink

namespace Schema

/-- What a walk knows: the types registered so far and the records still open, innermost first. -/
structure Scope where
  types : Namespace
  opened : List FullName

/-- Steps of a walk. A failure keeps the scope it was met in. -/
abbrev Walk := ExceptT ParseError (StateM Scope)

namespace Scope

/-- A name that may be referred to. -/
def Visible (sc : Scope) (n : FullName) : Prop := n ∈ sc.types ∨ n ∈ sc.opened

instance (sc : Scope) (n : FullName) : Decidable (sc.Visible n) :=
  inferInstanceAs (Decidable (_ ∨ _))

end Scope

/-- Finds a name in the text of the document. -/
abbrev Locate := String → Option Span

def fail {α : Type} (cause : ParseError.Cause) (span : Option Span) : Walk α := throw ⟨cause, span⟩

def invalid {α : Type} (fault : SchemaFault) : Walk α := fail (.invalidSchema fault) none

def invalidAt {α : Type} (fault : SchemaFault) (span : Option Span) : Walk α :=
  fail (.invalidSchema fault) span

/-- Do a step while the record `name` is open. -/
def opening {α : Type} (name : FullName) (step : Walk α) : Walk α := fun sc =>
  let (r, sc') := step { sc with opened := name :: sc.opened }
  (r, { sc' with opened := sc'.opened.tail })

/-! ## Attributes -/

def required (ms : Json.Members) (what key : String) : Walk Json.Value :=
  match ms.get? key with
  | some v => pure v
  | none => invalid (.missing what key)

def requiredString (ms : Json.Members) (what key : String) : Walk String := do
  match (← required ms what key).string? with
  | some s => return s
  | none => invalid (.notAString what key)

def stringAttribute (ms : Json.Members) (key : String) : Option String :=
  (ms.get? key).bind Json.Value.string?

def docOf (ms : Json.Members) : Option String := stringAttribute ms "doc"

/-- The full name that `text` denotes. -/
def resolveName (locate : Locate) (text : String) (enclosing : Option String) : Walk FullName :=
  match FullName.resolve text enclosing with
  | .ok n => pure n
  | .error e => fail (.invalidName e) (locate text)

/-- The namespace a definition names, or else the one around it. -/
def namespaceOf (ms : Json.Members) (enclosing : Option String) : Walk (Option String) :=
  match ms.get? "namespace" with
  | none => pure enclosing
  | some .null => pure enclosing
  | some (.string ns) => pure (some ns)
  | some v => invalid (.namespaceNotAString v)

def definedName (locate : Locate) (ms : Json.Members) (enclosing : Option String) :
    Walk FullName := do
  let name ← requiredString ms "named type" "name"
  let space ← namespaceOf ms enclosing
  resolveName locate name space

def aliasList (locate : Locate) (space : Option String) : List Json.Value → Walk (List FullName)
  | [] => pure []
  | v :: vs => do
    match v.string? with
    | none => invalid .aliasesNotNames
    | some s =>
      let n ← resolveName locate s space
      return n :: (← aliasList locate space vs)

def aliases (locate : Locate) (ms : Json.Members) (space : Option String) : Walk (List FullName) :=
  match ms.get? "aliases" with
  | none => pure []
  | some (.array vs) => aliasList locate space vs
  | some _ => invalid .aliasesNotNames

/-! ## Names -/

/-- The names a reference may mean: a simple name is looked for in the namespace around it, then
in the null namespace. -/
def candidates (text : String) (enclosing : Option String) (name : FullName) : List FullName :=
  if text.toList.contains '.' ∨ enclosing = none then [name]
  else
    match FullName.parse text with
    | .ok bare => [name, bare]
    | .error _ => [name]

def reference (locate : Locate) (text : String) (enclosing : Option String) : Walk Schema := do
  let name ← resolveName locate text enclosing
  let sc ← get
  match (candidates text enclosing name).find? fun n => sc.Visible n with
  | some n => return .ref n
  | none => fail (.unknownType text) (locate text)

def typeName (locate : Locate) (text : String) (enclosing : Option String) : Walk Schema :=
  match Primitive.ofKeyword? text with
  | some p => pure (.primitive p)
  | none => reference locate text enclosing

/-- A name about to be defined must not be in use. -/
def checkFresh (locate : Locate) (name : FullName) : Walk Unit := do
  let sc ← get
  if sc.Visible name then fail (.duplicateName name) (locate name.name)

def register (locate : Locate) (s : Schema) : Walk Schema := do
  let sc ← get
  match sc.types.register s with
  | .ok types => do
    set { sc with types := types }
    return s
  | .error (.alreadyDefined name) => fail (.duplicateName name) (locate name.name)
  | .error (.unnamed kind) => invalid (.unnamed kind)

/-! ## Logical types -/

/-- Parameters of a decimal: at least one digit, no more decimals than digits, both of 32 bits. -/
def decimalType? (ms : Json.Members) : Option LogicalType := do
  let precision ← (ms.get? "precision").bind Json.Value.nat?
  let scale ← match ms.get? "scale" with
    | none => some 0
    | some v => v.nat?
  if 0 < precision ∧ scale ≤ precision ∧ precision < UInt32.size then
    some (.decimal precision scale)
  else none

/-- The logical type with this keyword, when it fits what it is laid over. -/
def logicalType? (ms : Json.Members) (keyword : String) : Schema → Option LogicalType
  | primitive .int =>
    if keyword = "date" then some .date
    else if keyword = "time-millis" then some .timeMillis
    else none
  | primitive .long =>
    if keyword = "time-micros" then some .timeMicros
    else if keyword = "timestamp-millis" then some .timestampMillis
    else if keyword = "timestamp-micros" then some .timestampMicros
    else none
  | primitive .string => if keyword = "uuid" then some .uuid else none
  | primitive .bytes => if keyword = "decimal" then decimalType? ms else none
  | fixed _ => if keyword = "decimal" then decimalType? ms else none
  | _ => none

/-- Lay the logical type of an object over a schema; one that is unknown or does not fit counts
for nothing. -/
def withLogical (ms : Json.Members) (base : Schema) : Schema :=
  match (stringAttribute ms "logicalType").bind fun k => logicalType? ms k base with
  | some l => .logical l base
  | none => base

/-! ## Enums and fixed types -/

def symbolList (locate : Locate) (name : FullName) :
    List String → List Json.Value → Walk (List String)
  | seen, [] => pure seen
  | seen, v :: vs => do
    match v.string? with
    | none => invalid (.symbolNotAString name)
    | some s =>
      if !isValidName s then fail (.invalidName (.invalidName s)) (locate s)
      else if s ∈ seen then invalidAt (.repeatedSymbol name s) (locate s)
      else symbolList locate name (seen ++ [s]) vs

def defaultSymbol (ms : Json.Members) (name : FullName) (symbols : List String) :
    Walk (Option String) :=
  match ms.get? "default" with
  | none => pure none
  | some .null => pure none
  | some v =>
    match v.string? with
    | some d => if d ∈ symbols then pure (some d) else invalid (.defaultNotASymbol name v)
    | none => invalid (.defaultNotASymbol name v)

def enumType (locate : Locate) (ms : Json.Members) (enclosing : Option String) : Walk Schema := do
  let name ← definedName locate ms enclosing
  checkFresh locate name
  match ms.get? "symbols" with
  | some (.array vs) =>
    let symbols ← symbolList locate name [] vs
    let default ← defaultSymbol ms name symbols
    let as ← aliases locate ms name.space
    register locate (.enum ⟨name, docOf ms, as, symbols, default⟩)
  | _ => invalidAt (.noSymbols name) (locate name.name)

def fixedType (locate : Locate) (ms : Json.Members) (enclosing : Option String) : Walk Schema := do
  let name ← definedName locate ms enclosing
  checkFresh locate name
  match (ms.get? "size").bind Json.Value.nat? with
  | some size =>
    let as ← aliases locate ms name.space
    register locate (.fixed ⟨name, as, size⟩)
  | none => invalidAt (.noSize name) (locate name.name)

/-! ## The walk -/

mutual

/-- The schema a JSON value spells inside the namespace `enclosing`. -/
def walk (locate : Locate) (v : Json.Value) (enclosing : Option String) : Walk Schema :=
  match v with
  | .string s => typeName locate s enclosing
  | .array vs =>
    if vs.isEmpty then invalid .emptyUnion
    else do return .union (← walkBranches locate vs enclosing [])
  | .object ms => walkObject locate ms enclosing
  | v => invalid (.notASchema v)
termination_by sizeOf v

/-- The branches of a union after ones with the keys `seen`. -/
def walkBranches (locate : Locate) (vs : List Json.Value) (enclosing : Option String)
    (seen : List String) : Walk (List Schema) :=
  match vs with
  | [] => pure []
  | v :: vs => do
    let s ← walk locate v enclosing
    if s.isUnion then invalid .nestedUnion
    else if s.unionKey ∈ seen then invalidAt (.repeatedBranch s.unionKey) (locate s.unionKey)
    else return s :: (← walkBranches locate vs enclosing (seen ++ [s.unionKey]))
termination_by sizeOf vs

def walkObject (locate : Locate) (ms : Json.Members) (enclosing : Option String) : Walk Schema :=
  match h : ms.get? "type" with
  | none => invalid (.missing "schema object" "type")
  | some (.object inner) =>
    have : 1 + sizeOf inner < sizeOf ms := by simpa using Json.Members.sizeOf_lt_of_get? h
    walk locate (.object inner) enclosing
  | some (.array inner) =>
    have : 1 + sizeOf inner < sizeOf ms := by simpa using Json.Members.sizeOf_lt_of_get? h
    walk locate (.array inner) enclosing
  | some (.string type) =>
    if type = "record" ∨ type = "error" then do
      let name ← definedName locate ms enclosing
      checkFresh locate name
      match hf : ms.get? "fields" with
      | some (.array vs) =>
        have : sizeOf vs < sizeOf ms := by
          have := Json.Members.sizeOf_lt_of_get? hf
          simp at this
          omega
        let fields ← opening name (walkFields locate vs name.space [])
        let as ← aliases locate ms name.space
        register locate (.record ⟨name, docOf ms, as⟩ fields)
      | _ => invalidAt (.noFields name) (locate name.name)
    else if type = "enum" then enumType locate ms enclosing
    else if type = "fixed" then do return withLogical ms (← fixedType locate ms enclosing)
    else if type = "array" then
      match hi : ms.get? "items" with
      | none => invalid (.missing "array" "items")
      | some items =>
        have := Json.Members.sizeOf_lt_of_get? hi
        do return .array (← walk locate items enclosing)
    else if type = "map" then
      match hv : ms.get? "values" with
      | none => invalid (.missing "map" "values")
      | some values =>
        have := Json.Members.sizeOf_lt_of_get? hv
        do return .map (← walk locate values enclosing)
    else do return withLogical ms (← typeName locate type enclosing)
  | some v => invalid (.typeNotAString v)
termination_by sizeOf ms

/-- The fields of a record after ones with the names `seen`. -/
def walkFields (locate : Locate) (vs : List Json.Value) (space : Option String)
    (seen : List String) : Walk (List Field) :=
  match vs with
  | [] => pure []
  | .object ms :: vs => do
    let name ← requiredString ms "field" "name"
    if !isValidName name then fail (.invalidName (.invalidName name)) (locate name)
    else if name ∈ seen then invalidAt (.repeatedField name) (locate name)
    else
      match h : Json.Members.get? ms "type" with
      | none => invalid (.missing "field" "type")
      | some type =>
        have := Json.Members.sizeOf_lt_of_get? h
        let s ← walk locate type space
        return ⟨name, docOf ms, s, Json.Members.get? ms "default"⟩ ::
          (← walkFields locate vs space (seen ++ [name]))
  | _ :: _ => invalid .fieldNotAnObject
termination_by sizeOf vs
decreasing_by
  · simp
    omega
  · simp only [List.cons.sizeOf_spec]
    clear this
    omega

end

/-- The schema a JSON value spells, read from the start of a document. -/
def ofJson (locate : Locate) (v : Json.Value) (ns : Namespace) :
    Except ParseError Schema × Namespace :=
  let (r, sc) := walk locate v none ⟨ns, []⟩
  (r, sc.types)

/-- Read a document against the types known so far. -/
def parse (source : String) (ns : Namespace) : Except ParseError Schema × Namespace :=
  let cs := source.toList
  match Json.read cs with
  | .error f => (.error (.ofFault cs f), ns)
  | .ok v => ofJson (Text.findQuoted cs) v ns

end Schema

end AvroLink
