import AvroLink.Json.Value
import AvroLink.Name

/-!
# Avro schemas

A named type stands inline where it is defined and as a `ref` everywhere else.
`definitions` lists the named types defined inside a schema, an outer one before
those in its fields; `refs` lists the names it refers to.
-/

namespace AvroLink

inductive Primitive where
  | null
  | boolean
  | int
  | long
  | float
  | double
  | bytes
  | string
  deriving DecidableEq, Repr

namespace Primitive

def keyword : Primitive → String
  | null => "null"
  | boolean => "boolean"
  | int => "int"
  | long => "long"
  | float => "float"
  | double => "double"
  | bytes => "bytes"
  | string => "string"

def all : List Primitive := [null, boolean, int, long, float, double, bytes, string]

def ofKeyword? (s : String) : Option Primitive := all.find? fun p => p.keyword = s

end Primitive

/-- Meaning laid over an underlying schema. -/
inductive LogicalType where
  | date
  | timeMillis
  | timeMicros
  | timestampMillis
  | timestampMicros
  | uuid
  | decimal (precision scale : Nat)
  deriving DecidableEq, Repr

def LogicalType.keyword : LogicalType → String
  | date => "date"
  | timeMillis => "time-millis"
  | timeMicros => "time-micros"
  | timestampMillis => "timestamp-millis"
  | timestampMicros => "timestamp-micros"
  | uuid => "uuid"
  | decimal _ _ => "decimal"

/-- A record's field over schemas `σ`. -/
structure FieldOf (σ : Type) where
  name : String
  doc : Option String
  schema : σ
  default : Option Json.Value

structure EnumType where
  name : FullName
  doc : Option String
  aliases : List FullName
  symbols : List String
  default : Option String
  deriving DecidableEq, Repr

structure FixedType where
  name : FullName
  aliases : List FullName
  size : Nat
  deriving DecidableEq, Repr

/-- What a record has besides its fields. -/
structure RecordHead where
  name : FullName
  doc : Option String
  aliases : List FullName
  deriving DecidableEq, Repr

inductive Schema where
  | primitive (p : Primitive)
  | logical (l : LogicalType) (base : Schema)
  | array (items : Schema)
  | map (values : Schema)
  | union (branches : List Schema)
  | record (head : RecordHead) (fields : List (FieldOf Schema))
  | enum (e : EnumType)
  | fixed (f : FixedType)
  | ref (name : FullName)

abbrev Field := FieldOf Schema

instance : Inhabited Schema := ⟨.primitive .null⟩

namespace Schema

/-- The name that a record, enum or fixed schema defines. -/
def name? : Schema → Option FullName
  | record h _ => some h.name
  | enum e => some e.name
  | fixed f => some f.name
  | _ => none

/-- The keyword of a schema; a logical type goes by what it is laid over. -/
def kind : Schema → String
  | primitive p => p.keyword
  | logical _ base => base.kind
  | array _ => "array"
  | map _ => "map"
  | union _ => "union"
  | record _ _ => "record"
  | enum _ => "enum"
  | fixed _ => "fixed"
  | ref _ => "ref"

mutual

/-- Named types defined inside a schema, outermost first. -/
def definitions : Schema → List Schema
  | primitive _ => []
  | logical _ base => definitions base
  | array items => definitions items
  | map values => definitions values
  | union branches => branchDefinitions branches
  | record h fields => record h fields :: fieldDefinitions fields
  | enum e => [enum e]
  | fixed f => [fixed f]
  | ref _ => []

def branchDefinitions : List Schema → List Schema
  | [] => []
  | s :: ss => definitions s ++ branchDefinitions ss

def fieldDefinitions : List (FieldOf Schema) → List Schema
  | [] => []
  | ⟨_, _, s, _⟩ :: fs => definitions s ++ fieldDefinitions fs

end

mutual

/-- Names that a schema refers to, in the order in which they are met. -/
def refs : Schema → List FullName
  | primitive _ => []
  | logical _ base => refs base
  | array items => refs items
  | map values => refs values
  | union branches => branchRefs branches
  | record _ fields => fieldRefs fields
  | enum _ => []
  | fixed _ => []
  | ref n => [n]

def branchRefs : List Schema → List FullName
  | [] => []
  | s :: ss => refs s ++ branchRefs ss

def fieldRefs : List (FieldOf Schema) → List FullName
  | [] => []
  | ⟨_, _, s, _⟩ :: fs => refs s ++ fieldRefs fs

end

/-- The other branch of a union of two of which one is `null`. -/
def nullable? : Schema → Option Schema
  | union [primitive .null, s] => some s
  | union [s, primitive .null] => some s
  | _ => none

def isUnion : Schema → Bool
  | union _ => true
  | _ => false

/-- The name of a named type, defined here or referred to, otherwise the kind: no two branches
of a union have the same. -/
def unionKey : Schema → String
  | ref n => n.text
  | s =>
    match s.name? with
    | some n => n.text
    | none => s.kind

def sameDefault : Option Json.Value → Option Json.Value → Bool
  | none, none => true
  | some a, some b => a.same b
  | _, _ => false

mutual

/-- Equality, where doubles in defaults are compared as numbers. -/
def same : Schema → Schema → Bool
  | primitive a, primitive b => a == b
  | logical l a, logical m b => l == m && same a b
  | array a, array b => same a b
  | map a, map b => same a b
  | union as, union bs => sameBranches as bs
  | record g as, record h bs => g == h && sameFields as bs
  | enum a, enum b => a == b
  | fixed a, fixed b => a == b
  | ref a, ref b => a == b
  | _, _ => false

def sameBranches : List Schema → List Schema → Bool
  | [], [] => true
  | a :: as, b :: bs => same a b && sameBranches as bs
  | _, _ => false

def sameFields : List (FieldOf Schema) → List (FieldOf Schema) → Bool
  | [], [] => true
  | ⟨n, d, a, v⟩ :: as, ⟨m, e, b, w⟩ :: bs =>
    n == m && d == e && same a b && sameDefault v w && sameFields as bs
  | _, _ => false

end

instance : BEq Schema := ⟨same⟩

end Schema

end AvroLink
