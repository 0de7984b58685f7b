import AvroLink.Proofs.FullName
import AvroLink.Schema.Basic

/-!
# Well-formed schemas

`Schema.WellFormed` collects the rules that hold at every node of a schema that was read: unions
are flat and their branches distinct, fields and symbols are valid and distinct, names are valid,
and a logical type fits what it is laid over. `Schema.inner` lists the definitions strictly inside
a schema.
-/

namespace AvroLink

/-- Whether a logical type may be laid over a schema. -/
def LogicalType.Fits : LogicalType → Schema → Prop
  | .date, .primitive p => p = .int
  | .timeMillis, .primitive p => p = .int
  | .timeMicros, .primitive p => p = .long
  | .timestampMillis, .primitive p => p = .long
  | .timestampMicros, .primitive p => p = .long
  | .uuid, .primitive p => p = .string
  | .decimal precision scale, .primitive p =>
    p = .bytes ∧ 0 < precision ∧ precision < UInt32.size ∧ scale ≤ precision
  | .decimal precision scale, .fixed _ =>
    0 < precision ∧ precision < UInt32.size ∧ scale ≤ precision
  | _, _ => False

structure RecordHead.WellFormed (h : RecordHead) : Prop where
  name : h.name.Valid
  aliases : ∀ a ∈ h.aliases, a.Valid

structure EnumType.WellFormed (e : EnumType) : Prop where
  name : e.name.Valid
  aliases : ∀ a ∈ e.aliases, a.Valid
  symbols : ∀ s ∈ e.symbols, isValidName s = true
  distinct : e.symbols.Nodup
  default : ∀ d ∈ e.default, d ∈ e.symbols

structure FixedType.WellFormed (f : FixedType) : Prop where
  name : f.name.Valid
  aliases : ∀ a ∈ f.aliases, a.Valid

namespace Schema

mutual

/-- The rules that hold at every node of a schema. -/
def WellFormed : Schema → Prop
  | primitive _ => True
  | logical l base => l.Fits base ∧ WellFormed base
  | array items => WellFormed items
  | map values => WellFormed values
  | union branches =>
    branches ≠ [] ∧ (branches.map unionKey).Nodup ∧ BranchesWellFormed branches
  | record h fields => h.WellFormed ∧ (fields.map FieldOf.name).Nodup ∧ FieldsWellFormed fields
  | enum e => e.WellFormed
  | fixed f => f.WellFormed
  | ref n => n.Valid

def BranchesWellFormed : List Schema → Prop
  | [] => True
  | s :: ss => s.isUnion = false ∧ WellFormed s ∧ BranchesWellFormed ss

def FieldsWellFormed : List (FieldOf Schema) → Prop
  | [] => True
  | ⟨name, _, s, _⟩ :: fs => isValidName name = true ∧ WellFormed s ∧ FieldsWellFormed fs

end

/-- Definitions inside a schema other than itself. -/
def inner : Schema → List Schema
  | record _ fields => fieldDefinitions fields
  | _ => []

/-- The name a schema goes by in a union, if it is a named type. -/
def title? : Schema → Option FullName
  | ref n => some n
  | s => s.name?

theorem unionKey_eq (s : Schema) :
    s.unionKey = match s.title? with
      | some n => n.text
      | none => s.kind := by
  cases s <;> rfl

theorem title?_of_name? {s : Schema} {n : FullName} (h : s.name? = some n) :
    s.title? = some n := by
  cases s with
  | ref m => cases h
  | _ => exact h

theorem WellFormed.title {s : Schema} (h : s.WellFormed) {n : FullName} (hn : s.title? = some n) :
    n.Valid := by
  cases s with
  | record g fields => cases hn; exact h.1.name
  | enum e => cases hn; exact (show e.WellFormed from h).name
  | fixed f => cases hn; exact (show f.WellFormed from h).name
  | ref m => cases hn; exact h
  | _ => cases hn

theorem WellFormed.of_nullable? {s t : Schema} (hs : s.WellFormed) (h : s.nullable? = some t) :
    t.WellFormed := by
  unfold nullable? at h
  split at h
  · cases h
    exact hs.2.2.2.2.2.1
  · cases h
    exact hs.2.2.2.1
  · cases h

theorem dot_not_mem_kind : ∀ s : Schema, '.' ∉ s.kind.toList
  | primitive p => by cases p <;> simp [kind, Primitive.keyword]
  | logical _ base => dot_not_mem_kind base
  | array _ | map _ | union _ | record _ _ | enum _ | fixed _ | ref _ => by simp [kind]

end Schema

end AvroLink
