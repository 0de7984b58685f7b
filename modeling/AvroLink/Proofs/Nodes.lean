import AvroLink.Proofs.Document

/-!
# The rules at every node of a parsed schema

`nodes` lists a schema and all schemas inside it, and `Lawful` says what must hold at one of them,
without a look at those further inside. A schema is well-formed when all its nodes are lawful; so is
every schema that a parse returns.
-/

namespace AvroLink.Schema

mutual

/-- A schema and the schemas inside it, also those inside a definition; an outer one comes first. -/
def nodes : Schema → List Schema
  | primitive p => [primitive p]
  | logical l base => logical l base :: nodes base
  | array items => array items :: nodes items
  | map values => map values :: nodes values
  | union branches => union branches :: branchNodes branches
  | record h fields => record h fields :: fieldNodes fields
  | enum e => [enum e]
  | fixed f => [fixed f]
  | ref n => [ref n]

def branchNodes : List Schema → List Schema
  | [] => []
  | s :: ss => nodes s ++ branchNodes ss

def fieldNodes : List (FieldOf Schema) → List Schema
  | [] => []
  | ⟨_, _, s, _⟩ :: fs => nodes s ++ fieldNodes fs

end

/-- The rules for one node. -/
def Lawful : Schema → Prop
  | primitive _ => True
  | logical l base => l.Fits base
  | array _ => True
  | map _ => True
  | union branches =>
    branches ≠ [] ∧ (∀ s ∈ branches, s.isUnion = false) ∧ (branches.map unionKey).Nodup
  | record h fields =>
    h.WellFormed ∧ (∀ f ∈ fields, isValidName f.name = true) ∧ (fields.map FieldOf.name).Nodup
  | enum e => e.WellFormed
  | fixed f => f.WellFormed
  | ref n => n.Valid

mutual

/-- A schema is well-formed when every node of it is lawful. -/
theorem wellFormed_iff : ∀ s : Schema, s.WellFormed ↔ ∀ t ∈ s.nodes, t.Lawful
  | primitive p => by simp [WellFormed, nodes, Lawful]
  | logical l base => by
    simp only [WellFormed, nodes, List.forall_mem_cons, Lawful, wellFormed_iff base]
  | array items => by
    simp only [WellFormed, nodes, List.forall_mem_cons, Lawful, wellFormed_iff items, true_and]
  | map values => by
    simp only [WellFormed, nodes, List.forall_mem_cons, Lawful, wellFormed_iff values, true_and]
  | union branches => by
    simp only [WellFormed, nodes, List.forall_mem_cons, Lawful, branchesWellFormed_iff branches]
    tauto
  | record h fields => by
    simp only [WellFormed, nodes, List.forall_mem_cons, Lawful, fieldsWellFormed_iff fields]
    tauto
  | enum e => by simp [WellFormed, nodes, Lawful]
  | fixed f => by simp [WellFormed, nodes, Lawful]
  | ref n => by simp [WellFormed, nodes, Lawful]

theorem branchesWellFormed_iff : ∀ ss : List Schema, BranchesWellFormed ss ↔
    (∀ s ∈ ss, s.isUnion = false) ∧ ∀ t ∈ branchNodes ss, t.Lawful
  | [] => by simp [BranchesWellFormed, branchNodes]
  | s :: ss => by
    simp only [BranchesWellFormed, branchNodes, List.forall_mem_cons, List.forall_mem_append,
      wellFormed_iff s, branchesWellFormed_iff ss]
    tauto

theorem fieldsWellFormed_iff : ∀ fs : List (FieldOf Schema), FieldsWellFormed fs ↔
    (∀ f ∈ fs, isValidName f.name = true) ∧ ∀ t ∈ fieldNodes fs, t.Lawful
  | [] => by simp [FieldsWellFormed, fieldNodes]
  | ⟨_, _, s, _⟩ :: fs => by
    simp only [FieldsWellFormed, fieldNodes, List.forall_mem_cons, List.forall_mem_append,
      wellFormed_iff s, fieldsWellFormed_iff fs]
    tauto

end

/-- Every node of a schema that a parse returns is lawful. -/
theorem parse_lawful {text : String} {N : Namespace} {s : Schema}
    (h : (parse text N).1 = .ok s) : ∀ t ∈ s.nodes, t.Lawful := by
  have hp : parse text N = (.ok s, (parse text N).2) := by rw [← h]
  exact s.wellFormed_iff.mp (parse_reads hp).2

/-- An error record with a price that is a decimal or the price of another item. -/
def item : String :=
  "\x7b\"type\":\"error\",\"name\":\"shop.Item\",\"fields\":[\x7b\"name\":\"price\",\"type\":" ++
    "[\"Item\",\x7b\"type\":\"bytes\",\"logicalType\":\"decimal\",\"precision\":9\x7d]\x7d]\x7d"

/-- The nodes of the error record follow their rules. -/
theorem parse_lawful_item : ∃ s, (parse item .empty).1 = .ok s ∧
    s.nodes.map kind = ["record", "union", "ref", "bytes", "bytes"] ∧ ∀ t ∈ s.nodes, t.Lawful := by
  have hk : (parse item .empty).1.toOption.map (fun s => s.nodes.map kind) =
      some ["record", "union", "ref", "bytes", "bytes"] := by decide +kernel
  obtain ⟨s, hs, hk⟩ := Option.map_eq_some_iff.mp hk
  have hs := ok_of_toOption hs
  exact ⟨s, hs, hk, parse_lawful hs⟩

end AvroLink.Schema
