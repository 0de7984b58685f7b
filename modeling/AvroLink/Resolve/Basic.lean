import AvroLink.Namespace

/-!
# Resolving definitions in any order

Definitions may refer to types that other definitions introduce. A pass attempts
every pending definition once against the namespace left by the one before it. An
attempt that succeeds is committed at once; one that fails leaves the namespace as
it was, and its definition waits for the next pass. Passes go on as long as each
resolves something, so a run of `n` definitions has at most `n` passes.
-/

namespace AvroLink

/-- Schema text and the name under which it is reported. -/
structure Definition where
  id : String
  content : String
  deriving DecidableEq, Repr, Inhabited

namespace Resolve

/-- Reads a definition against a namespace, which it may change also when it fails. -/
abbrev Parser (ε α : Type) := String → Namespace → Except ε α × Namespace

inductive Attempt (ε α : Type) where
  | committed (output : α)
  | rolledBack (error : ε)

variable {ε α : Type}

/-- Parse a definition; the changes of a failed attempt are dropped. -/
def attempt (parser : Parser ε α) (d : Definition) (ns : Namespace) : Attempt ε α × Namespace :=
  match parser d.content ns with
  | (.ok a, ns') => (.committed a, ns')
  | (.error e, _) => (.rolledBack e, ns)

/-- A definition that is still pending and why its last attempt failed. -/
structure Unresolved (ε : Type) where
  definition : Definition
  error : ε

/-- The limit on attempts was reached. -/
structure FuelExhausted where
  limit : UInt32
  deriving DecidableEq, Repr

def FuelExhausted.message (e : FuelExhausted) : String :=
  s!"parse attempt limit of {e.limit} exceeded"

/-- What a pass did. -/
structure Pass (ε α : Type) where
  resolved : List α
  failed : List (Unresolved ε)
  types : Namespace
  attempts : UInt32

/-- Attempt each definition once; `attempts` were made before. -/
def pass (parser : Parser ε α) (limit : Option UInt32) (ns : Namespace) (attempts : UInt32) :
    List Definition → Except FuelExhausted (Pass ε α)
  | [] => .ok ⟨[], [], ns, attempts⟩
  | d :: ds =>
    match limit.filter (· ≤ attempts) with
    | some l => .error ⟨l⟩
    | none =>
      match attempt parser d ns with
      | (.committed a, ns') => do
        let p ← pass parser limit ns' (attempts + 1) ds
        return { p with resolved := a :: p.resolved }
      | (.rolledBack e, ns') => do
        let p ← pass parser limit ns' (attempts + 1) ds
        return { p with failed := ⟨d, e⟩ :: p.failed }

/-- What a run that reached its fixpoint left behind. -/
structure Resolution (ε α : Type) where
  /-- Outputs in the order in which they were committed. -/
  resolved : List α
  /-- Pending definitions in input order. -/
  unresolved : List (Unresolved ε)
  types : Namespace
  passes : Nat
  attempts : UInt32

/-- Passes over `pending` until nothing is pending or a pass resolves nothing. -/
def sweep (parser : Parser ε α) (limit : Option UInt32) (ns : Namespace) (attempts : UInt32)
    (pending : List Definition) : Except FuelExhausted (Resolution ε α) :=
  if pending.isEmpty then .ok ⟨[], [], ns, 0, attempts⟩
  else
    match pass parser limit ns attempts pending with
    | .error e => .error e
    | .ok p =>
      if p.failed.length < pending.length then do
        let r ← sweep parser limit p.types p.attempts (p.failed.map (·.definition))
        return { r with resolved := p.resolved ++ r.resolved, passes := r.passes + 1 }
      else .ok ⟨p.resolved, p.failed, p.types, 1, p.attempts⟩
termination_by pending.length

/-- Resolve definitions on top of the types in `seed`, with at most `limit` attempts. -/
def resolve (parser : Parser ε α) (limit : Option UInt32) (definitions : List Definition)
    (seed : Namespace) : Except FuelExhausted (Resolution ε α) :=
  sweep parser limit seed 0 definitions

namespace Resolution

variable (r : Resolution ε α)

def isComplete : Bool := r.unresolved.isEmpty

def unresolvedIds : List String := r.unresolved.map fun u => u.definition.id

def unresolvedLine : Option String :=
  if r.isComplete then none
  else some ("unresolved definitions: " ++ Text.joinWith ", " r.unresolvedIds)

/-- One line about a run. -/
def summary : String :=
  s!"resolved {r.resolved.length} of {r.resolved.length + r.unresolved.length} definitions in " ++
    s!"{r.passes} " ++ (if r.passes = 1 then "pass" else "passes") ++
    s!" ({r.attempts} attempts)" ++
    if r.isComplete then "" else s!", {r.unresolved.length} unresolved"

end Resolution

end Resolve

end AvroLink
