import Mathlib.Algebra.Ring.Nat
import AvroLink.Proofs.Passes

/-!
# Runs of a parser with a memory

What a parser answers may depend on what it was asked before: a `StatefulParser` takes and returns a
state, which a failed attempt does not take back. `resolveFrom` resolves definitions with such a
parser, and `resolve` is the run of a parser that remembers nothing (`resolveFrom_stateless`).
`rounds` are the definitions that are pending at the start of each pass of a run.
-/

namespace AvroLink.Resolve

variable {σ ε α : Type} {limit : Option UInt32} {ns seed : Namespace} {attempts : UInt32} {st : σ}
  {d : Definition} {ds : List Definition}

/-- Reads a definition against a namespace and a state of its own. It may change both, also when it
fails. -/
abbrev StatefulParser (σ ε α : Type) := String → Namespace → σ → (Except ε α × Namespace) × σ

/-- A parser that leaves its state alone. -/
def stateless (parser : Parser ε α) : StatefulParser σ ε α := fun text ns st =>
  (parser text ns, st)

/-- Parse a definition; what a failed attempt did to the namespace is dropped, not what it did to
the state. -/
def attemptFrom (parser : StatefulParser σ ε α) (d : Definition) (ns : Namespace) (st : σ) :
    (Attempt ε α × Namespace) × σ :=
  match parser d.content ns st with
  | ((.ok a, ns'), st') => ((.committed a, ns'), st')
  | ((.error e, _), st') => ((.rolledBack e, ns), st')

/-- The pass that begins with an attempt at `d` and goes on as `p`. -/
def Pass.record (p : Pass ε α) (d : Definition) : Attempt ε α → Pass ε α
  | .committed a => { p with resolved := a :: p.resolved }
  | .rolledBack e => { p with failed := ⟨d, e⟩ :: p.failed }

/-- Attempt each definition once; `attempts` were made before. -/
def passFrom (parser : StatefulParser σ ε α) (limit : Option UInt32) (ns : Namespace)
    (attempts : UInt32) (st : σ) : List Definition → Except FuelExhausted (Pass ε α) × σ
  | [] => (.ok ⟨[], [], ns, attempts⟩, st)
  | d :: ds =>
    match limit.filter (· ≤ attempts) with
    | some l => (.error ⟨l⟩, st)
    | none =>
      let ((outcome, ns'), st') := attemptFrom parser d ns st
      let (p, st'') := passFrom parser limit ns' (attempts + 1) st' ds
      (p.map (·.record d outcome), st'')

/-- The run that begins with the pass `p` and goes on as `r`. -/
def Resolution.after (r : Resolution ε α) (p : Pass ε α) : Resolution ε α :=
  { r with resolved := p.resolved ++ r.resolved, passes := r.passes + 1 }

/-- Passes over `pending` until nothing is pending or a pass resolves nothing. -/
def sweepFrom (parser : StatefulParser σ ε α) (limit : Option UInt32) (ns : Namespace)
    (attempts : UInt32) (st : σ) (pending : List Definition) :
    Except FuelExhausted (Resolution ε α) × σ :=
  if pending.isEmpty then (.ok ⟨[], [], ns, 0, attempts⟩, st)
  else
    match passFrom parser limit ns attempts st pending with
    | (.error e, st') => (.error e, st')
    | (.ok p, st') =>
      if p.failed.length < pending.length then
        let (r, st'') := sweepFrom parser limit p.types p.attempts st' p.pending
        (r.map (·.after p), st'')
      else (.ok ⟨p.resolved, p.failed, p.types, 1, p.attempts⟩, st')
termination_by pending.length

/-- Resolve definitions with a parser that starts in the state `st`. -/
def resolveFrom (parser : StatefulParser σ ε α) (limit : Option UInt32)
    (definitions : List Definition) (seed : Namespace) (st : σ) :
    Except FuelExhausted (Resolution ε α) × σ :=
  sweepFrom parser limit seed 0 st definitions

/-- What is pending at the start of each pass of `sweepFrom`. -/
def rounds (parser : StatefulParser σ ε α) (limit : Option UInt32) (ns : Namespace)
    (attempts : UInt32) (st : σ) (pending : List Definition) : List (List Definition) :=
  if pending.isEmpty then []
  else
    pending ::
      match passFrom parser limit ns attempts st pending with
      | (.error _, _) => []
      | (.ok p, st') =>
        if p.failed.length < pending.length then
          rounds parser limit p.types p.attempts st' p.pending
        else []
termination_by pending.length

/-- How many attempts a run without a limit makes, over all passes. -/
def attemptsMade (parser : StatefulParser σ ε α) (seed : Namespace) (st : σ)
    (ds : List Definition) : Nat :=
  ((rounds parser none seed 0 st ds).map List.length).sum

/-! ## Parsers without a memory -/

section

variable {parser : Parser ε α}

theorem attemptFrom_stateless :
    attemptFrom (stateless parser) d ns st = (attempt parser d ns, st) := by
  simp only [attemptFrom, stateless, attempt]
  rcases parser d.content ns with ⟨_ | _, _⟩ <;> rfl

theorem passFrom_stateless :
    passFrom (stateless parser) limit ns attempts st ds =
      (pass parser limit ns attempts ds, st) := by
  induction ds generalizing ns attempts with
  | nil => rfl
  | cons d ds ih =>
    rw [passFrom, pass]
    cases limit.filter (· ≤ attempts) with
    | some l => rfl
    | none =>
      simp only [attemptFrom_stateless, ih]
      rcases attempt parser d ns with ⟨_ | _, ns'⟩ <;>
        cases hp : pass parser limit ns' (attempts + 1) ds <;> simp only [hp] <;> rfl

theorem sweepFrom_stateless {ns : Namespace} {attempts : UInt32} (ds : List Definition) :
    sweepFrom (stateless parser) limit ns attempts st ds =
      (sweep parser limit ns attempts ds, st) := by
  rw [sweepFrom, sweep, passFrom_stateless]
  split
  · rfl
  · cases pass parser limit ns attempts ds with
    | error e => rfl
    | ok p =>
      simp only
      split
      · rename_i progress
        have : p.pending.length < ds.length := by simpa using progress
        rw [sweepFrom_stateless p.pending]
        simp only [Pass.pending]
        cases sweep parser limit p.types p.attempts (p.failed.map (·.definition)) <;> rfl
      · rfl
termination_by ds.length

/-- `resolve` is the run of a parser without a memory. -/
theorem resolveFrom_stateless (parser : Parser ε α) (limit : Option UInt32)
    (ds : List Definition) (seed : Namespace) (st : σ) :
    resolveFrom (stateless parser) limit ds seed st = (resolve parser limit ds seed, st) :=
  sweepFrom_stateless ds

end

/-! ## Passes and runs without a limit -/

variable {parser : StatefulParser σ ε α} {p : Pass ε α} {r : Resolution ε α} {st' : σ}
  {rs : List (List Definition)}

/-- What a pass over `ds` after `attempts` attempts did, whatever the parser. -/
structure Pass.Accounts (p : Pass ε α) (attempts : UInt32) (ds : List Definition) : Prop where
  total : p.resolved.length + p.failed.length = ds.length
  order : p.pending.Sublist ds
  attempts : p.attempts = attempts + .ofNat ds.length

theorem Pass.Accounts.cons (h : p.Accounts (attempts + 1) ds) (d : Definition)
    (outcome : Attempt ε α) : (p.record d outcome).Accounts attempts (d :: ds) := by
  have hattempts : p.attempts = attempts + .ofNat (d :: ds).length :=
    h.attempts.trans (add_ofNat_succ attempts ds.length).symm
  have htotal := h.total
  cases outcome with
  | committed a => exact ⟨by simp [Pass.record]; omega, h.order.cons d, hattempts⟩
  | rolledBack e => exact ⟨by simp [Pass.record]; omega, h.order.cons_cons d, hattempts⟩

theorem passFrom_unlimited (parser : StatefulParser σ ε α) (ns : Namespace) (attempts : UInt32)
    (st : σ) (ds : List Definition) :
    ∃ p st', passFrom parser none ns attempts st ds = (.ok p, st') ∧ p.Accounts attempts ds := by
  induction ds generalizing ns attempts st with
  | nil => exact ⟨_, st, rfl, rfl, .slnil, by simp⟩
  | cons d ds ih =>
    rw [passFrom, Option.filter_none]
    obtain ⟨p, st'', hp, haccounts⟩ :=
      ih (attemptFrom parser d ns st).1.2 (attempts + 1) (attemptFrom parser d ns st).2
    simp only [hp]
    exact ⟨_, st'', rfl, haccounts.cons d _⟩

/-- The passes of a run without a limit, with what is pending at the start of each. -/
inductive Ran (parser : StatefulParser σ ε α) :
    Namespace → UInt32 → σ → List Definition → List (List Definition) → Resolution ε α → σ → Prop
    where
  | done (ns : Namespace) (attempts : UInt32) (st : σ) :
    Ran parser ns attempts st [] [] ⟨[], [], ns, 0, attempts⟩ st
  | last {ns : Namespace} {attempts : UInt32} {st st' : σ} {ds : List Definition} {p : Pass ε α}
    (pending : ds ≠ []) (pass : passFrom parser none ns attempts st ds = (.ok p, st'))
    (accounts : p.Accounts attempts ds) (stuck : ds.length ≤ p.failed.length) :
    Ran parser ns attempts st ds [ds] ⟨p.resolved, p.failed, p.types, 1, p.attempts⟩ st'
  | next {ns : Namespace} {attempts : UInt32} {st st' st'' : σ} {ds : List Definition}
    {rs : List (List Definition)} {p : Pass ε α} {r : Resolution ε α}
    (pass : passFrom parser none ns attempts st ds = (.ok p, st'))
    (accounts : p.Accounts attempts ds) (progress : p.failed.length < ds.length)
    (rest : Ran parser p.types p.attempts st' p.pending rs r st'') :
    Ran parser ns attempts st ds (ds :: rs) (r.after p) st''

/-- Without a limit every run comes to its end. -/
theorem exists_ran (parser : StatefulParser σ ε α) (ns : Namespace) (attempts : UInt32) (st : σ)
    (ds : List Definition) :
    ∃ r st', sweepFrom parser none ns attempts st ds = (.ok r, st') ∧
      Ran parser ns attempts st ds (rounds parser none ns attempts st ds) r st' := by
  rw [sweepFrom, rounds]
  split
  · rename_i hnil
    cases List.isEmpty_iff.mp hnil
    exact ⟨_, st, rfl, .done ns attempts st⟩
  · rename_i hne
    obtain ⟨p, st', hp, haccounts⟩ := passFrom_unlimited parser ns attempts st ds
    simp only [hp]
    split
    · rename_i progress
      have : p.pending.length < ds.length := by simpa using progress
      obtain ⟨r, st'', hr, hran⟩ := exists_ran parser p.types p.attempts st' p.pending
      simp only [hr]
      exact ⟨_, st'', rfl, .next hp haccounts progress hran⟩
    · rename_i hstuck
      exact ⟨_, st', rfl, .last (by simpa using hne) hp haccounts (by omega)⟩
termination_by ds.length

end AvroLink.Resolve
