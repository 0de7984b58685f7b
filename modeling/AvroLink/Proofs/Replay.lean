import Mathlib.Data.List.Permutation
import AvroLink.Proofs.Order
import AvroLink.Proofs.Registration

/-!
# Replaying a run

A run tries definitions again and drops what failed attempts did. None of that is left at its end:
the definitions that it committed parse in turn from the seed, in the order in which they were
committed, and that alone gives the outputs and the namespace of the run.
-/

namespace AvroLink.Resolve

variable {ε α : Type} {parser : Parser ε α} {limit : Option UInt32} {seed : Namespace}
  {ds : List Definition} {r : Resolution ε α}

/-- The definitions that a run does not leave pending parse one after another in some order, without
a retry, and yield the outputs of the run in their order and its namespace with all entries in
theirs. -/
theorem resolve_replay (h : resolve parser limit ds seed = .ok r) :
    ∃ order : List Definition, (order ++ r.unresolved.map (·.definition)).Perm ds ∧
      parseInTurn parser seed order = some (r.resolved, r.types) := by
  obtain ⟨committed, history⟩ := resolve_history h
  exact ⟨committed, history.split, parseInTurn_eq_some.mpr history.inTurn⟩

/-- A definition that never parses, though it registers a type on each attempt, and two that are
committed in the other order. -/
theorem resolve_replay_leaky : ∃ r,
    resolveAvro none [⟨"leaky", Schema.leaky⟩, fooUser, bareFoo] .empty = .ok r ∧
    r.unresolved.map (·.definition) = [⟨"leaky", Schema.leaky⟩] ∧
    parseInTurn Schema.parse .empty [bareFoo, fooUser] = some (r.resolved, r.types) := by
  obtain ⟨r, hr⟩ := resolve_unlimited Schema.parse
    [⟨"leaky", Schema.leaky⟩, fooUser, bareFoo] .empty
  have hr : resolveAvro none [⟨"leaky", Schema.leaky⟩, fooUser, bareFoo] .empty = .ok r := hr
  have heval : (resolveAvro none [⟨"leaky", Schema.leaky⟩, fooUser, bareFoo] .empty).map
      (fun r => r.unresolved.map (·.definition)) = .ok [⟨"leaky", Schema.leaky⟩] := by
    decide +kernel
  rw [hr] at heval
  have hpending : r.unresolved.map (·.definition) = [⟨"leaky", Schema.leaky⟩] :=
    Except.ok.inj heval
  obtain ⟨order, hperm, horder⟩ := resolve_replay hr
  rw [hpending] at hperm
  have hperm : order.Perm [fooUser, bareFoo] :=
    (List.perm_cons _).mp ((List.perm_append_singleton _ order).symm.trans hperm)
  refine ⟨r, hr, hpending, ?_⟩
  rcases List.perm_pair.mp hperm with rfl | rfl
  · -- the record does not parse before the type in its field
    have hstuck : (parseInTurn Schema.parse .empty [fooUser, bareFoo]).isSome = false := by
      decide +kernel
    rw [horder] at hstuck
    cases hstuck
  · exact horder

end AvroLink.Resolve
