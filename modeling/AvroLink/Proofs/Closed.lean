import AvroLink.Proofs.Order
import AvroLink.Proofs.Registration
import AvroLink.Proofs.Within

/-!
# No dangling references

While a record is open, types inside it may refer to it before it is registered, and a document that
fails then leaves such types behind. A parse that succeeds closes every record, and the changes of
one that fails are dropped: so a namespace without dangling references stays without, along a run
and along any sequence of attempts.
-/

namespace AvroLink

namespace Namespace

/-- Every name that one of the schemas refers to is registered. -/
def Covers (ns : Namespace) (ss : List Schema) : Prop := ∀ s ∈ ss, ∀ n ∈ s.refs, n ∈ ns

instance (ns : Namespace) (ss : List Schema) : Decidable (ns.Covers ss) :=
  inferInstanceAs (Decidable (∀ s ∈ ss, ∀ n ∈ s.refs, n ∈ ns))

/-- No entry has a dangling reference. -/
def Closed (ns : Namespace) : Prop := ns.Covers (ns.entries.map Prod.snd)

instance (ns : Namespace) : Decidable ns.Closed :=
  inferInstanceAs (Decidable (ns.Covers _))

theorem closed_empty : empty.Closed := by simp [Closed, Covers, empty]

end Namespace

namespace Resolve

variable {ε α : Type} {parser : Parser ε α} {N M seed : Namespace} {d : Definition} {s : Schema}
  {ds : List Definition} {as : List Schema}

/-- A successful parse leaves no dangling reference: what it registers are the definitions of its
schema, and all their references are references of the schema. -/
theorem parse_closed (hN : N.Closed) (h : Schema.parse d.content N = (.ok s, M)) : M.Closed := by
  obtain ⟨⟨new, hg, hperm, -⟩, hw⟩ := Schema.parse_reads h
  intro t ht n hn
  rw [hg.entries, List.map_append, List.mem_append] at ht
  rcases ht with ht | ht
  · exact hg.mem_types.mpr (.inl (hN t ht n hn))
  · have hin := Schema.within_of_mem hw (hperm.mem_iff.mp ht)
    exact mem_of_refs h (hin.refs n hn)

theorem InTurn.closed (h : InTurn Schema.parse N ds as M) (hN : N.Closed) :
    M.Closed ∧ M.Covers as := by
  induction h with
  | nil => exact ⟨hN, by simp [Namespace.Covers]⟩
  | cons head tail ih =>
    obtain ⟨hM, has⟩ := ih (parse_closed hN head)
    refine ⟨hM, fun t ht n hn => ?_⟩
    rcases List.mem_cons.mp ht with rfl | ht
    · exact tail.mem_types.mpr (.inl (mem_of_refs head hn))
    · exact has t ht n hn

/-! ## Attempts -/

/-- Attempt definitions one after another, each in the namespace that the one before it left. -/
def attempts (parser : Parser ε α) :
    Namespace → List Definition → List (Attempt ε α) × Namespace
  | ns, [] => ([], ns)
  | ns, d :: ds =>
    let (a, ns') := attempt parser d ns
    let (as, ns'') := attempts parser ns' ds
    (a :: as, ns'')

/-- The output of an attempt that was committed. -/
def Attempt.output? : Attempt ε α → Option α
  | .committed a => some a
  | .rolledBack _ => none

/-- The definitions that were committed parse in turn: a failed attempt leaves no trace. -/
theorem attempts_inTurn (parser : Parser ε α) (ns : Namespace) (ds : List Definition) :
    ∃ committed, committed.Sublist ds ∧ InTurn parser ns committed
      ((attempts parser ns ds).1.filterMap Attempt.output?) (attempts parser ns ds).2 := by
  induction ds generalizing ns with
  | nil => exact ⟨[], .slnil, .nil ns⟩
  | cons d ds ih =>
    rcases ha : attempt parser d ns with ⟨a | e, ns'⟩ <;> simp only [attempts, ha]
    · obtain ⟨committed, hsub, hin⟩ := ih ns'
      exact ⟨d :: committed, hsub.cons_cons d, .cons (attempt_committed.mp ha) hin⟩
    · obtain ⟨-, rfl⟩ := attempt_rolledBack.mp ha
      obtain ⟨committed, hsub, hin⟩ := ih ns
      exact ⟨committed, hsub.cons d, hin⟩

/-- On top of a namespace without dangling references, no run and no sequence of attempts leaves
one: all references of the registered types and of the schemas that were read are registered. -/
theorem resolveAvro_closed (hseed : seed.Closed) (ds : List Definition) :
    (∀ limit r, resolveAvro limit ds seed = .ok r → r.types.Closed ∧ r.types.Covers r.resolved) ∧
    (attempts Schema.parse seed ds).2.Closed ∧
      (attempts Schema.parse seed ds).2.Covers
        ((attempts Schema.parse seed ds).1.filterMap Attempt.output?) := by
  refine ⟨fun limit r hr => ?_, ?_⟩
  · obtain ⟨committed, h⟩ := resolve_history hr
    exact h.inTurn.closed hseed
  · obtain ⟨committed, -, hin⟩ := attempts_inTurn Schema.parse seed ds
    exact hin.closed hseed

/-- A parse that fails does leave a dangling reference, and the run drops it. -/
theorem resolveAvro_closed_leaky : ∃ seed r,
    (Schema.parse bareFoo.content .empty).2 = seed ∧ ¬ (Schema.parse Schema.leaky seed).2.Closed ∧
    resolveAvro none [⟨"leaky", Schema.leaky⟩, fooUser] seed = .ok r ∧
    r.resolved.map Schema.refs = [[⟨none, "Foo"⟩]] ∧ r.types.Closed ∧ r.types.Covers r.resolved := by
  have hseed : (Schema.parse bareFoo.content .empty).2.Closed := by decide +kernel
  have hleaky : ¬ (Schema.parse Schema.leaky (Schema.parse bareFoo.content .empty).2).2.Closed := by
    decide +kernel
  have heval : (resolveAvro none [⟨"leaky", Schema.leaky⟩, fooUser]
      (Schema.parse bareFoo.content .empty).2).map (fun r => r.resolved.map Schema.refs) =
      .ok [[⟨none, "Foo"⟩]] := by decide +kernel
  obtain ⟨r, hr⟩ := resolve_unlimited Schema.parse [⟨"leaky", Schema.leaky⟩, fooUser]
    (Schema.parse bareFoo.content .empty).2
  have hr : resolveAvro none _ _ = .ok r := hr
  rw [hr] at heval
  exact ⟨_, r, rfl, hleaky, hr, Except.ok.inj heval, (resolveAvro_closed hseed _).1 none r hr⟩

end Resolve

end AvroLink
