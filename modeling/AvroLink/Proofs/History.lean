import AvroLink.Proofs.Passes

/-!
# The history of a run

`InTurn parser ns ds outputs ns'` says that the definitions `ds` parse one after another, each
against the namespace that the one before it left. Behind every run stands its `History`: the
definitions that were committed, in the order in which they parse in turn, and those that are stuck
at the end.
-/

namespace AvroLink.Resolve

variable {ε α : Type} {parser : Parser ε α}

/-- Definitions that parse one after another, without a retry. -/
inductive InTurn (parser : Parser ε α) :
    Namespace → List Definition → List α → Namespace → Prop where
  | nil (ns : Namespace) : InTurn parser ns [] [] ns
  | cons {ns ns' ns'' : Namespace} {d : Definition} {ds : List Definition} {a : α} {as : List α}
    (head : parser d.content ns = (.ok a, ns')) (tail : InTurn parser ns' ds as ns'') :
    InTurn parser ns (d :: ds) (a :: as) ns''

namespace InTurn

variable {a b c : Namespace} {ds es : List Definition} {as bs : List α}

theorem append (h : InTurn parser a ds as b) (h' : InTurn parser b es bs c) :
    InTurn parser a (ds ++ es) (as ++ bs) c := by
  induction h with
  | nil => exact h'
  | cons head _ ih => exact .cons head (ih h')

theorem of_append (h : InTurn parser a (ds ++ es) as c) :
    ∃ xs ys b, as = xs ++ ys ∧ InTurn parser a ds xs b ∧ InTurn parser b es ys c := by
  induction ds generalizing a as with
  | nil => exact ⟨[], as, a, rfl, .nil a, h⟩
  | cons d ds ih =>
    cases h with
    | cons head tail =>
      obtain ⟨xs, ys, b, rfl, hx, hy⟩ := ih tail
      exact ⟨_ :: xs, ys, b, rfl, .cons head hx, hy⟩

theorem length (h : InTurn parser a ds as b) : as.length = ds.length := by
  induction h with
  | nil => rfl
  | cons _ _ ih => simp [ih]

end InTurn

/-- The outcome of parsing in turn, if every definition parses. -/
def parseInTurn (parser : Parser ε α) : Namespace → List Definition → Option (List α × Namespace)
  | ns, [] => some ([], ns)
  | ns, d :: ds =>
    match parser d.content ns with
    | (.ok a, ns') => (parseInTurn parser ns' ds).map fun (as, ns'') => (a :: as, ns'')
    | (.error _, _) => none

theorem parseInTurn_eq_some {ns ns' : Namespace} {ds : List Definition} {as : List α} :
    parseInTurn parser ns ds = some (as, ns') ↔ InTurn parser ns ds as ns' := by
  constructor
  · intro h
    induction ds generalizing ns as with
    | nil =>
      cases h
      exact .nil ns'
    | cons d ds ih =>
      rw [parseInTurn] at h
      split at h
      · rename_i hd
        obtain ⟨⟨xs, _⟩, hx, he⟩ := Option.map_eq_some_iff.mp h
        cases he
        exact .cons hd (ih hx)
      · cases h
  · intro h
    induction h with
    | nil => rfl
    | cons head _ ih => simp only [parseInTurn, head, ih, Option.map_some]

/-! ## One pass -/

/-- What a pass over `ds` from the namespace `ns` did. -/
structure Pass.Did (parser : Parser ε α) (ns : Namespace) (ds committed : List Definition)
    (p : Pass ε α) : Prop where
  inTurn : InTurn parser ns committed p.resolved p.types
  split : (committed ++ p.pending).Perm ds
  order : p.pending.Sublist ds
  stuck : committed = [] → ∀ u ∈ p.failed, (parser u.definition.content ns).1 = .error u.error

theorem Attempted.did {limit : Option UInt32} {ns : Namespace} {attempts : UInt32}
    {ds committed : List Definition} {p : Pass ε α}
    (h : Attempted parser limit ns attempts ds committed p) : p.Did parser ns ds committed := by
  induction h with
  | nil ns => exact ⟨.nil ns, .nil, .slnil, by simp⟩
  | committed _ head _ ih =>
    exact ⟨.cons head ih.inTurn, ih.split.cons _, ih.order.cons _, by simp⟩
  | rolledBack _ head _ ih =>
    refine ⟨ih.inTurn, List.perm_middle.trans (ih.split.cons _), ih.order.cons_cons _, ?_⟩
    intro hc u hu
    rcases List.mem_cons.mp hu with rfl | hu
    · exact head
    · exact ih.stuck hc u hu

theorem pass_unlimited (parser : Parser ε α) (ns : Namespace) (attempts : UInt32)
    (ds : List Definition) :
    ∃ p, pass parser none ns attempts ds = .ok p := by
  induction ds generalizing ns attempts with
  | nil => exact ⟨_, rfl⟩
  | cons d ds ih =>
    simp only [pass, Option.filter_none]
    split
    · rename_i ns' _
      obtain ⟨p, hp⟩ := ih ns' (attempts + 1)
      exact ⟨_, by rw [hp]; rfl⟩
    · rename_i ns' _
      obtain ⟨p, hp⟩ := ih ns' (attempts + 1)
      exact ⟨_, by rw [hp]; rfl⟩

/-! ## A run -/

/-- Each definition of a run, with the error that it is left with if it is left pending. The run
does not tell equal definitions apart. -/
def Resolution.Fates (r : Resolution ε α) (ds : List Definition)
    (fates : List (Definition × Option ε)) : Prop :=
  fates.map Prod.fst = ds ∧ r.unresolved = fates.filterMap fun f => f.2.map (Unresolved.mk f.1)

/-- What stands behind a run over `ds` from `seed`: definitions that parse in turn, and the pending
ones, which fail as recorded against the final namespace. -/
structure History (parser : Parser ε α) (seed : Namespace) (ds committed : List Definition)
    (r : Resolution ε α) : Prop where
  inTurn : InTurn parser seed committed r.resolved r.types
  split : (committed ++ r.unresolved.map (·.definition)).Perm ds
  order : (r.unresolved.map (·.definition)).Sublist ds
  stuck : ∀ u ∈ r.unresolved, (parser u.definition.content r.types).1 = .error u.error

theorem fates_of_sublist {us : List (Unresolved ε)} {ds : List Definition}
    (h : (us.map (·.definition)).Sublist ds) :
    ∃ fates : List (Definition × Option ε), fates.map Prod.fst = ds ∧
      us = fates.filterMap fun f => f.2.map (Unresolved.mk f.1) := by
  induction ds generalizing us with
  | nil =>
    cases List.map_eq_nil_iff.mp (List.sublist_nil.mp h)
    exact ⟨[], rfl, rfl⟩
  | cons d ds ih =>
    cases us with
    | nil =>
      have hnil : (([] : List (Unresolved ε)).map (·.definition)).Sublist ds := List.nil_sublist _
      obtain ⟨fates, hf, hu⟩ := ih hnil
      exact ⟨(d, none) :: fates, by simp [hf], by simpa using hu⟩
    | cons u us =>
      by_cases hd : u.definition = d ∧ (us.map (·.definition)).Sublist ds
      · obtain ⟨rfl, hs⟩ := hd
        obtain ⟨fates, hf, hu⟩ := ih hs
        exact ⟨(u.definition, some u.error) :: fates, by simp [hf], by simpa using hu⟩
      · have hs : ((u :: us).map (·.definition)).Sublist ds := by
          rw [List.map_cons] at h ⊢
          cases h with
          | cons _ h => exact h
          | cons_cons _ h => exact absurd ⟨rfl, h⟩ hd
        obtain ⟨fates, hf, hu⟩ := ih hs
        exact ⟨(d, none) :: fates, by simp [hf], by simpa using hu⟩

theorem History.fates {seed : Namespace} {ds committed : List Definition} {r : Resolution ε α}
    (h : History parser seed ds committed r) : ∃ fates, r.Fates ds fates :=
  fates_of_sublist h.order

theorem Resolution.Fates.committed {seed : Namespace} {ds committed : List Definition}
    {r : Resolution ε α} {fates : List (Definition × Option ε)} (hf : r.Fates ds fates)
    (h : History parser seed ds committed r) {d : Definition} (hd : (d, none) ∈ fates) :
    d ∈ committed := by
  obtain ⟨rfl, hu⟩ := hf
  have hpending : r.unresolved.map (·.definition) =
      (fates.filter fun f => f.2.isSome).map Prod.fst := by
    rw [hu]
    clear hu hd h
    induction fates with
    | nil => rfl
    | cons f fates ih => rcases f with ⟨x, _ | y⟩ <;> simp [ih]
  have hsplit := h.split
  rw [hpending] at hsplit
  have hperm : committed.Perm ((fates.filter fun f => !f.2.isSome).map Prod.fst) := by
    refine (List.perm_append_right_iff _).mp (hsplit.trans ?_)
    rw [← List.map_append]
    exact ((List.perm_append_comm.trans (List.filter_append_perm _ _)).map _).symm
  exact hperm.mem_iff.mpr (List.mem_map.mpr ⟨(d, none), by simpa using hd, rfl⟩)

/-- A run goes on with what a pass left pending. -/
theorem History.cons {ns : Namespace} {ds committed committed' : List Definition} {p : Pass ε α}
    {r : Resolution ε α} (hp : p.Did parser ns ds committed)
    (hr : History parser p.types p.pending committed' r) (passes : Nat) :
    History parser ns ds (committed ++ committed')
      { r with resolved := p.resolved ++ r.resolved, passes := passes } where
  inTurn := hp.inTurn.append hr.inTurn
  split := by
    rw [List.append_assoc]
    exact (hr.split.append_left committed).trans hp.split
  order := hr.order.trans hp.order
  stuck := hr.stuck

theorem Pass.Did.length {ns : Namespace} {ds committed : List Definition} {p : Pass ε α}
    (hp : p.Did parser ns ds committed) : committed.length + p.failed.length = ds.length := by
  simpa using hp.split.length_eq

theorem Pass.Did.committed_eq_nil {ns : Namespace} {ds committed : List Definition} {p : Pass ε α}
    (hp : p.Did parser ns ds committed) (h : ds.length ≤ p.failed.length) : committed = [] := by
  have := hp.length
  exact List.eq_nil_of_length_eq_zero (by omega)

theorem InTurn.of_nil {ns ns' : Namespace} {as : List α} (h : InTurn parser ns [] as ns') :
    as = [] ∧ ns' = ns := by
  cases h
  exact ⟨rfl, rfl⟩

/-- A pass that commits nothing ends the run. -/
theorem History.last {ns : Namespace} {ds : List Definition} {p : Pass ε α}
    (hp : p.Did parser ns ds []) (attempts : UInt32) :
    History parser ns ds [] ⟨p.resolved, p.failed, p.types, 1, attempts⟩ where
  inTurn := hp.inTurn
  split := hp.split
  order := hp.order
  stuck := by simpa only [hp.inTurn.of_nil.2] using hp.stuck rfl

theorem Swept.history {limit : Option UInt32} {ns : Namespace} {attempts : UInt32}
    {ds committed : List Definition} {r : Resolution ε α}
    (h : Swept parser limit ns attempts ds committed r) : History parser ns ds committed r := by
  induction h with
  | done ns => exact ⟨.nil ns, .nil, .slnil, by simp⟩
  | last _ pass stuck =>
    obtain rfl := pass.did.committed_eq_nil stuck
    exact .last pass.did _
  | next pass _ _ ih => exact .cons pass.did ih _

theorem sweep_unlimited (parser : Parser ε α) (ns : Namespace) (attempts : UInt32)
    (ds : List Definition) :
    ∃ r, sweep parser none ns attempts ds = .ok r := by
  rw [sweep]
  split
  · exact ⟨_, rfl⟩
  · obtain ⟨p, hp⟩ := pass_unlimited parser ns attempts ds
    rw [hp]
    simp only
    split
    · rename_i hlt
      have : (p.failed.map (·.definition)).length < ds.length := by simpa using hlt
      obtain ⟨r, hr⟩ := sweep_unlimited parser p.types p.attempts (p.failed.map (·.definition))
      exact ⟨_, by rw [hr]; rfl⟩
    · exact ⟨_, rfl⟩
termination_by ds.length

theorem resolve_history {limit : Option UInt32} {seed : Namespace} {ds : List Definition}
    {r : Resolution ε α} (h : resolve parser limit ds seed = .ok r) :
    ∃ committed, History parser seed ds committed r :=
  let ⟨committed, hs⟩ := sweep_eq_ok.mp h
  ⟨committed, hs.history⟩

theorem resolve_unlimited (parser : Parser ε α) (ds : List Definition) (seed : Namespace) :
    ∃ r, resolve parser none ds seed = .ok r := sweep_unlimited parser seed 0 ds

theorem InTurn.attempted {ns ns' : Namespace} {ds : List Definition} {as : List α}
    (h : InTurn parser ns ds as ns') (attempts : UInt32) :
    ∃ attempts', Attempted parser none ns attempts ds ds ⟨as, [], ns', attempts'⟩ := by
  induction h generalizing attempts with
  | nil ns => exact ⟨attempts, .nil ns attempts⟩
  | cons head _ ih =>
    obtain ⟨attempts', hp⟩ := ih (attempts + 1)
    exact ⟨attempts', .committed (by simp) head hp⟩

/-- Definitions that parse in turn as they are given are resolved in one pass. -/
theorem resolve_of_inTurn {seed ns : Namespace} {ds : List Definition} {as : List α}
    (h : InTurn parser seed ds as ns) :
    ∃ r, resolve parser none ds seed = .ok r ∧ r.resolved = as ∧ r.unresolved = [] ∧
      r.types = ns := by
  cases ds with
  | nil =>
    obtain ⟨rfl, rfl⟩ := h.of_nil
    exact ⟨_, sweep_eq_ok.mpr ⟨_, .done _ _⟩, rfl, rfl, rfl⟩
  | cons d ds =>
    obtain ⟨attempts, hp⟩ := h.attempted 0
    exact ⟨_, sweep_eq_ok.mpr ⟨_, .next hp (by simp) (.done _ _)⟩, by simp, rfl, rfl⟩

end AvroLink.Resolve
