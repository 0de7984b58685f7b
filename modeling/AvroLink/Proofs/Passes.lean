import AvroLink.Resolve.Basic

/-!
# The steps of a run

`Attempted` and `Swept` tell a pass and a run step by step, together with the definitions that they
commit, in the order in which they commit them. They hold exactly where `pass` and `sweep` succeed
(`pass_eq_ok`, `sweep_eq_ok`), so that whatever is said of a run is said by induction on its steps.
-/

namespace AvroLink.Resolve

variable {ε α : Type} {parser : Parser ε α} {limit : Option UInt32} {ns ns' : Namespace}
  {attempts : UInt32} {d : Definition} {ds committed : List Definition}

/-- Definitions that are still pending, without the errors. -/
def Pass.pending (p : Pass ε α) : List Definition := p.failed.map (·.definition)

@[simp] theorem Pass.length_pending (p : Pass ε α) : p.pending.length = p.failed.length :=
  List.length_map _

/-- A pass over `ds` from `ns` after `attempts` attempts, which commits `committed`. -/
inductive Attempted (parser : Parser ε α) (limit : Option UInt32) :
    Namespace → UInt32 → List Definition → List Definition → Pass ε α → Prop where
  | nil (ns : Namespace) (attempts : UInt32) :
    Attempted parser limit ns attempts [] [] ⟨[], [], ns, attempts⟩
  | committed {ns ns' : Namespace} {attempts : UInt32} {d : Definition}
    {ds committed : List Definition} {a : α} {p : Pass ε α}
    (fuel : ∀ l ∈ limit, attempts < l) (head : parser d.content ns = (.ok a, ns'))
    (tail : Attempted parser limit ns' (attempts + 1) ds committed p) :
    Attempted parser limit ns attempts (d :: ds) (d :: committed)
      { p with resolved := a :: p.resolved }
  | rolledBack {ns : Namespace} {attempts : UInt32} {d : Definition}
    {ds committed : List Definition} {e : ε} {p : Pass ε α}
    (fuel : ∀ l ∈ limit, attempts < l) (head : (parser d.content ns).1 = .error e)
    (tail : Attempted parser limit ns (attempts + 1) ds committed p) :
    Attempted parser limit ns attempts (d :: ds) committed { p with failed := ⟨d, e⟩ :: p.failed }

/-- The passes of a run over `ds` from `ns` after `attempts` attempts, which commits `committed`. -/
inductive Swept (parser : Parser ε α) (limit : Option UInt32) :
    Namespace → UInt32 → List Definition → List Definition → Resolution ε α → Prop where
  | done (ns : Namespace) (attempts : UInt32) :
    Swept parser limit ns attempts [] [] ⟨[], [], ns, 0, attempts⟩
  | last {ns : Namespace} {attempts : UInt32} {ds committed : List Definition} {p : Pass ε α}
    (pending : ds ≠ []) (pass : Attempted parser limit ns attempts ds committed p)
    (stuck : ds.length ≤ p.failed.length) :
    Swept parser limit ns attempts ds committed ⟨p.resolved, p.failed, p.types, 1, p.attempts⟩
  | next {ns : Namespace} {attempts : UInt32} {ds committed committed' : List Definition}
    {p : Pass ε α} {r : Resolution ε α} (pass : Attempted parser limit ns attempts ds committed p)
    (progress : p.failed.length < ds.length)
    (rest : Swept parser limit p.types p.attempts p.pending committed' r) :
    Swept parser limit ns attempts ds (committed ++ committed')
      { r with resolved := p.resolved ++ r.resolved, passes := r.passes + 1 }

theorem attempt_committed {a : α} :
    attempt parser d ns = (.committed a, ns') ↔ parser d.content ns = (.ok a, ns') := by
  unfold attempt
  split <;> simp_all

theorem attempt_rolledBack {e : ε} :
    attempt parser d ns = (.rolledBack e, ns') ↔
      (parser d.content ns).1 = .error e ∧ ns = ns' := by
  unfold attempt
  split <;> simp_all

theorem fuel_iff : limit.filter (· ≤ attempts) = none ↔ ∀ l ∈ limit, attempts < l := by
  simp [Option.filter_eq_none_iff]

theorem add_ofNat_succ (attempts : UInt32) (n : Nat) :
    attempts + .ofNat (n + 1) = attempts + 1 + .ofNat n := by
  rw [UInt32.ofNat_add, UInt32.add_comm (.ofNat n), UInt32.add_assoc]
  rfl

theorem bind_eq_ok {β γ : Type} {x : Except ε β} {f : β → Except ε γ} {c : γ} :
    (x >>= f) = .ok c ↔ ∃ b, x = .ok b ∧ f b = .ok c := by
  constructor
  · intro h
    cases x with
    | error e => cases h
    | ok b => exact ⟨b, rfl, h⟩
  · rintro ⟨b, rfl, h⟩
    exact h

theorem pass_eq_ok {p : Pass ε α} :
    pass parser limit ns attempts ds = .ok p ↔
      ∃ committed, Attempted parser limit ns attempts ds committed p := by
  constructor
  · intro h
    induction ds generalizing ns attempts p with
    | nil =>
      cases h
      exact ⟨[], .nil ns attempts⟩
    | cons d ds ih =>
      rw [pass] at h
      split at h
      · cases h
      · rename_i hl
        split at h
        · rename_i a ns' ha
          obtain ⟨q, hq, h⟩ := bind_eq_ok.mp h
          cases h
          obtain ⟨committed, hd⟩ := ih hq
          exact ⟨d :: committed, .committed (fuel_iff.mp hl) (attempt_committed.mp ha) hd⟩
        · rename_i e ns' he
          obtain ⟨herr, rfl⟩ := attempt_rolledBack.mp he
          obtain ⟨q, hq, h⟩ := bind_eq_ok.mp h
          cases h
          obtain ⟨committed, hd⟩ := ih hq
          exact ⟨committed, .rolledBack (fuel_iff.mp hl) herr hd⟩
  · rintro ⟨committed, h⟩
    induction h with
    | nil => rfl
    | committed fuel head _ ih =>
      rw [pass, fuel_iff.mpr fuel, attempt_committed.mpr head]
      simp only [ih]
      rfl
    | rolledBack fuel head _ ih =>
      rw [pass, fuel_iff.mpr fuel, attempt_rolledBack.mpr ⟨head, rfl⟩]
      simp only [ih]
      rfl

theorem swept_of_sweep {ns : Namespace} {attempts : UInt32} {ds : List Definition}
    {r : Resolution ε α} (h : sweep parser limit ns attempts ds = .ok r) :
    ∃ committed, Swept parser limit ns attempts ds committed r := by
  rw [sweep] at h
  split at h
  · rename_i he
    cases h
    cases List.isEmpty_iff.mp he
    exact ⟨[], .done ns attempts⟩
  · rename_i hne
    split at h
    · cases h
    · rename_i p hp
      obtain ⟨committed, hd⟩ := pass_eq_ok.mp hp
      split at h
      · rename_i hlt
        have : p.pending.length < ds.length := by simpa using hlt
        obtain ⟨q, hs, h⟩ := bind_eq_ok.mp h
        cases h
        have hs : sweep parser limit p.types p.attempts p.pending = .ok q := hs
        obtain ⟨committed', hq⟩ := swept_of_sweep hs
        exact ⟨committed ++ committed', .next hd hlt hq⟩
      · cases h
        exact ⟨committed, .last (fun he => hne (by simp [he])) hd (by omega)⟩
termination_by ds.length

theorem sweep_eq_ok {r : Resolution ε α} :
    sweep parser limit ns attempts ds = .ok r ↔
      ∃ committed, Swept parser limit ns attempts ds committed r := by
  refine ⟨swept_of_sweep, ?_⟩
  rintro ⟨committed, h⟩
  induction h with
  | done => rw [sweep]; rfl
  | last pending pass stuck =>
    rw [sweep, if_neg (by simpa using pending), pass_eq_ok.mpr ⟨_, pass⟩]
    simp only [if_neg (Nat.not_lt.mpr stuck)]
  | next pass progress _ ih =>
    have pending := List.ne_nil_of_length_pos (Nat.zero_lt_of_lt progress)
    rw [Pass.pending] at ih
    rw [sweep, if_neg (by simpa using pending), pass_eq_ok.mpr ⟨_, pass⟩]
    simp only [if_pos progress, ih]
    rfl

end AvroLink.Resolve
