import AvroLink.Proofs.Accounting
import AvroLink.Proofs.Fixpoint

/-!
# What a limit changes

A limit on the attempts only cuts a run off: a run with a limit goes step by step like the one
without, and either ends like it, when that makes no more attempts than the limit allows, or fails
at the first attempt beyond. The check stands before an attempt, so a run that needs exactly as many
attempts as it has is not cut off.
-/

namespace AvroLink.Resolve

variable {σ ε α : Type} {parser : StatefulParser σ ε α} {l : UInt32} {ns seed : Namespace}
  {attempts : UInt32} {st st' : σ} {ds : List Definition} {rs : List (List Definition)}
  {r : Resolution ε α}

theorem room_some {n : Nat} : Room (some l) attempts n ↔ attempts.toNat + n ≤ l.toNat := by
  simp [Room]

/-- Room for attempts in two parts. Below the limit the counter does not wrap. -/
theorem room_add {m n : Nat} :
    Room (some l) attempts (m + n) ↔
      Room (some l) attempts m ∧ Room (some l) (attempts + .ofNat m) n := by
  simp only [room_some]
  have hstep : attempts.toNat + m ≤ l.toNat →
      (attempts + .ofNat m).toNat = attempts.toNat + m := by
    intro hm
    have hmax := l.toNat_lt
    rw [UInt32.toNat_add, UInt32.toNat_ofNat']
    omega
  omega

/-! ## One pass -/

theorem passFrom_within (hroom : Room (some l) attempts ds.length) :
    passFrom parser (some l) ns attempts st ds = passFrom parser none ns attempts st ds := by
  induction ds generalizing ns attempts st with
  | nil => rfl
  | cons d ds ih =>
    obtain ⟨fuel, hroom⟩ := room_succ.mp hroom
    rw [passFrom, passFrom, fuel_iff.mpr fuel, Option.filter_none]
    simp only [ih hroom]

theorem passFrom_beyond (hroom : Room (some l) attempts 0)
    (hfull : ¬ Room (some l) attempts ds.length) :
    (passFrom parser (some l) ns attempts st ds).1 = .error ⟨l⟩ := by
  induction ds generalizing ns attempts st with
  | nil => exact absurd hroom hfull
  | cons d ds ih =>
    rw [passFrom]
    by_cases hlt : attempts < l
    · have fuel : ∀ l' ∈ some l, attempts < l' := by simpa using hlt
      have hnext : Room (some l) (attempts + 1) 0 := (room_succ.mp (room_one.mpr fuel)).2
      have hrest : ∀ ns st, (passFrom parser (some l) ns (attempts + 1) st ds).1 = .error ⟨l⟩ :=
        fun _ _ => ih hnext fun h => hfull (room_succ.mpr ⟨fuel, h⟩)
      rw [fuel_iff.mpr fuel]
      simp only [hrest]
      rfl
    · have hle : l ≤ attempts := UInt32.not_lt.mp hlt
      simp [Option.filter, hle]

/-! ## A run -/

theorem sweepFrom_error {limit : Option UInt32} {e : FuelExhausted} (pending : ds ≠ [])
    (h : (passFrom parser limit ns attempts st ds).1 = .error e) :
    (sweepFrom parser limit ns attempts st ds).1 = .error e := by
  rw [sweepFrom, if_neg (by simpa using pending)]
  split
  · rename_i e' st' hp
    rw [hp] at h
    cases h
    rfl
  · rename_i p st' hp
    rw [hp] at h
    cases h

theorem sweepFrom_next {limit : Option UInt32} {p : Pass ε α}
    (pass : passFrom parser limit ns attempts st ds = (.ok p, st'))
    (progress : p.failed.length < ds.length) :
    sweepFrom parser limit ns attempts st ds =
      (sweepFrom parser limit p.types p.attempts st' p.pending).map
        (Except.map (·.after p)) id := by
  have pending := List.ne_nil_of_length_pos (Nat.zero_lt_of_lt progress)
  rw [sweepFrom, if_neg (by simpa using pending), pass]
  simp only [if_pos progress]
  rfl

/-- A run without a limit is the run with any limit that has room for its attempts. -/
theorem Ran.within (h : Ran parser ns attempts st ds rs r st')
    (hroom : Room (some l) attempts (rs.map List.length).sum) :
    sweepFrom parser (some l) ns attempts st ds = (.ok r, st') := by
  induction h with
  | done => rw [sweepFrom]; rfl
  | last pending pass _ stuck =>
    rw [sweepFrom, if_neg (by simpa using pending), passFrom_within (by simpa using hroom), pass]
    simp only [if_neg (Nat.not_lt.mpr stuck)]
  | next pass accounts progress _ ih =>
    rw [List.map_cons, List.sum_cons, room_add, ← accounts.attempts] at hroom
    rw [sweepFrom_next ((passFrom_within hroom.1).trans pass) progress, ih hroom.2]
    rfl

/-- A run without a limit is cut off by any limit that has no room for its attempts. -/
theorem Ran.beyond (h : Ran parser ns attempts st ds rs r st') (hroom : Room (some l) attempts 0)
    (hfull : ¬ Room (some l) attempts (rs.map List.length).sum) :
    (sweepFrom parser (some l) ns attempts st ds).1 = .error ⟨l⟩ := by
  induction h with
  | done => exact absurd hroom hfull
  | last pending _ _ _ =>
    exact sweepFrom_error pending (passFrom_beyond hroom (by simpa using hfull))
  | @next _ attempts _ _ _ ds _ _ _ pass accounts progress _ ih =>
    rw [List.map_cons, List.sum_cons, room_add, ← accounts.attempts] at hfull
    by_cases hpass : Room (some l) attempts ds.length
    · have hnext := (room_add (n := 0)).mp hpass
      rw [← accounts.attempts] at hnext
      have hrest := ih hnext.2 fun h => hfull ⟨hpass, h⟩
      rw [sweepFrom_next ((passFrom_within hpass).trans pass) progress]
      simp only [Prod.map_fst, hrest]
      rfl
    · have pending := List.ne_nil_of_length_pos (Nat.zero_lt_of_lt progress)
      exact sweepFrom_error pending (passFrom_beyond hroom hpass)

/-- With a limit, a run ends as without one when the limit allows all of its attempts, and fails on
the limit otherwise. -/
theorem resolve_limit (parser : Parser ε α) (ds : List Definition) (seed : Namespace)
    (limit : UInt32) :
    ∃ r, resolve parser none ds seed = .ok r ∧
      r.attempts = .ofNat (attemptsMade (stateless parser) seed () ds) ∧
      resolve parser (some limit) ds seed =
        if attemptsMade (stateless parser) seed () ds ≤ limit.toNat then .ok r
        else .error ⟨limit⟩ := by
  obtain ⟨r, st', hr, hran⟩ := exists_ran (stateless parser) seed 0 () ds
  have hstateless : ∀ limit, resolve parser limit ds seed =
      (sweepFrom (stateless parser) limit seed 0 () ds).1 := fun limit =>
    (congrArg Prod.fst (resolveFrom_stateless parser limit ds seed ())).symm
  have hroom : ∀ n, Room (some limit) 0 n ↔ n ≤ limit.toNat := fun n => by simp [room_some]
  refine ⟨r, by rw [hstateless, hr], by rw [hran.accounts.attempts, UInt32.zero_add]; rfl, ?_⟩
  rw [hstateless]
  split
  · rename_i hle
    rw [hran.within ((hroom _).mpr hle)]
  · rename_i hlt
    exact hran.beyond ((hroom 0).mpr (Nat.zero_le _)) (mt (hroom _).mp hlt)

/-- The chain of three needs six attempts. A limit of six is enough for it, and one of five is not.
-/
theorem resolve_limit_chain : ∃ r, resolveAvro none chain .empty = .ok r ∧
    resolveAvro (some 6) chain .empty = .ok r ∧
    resolveAvro (some 5) chain .empty = .error ⟨5⟩ := by
  have hmade : attemptsMade (stateless Schema.parse) .empty () chain = 6 := by decide +kernel
  obtain ⟨r, hr, -, henough⟩ := resolve_limit Schema.parse chain .empty 6
  obtain ⟨_, -, -, hshort⟩ := resolve_limit Schema.parse chain .empty 5
  rw [hmade] at henough hshort
  exact ⟨r, hr, henough, hshort⟩

end AvroLink.Resolve
