import AvroLink.Proofs.Order
import AvroLink.Proofs.Rounds

/-!
# What a run costs

A run without a limit comes to its end whatever the parser does. Each pass but the last resolves
something, so a run over `n` definitions makes at most `n` passes and at most `n + … + 1` attempts,
which a chain of definitions in the wrong order needs.
-/

namespace AvroLink.Resolve

variable {σ ε α : Type} {parser : StatefulParser σ ε α} {ns : Namespace} {attempts : UInt32}
  {st st' : σ} {ds : List Definition} {rs : List (List Definition)} {r : Resolution ε α}

/-- What is counted of a run over `ds` after `attempts` attempts, whose passes start with `rs`
pending. -/
structure Resolution.Accounts (r : Resolution ε α) (attempts : UInt32) (ds : List Definition)
    (rs : List (List Definition)) : Prop where
  total : r.resolved.length + r.unresolved.length = ds.length
  order : (r.unresolved.map (·.definition)).Sublist ds
  passes : r.passes = rs.length
  attempts : r.attempts = attempts + .ofNat (rs.map List.length).sum

theorem Ran.accounts (h : Ran parser ns attempts st ds rs r st') : r.Accounts attempts ds rs := by
  induction h with
  | done => exact ⟨rfl, .slnil, rfl, by simp⟩
  | last _ _ accounts _ =>
    exact ⟨accounts.total, accounts.order, rfl, by simpa using accounts.attempts⟩
  | @next _ attempts _ _ _ ds rs p r _ accounts _ _ ih =>
    have htotal := accounts.total
    have hrest := ih.total
    rw [Pass.length_pending] at hrest
    refine ⟨?_, ih.order.trans accounts.order, congrArg (· + 1) ih.passes, ?_⟩
    · simp only [Resolution.after, List.length_append]
      omega
    · calc (r.after p).attempts
          = attempts + .ofNat ds.length + .ofNat (rs.map List.length).sum := by
            rw [← accounts.attempts]
            exact ih.attempts
        _ = attempts + .ofNat ((ds :: rs).map List.length).sum := by
            rw [List.map_cons, List.sum_cons, UInt32.ofNat_add, UInt32.add_assoc]

/-- A pass over `n` pending definitions before attempts that stay within the bound for fewer. -/
theorem triangle_step {m n made : Nat} (hlt : m < n) (h : 2 * made ≤ m * (m + 1)) :
    2 * (n + made) ≤ n * (n + 1) := by
  have hmul : m * (m + 1) ≤ (n - 1) * n := Nat.mul_le_mul (by omega) (by omega)
  have hn : (n - 1 + 2) * n = (n - 1) * n + 2 * n := Nat.add_mul (n - 1) 2 n
  rw [show n - 1 + 2 = n + 1 by omega, Nat.mul_comm] at hn
  omega

theorem Ran.length_rounds (h : Ran parser ns attempts st ds rs r st') : rs.length ≤ ds.length := by
  induction h with
  | done => exact Nat.le_refl 0
  | last pending _ _ _ => exact List.length_pos_of_ne_nil pending
  | next _ _ progress _ ih =>
    rw [Pass.length_pending] at ih
    rw [List.length_cons]
    omega

theorem Ran.le_sum_rounds (h : Ran parser ns attempts st ds rs r st') :
    ds.length ≤ (rs.map List.length).sum := by
  cases h with
  | done => exact Nat.le_refl 0
  | last | next => simp

theorem Ran.sum_rounds_le (h : Ran parser ns attempts st ds rs r st') :
    2 * (rs.map List.length).sum ≤ ds.length * (ds.length + 1) := by
  induction h with
  | done => exact Nat.le_refl 0
  | @last _ _ _ _ ds _ pending _ _ _ =>
    exact triangle_step (List.length_pos_of_ne_nil pending) (Nat.zero_le 0)
  | next _ _ progress _ ih =>
    rw [Pass.length_pending] at ih
    exact triangle_step progress ih

/-- Whatever the parser answers, also when it answers differently the next time, a run without a
limit comes to its end. It tells how often it attempted a definition, as long as that fits the
counter, and accounts for every definition. -/
theorem resolveFrom_accounts (parser : StatefulParser σ ε α) (ds : List Definition)
    (seed : Namespace) (st : σ) :
    ∃ r st', resolveFrom parser none ds seed st = (.ok r, st') ∧
      (∀ p : Parser ε α, parser = stateless p → resolve p none ds seed = .ok r) ∧
      r.resolved.length + r.unresolved.length = ds.length ∧
      (r.unresolved.map (·.definition)).Sublist ds ∧
      r.passes = (rounds parser none seed 0 st ds).length ∧ r.passes ≤ ds.length ∧
      r.attempts = .ofNat (attemptsMade parser seed st ds) ∧
      ds.length ≤ attemptsMade parser seed st ds ∧
      attemptsMade parser seed st ds ≤ ds.length * (ds.length + 1) / 2 ∧
      (ds.length * (ds.length + 1) / 2 < 2 ^ 32 →
        r.attempts.toNat = attemptsMade parser seed st ds) := by
  obtain ⟨r, st', hr, hran⟩ := exists_ran parser seed 0 st ds
  have haccounts := hran.accounts
  have hmade : attemptsMade parser seed st ds ≤ ds.length * (ds.length + 1) / 2 := by
    have := hran.sum_rounds_le
    rw [attemptsMade]
    omega
  have hattempts : r.attempts = .ofNat (attemptsMade parser seed st ds) := by
    rw [haccounts.attempts, UInt32.zero_add, attemptsMade]
  refine ⟨r, st', hr, ?_, haccounts.total, haccounts.order, haccounts.passes,
    haccounts.passes ▸ hran.length_rounds, hattempts, hran.le_sum_rounds, hmade, fun hbound => ?_⟩
  · rintro p rfl
    exact congrArg Prod.fst ((resolveFrom_stateless p none ds seed st).symm.trans hr)
  · rw [hattempts, UInt32.toNat_ofNat_of_lt' (Nat.lt_of_le_of_lt hmade hbound)]

/-- An array of the records of `fooUser`, before these and the type in their fields. -/
def chain : List Definition :=
  [⟨"users", "\x7b\"type\":\"array\",\"items\":\"ns.R\"\x7d"⟩, fooUser, bareFoo]

/-- Each pass over the chain resolves the last definition that is pending: no run over three
definitions takes more passes or attempts. -/
theorem resolveAvro_accounts_chain : ∃ r, resolveAvro none chain .empty = .ok r ∧
    r.resolved.length + r.unresolved.length = 3 ∧ r.passes = 3 ∧ r.attempts.toNat = 6 := by
  obtain ⟨r, -, -, hr, htotal, -, hpasses, -, -, -, -, hattempts⟩ :=
    resolveFrom_accounts (stateless Schema.parse) chain .empty ()
  have hrounds : (rounds (stateless Schema.parse) none .empty 0 () chain).map List.length =
      [3, 2, 1] := by decide +kernel
  refine ⟨r, hr _ rfl, htotal, ?_, ?_⟩
  · rw [hpasses, ← List.length_map, hrounds]
    rfl
  · rw [hattempts (by decide), attemptsMade, hrounds]
    rfl

end AvroLink.Resolve
