import Mathlib.Data.List.Perm.Subperm
import Mathlib.Data.List.Nodup
import AvroLink.TypeScript.Fresh

/-!
# The first free name

The search for a free name tries one candidate after another. When the candidates differ from each
other it ends: of `taken.length + 1` candidates one is not taken, and the search stops at the first
such one (`IsFirstFree`).
-/

namespace AvroLink

theorem toString_injective : Function.Injective (toString : Nat → String) := by
  intro m n h
  have := congrArg (fun s : String => Nat.ofDigitChars 10 s.toList 0) h
  simpa using this

namespace TypeScript

variable {taken : List String} {candidate : Nat → String} {k n : Nat}

/-- The candidates before the `k`-th one are taken, and that one is not. -/
structure IsFirstFree (taken : List String) (candidate : Nat → String) (k : Nat) : Prop where
  free : candidate k ∉ taken
  first : ∀ j < k, candidate j ∈ taken

theorem le_length_of_taken (hc : Function.Injective candidate)
    (h : ∀ j < n, candidate j ∈ taken) : n ≤ taken.length := by
  have hd : ((List.range n).map candidate).Nodup := List.Nodup.map hc List.nodup_range
  have hsub : (List.range n).map candidate ⊆ taken := by
    intro s hs
    obtain ⟨j, hj, rfl⟩ := List.mem_map.mp hs
    exact h j (List.mem_range.mp hj)
  simpa using (hd.subperm hsub).length_le

/-- After `n` candidates that are taken, the fuel is as many as may still be. -/
theorem searchFree_spec (hc : Function.Injective candidate) (fuel n : Nat)
    (hfuel : taken.length = n + fuel) (h : ∀ j < n, candidate j ∈ taken) :
    ∃ k, searchFree taken candidate fuel n = candidate k ∧ IsFirstFree taken candidate k := by
  induction fuel generalizing n with
  | zero =>
    -- one candidate more than there are taken names
    refine ⟨n, rfl, fun ht => ?_, h⟩
    have := le_length_of_taken hc (Nat.forall_lt_succ_right.mpr ⟨h, ht⟩)
    omega
  | succ fuel ih =>
    rw [searchFree]
    split
    · next ht => exact ih (n + 1) (by omega) (Nat.forall_lt_succ_right.mpr ⟨h, ht⟩)
    · next ht => exact ⟨n, rfl, ht, h⟩

theorem firstFree_spec (taken : List String) (hc : Function.Injective candidate) :
    ∃ k, firstFree taken candidate = candidate k ∧ IsFirstFree taken candidate k :=
  searchFree_spec hc taken.length 0 (by simp) (by simp)

theorem toList_numbered_succ (base separator : String) (n : Nat) :
    (numbered base separator (n + 1)).toList =
      base.toList ++ (separator.toList ++ (toString (n + 2)).toList) := by
  simp [numbered]

theorem numbered_injective (base separator : String) :
    Function.Injective (numbered base separator) := by
  have hbase (n : Nat) : numbered base separator (n + 1) ≠ base := by
    intro h
    have h := congrArg String.toList h
    rw [toList_numbered_succ, List.append_right_eq_self] at h
    simp at h
  intro m n h
  cases m with
  | zero =>
    cases n with
    | zero => rfl
    | succ n => exact absurd h.symm (hbase n)
  | succ m =>
    cases n with
    | zero => exact absurd h (hbase m)
    | succ n =>
      have h := congrArg String.toList h
      rw [toList_numbered_succ, toList_numbered_succ] at h
      have h := List.append_cancel_left (List.append_cancel_left h)
      have := toString_injective (String.toList_inj.mp h)
      omega

end TypeScript

end AvroLink
