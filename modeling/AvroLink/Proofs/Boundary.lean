import Mathlib.Data.String.Basic
import AvroLink.Text.Position

/-!
# Character boundaries

`Boundary cs i` says that the offset `i` lies between two characters of `cs` or at one of its ends.
`floorBoundary cs i` is the greatest boundary that is at most `i`. It is where a search ends that
starts at `i` and goes down byte by byte (`StepsDown`).
-/

namespace AvroLink.Text

variable {cs ds : List Char} {i j : Nat}

/-! ## Lengths -/

@[simp] theorem byteLen_append (cs ds : List Char) :
    byteLen (cs ++ ds) = byteLen cs + byteLen ds := by
  induction cs with
  | nil => simp [byteLen]
  | cons c cs ih => simp [byteLen, ih, Nat.add_assoc]

theorem byteLen_eq (cs : List Char) : byteLen cs = (String.ofList cs).utf8ByteSize := by
  induction cs with
  | nil => rfl
  | cons c cs ih =>
    rw [byteLen, ih, ← List.singleton_append, String.ofList_append, String.utf8ByteSize_append]
    simp

theorem byteLen_toList (s : String) : byteLen s.toList = s.utf8ByteSize := by
  rw [byteLen_eq, String.ofList_toList]

/-! ## Boundaries -/

/-- The offset lies between two characters, or at an end. -/
def Boundary (cs : List Char) (i : Nat) : Prop := ∃ a b, cs = a ++ b ∧ byteLen a = i

/-- These are the offsets at which a string can be cut. -/
theorem boundary_toList (s : String) (i : Nat) :
    Boundary s.toList i ↔ (String.Pos.Raw.mk i).IsValid s := by
  rw [String.Pos.Raw.isValid_iff_exists_append]
  constructor
  · rintro ⟨a, b, hab, rfl⟩
    refine ⟨String.ofList a, String.ofList b, String.toList_inj.mp (by simp [hab]), ?_⟩
    rw [byteLen_eq]
    rfl
  · rintro ⟨a, b, rfl, hi⟩
    refine ⟨a.toList, b.toList, String.toList_append, ?_⟩
    rw [byteLen_toList]
    exact (congrArg String.Pos.Raw.byteIdx hi).symm

namespace Boundary

theorem zero (cs : List Char) : Boundary cs 0 := ⟨[], cs, rfl, rfl⟩

theorem cons {c : Char} (h : Boundary cs i) : Boundary (c :: cs) (c.utf8Size + i) := by
  obtain ⟨a, b, rfl, rfl⟩ := h
  exact ⟨c :: a, b, rfl, rfl⟩

theorem le_byteLen (h : Boundary cs i) : i ≤ byteLen cs := by
  obtain ⟨a, b, rfl, rfl⟩ := h
  simp

theorem cases_cons {c : Char} (h : Boundary (c :: cs) i) :
    i = 0 ∨ ∃ j, Boundary cs j ∧ i = c.utf8Size + j := by
  obtain ⟨a, b, hab, rfl⟩ := h
  cases a with
  | nil => exact .inl rfl
  | cons d a =>
    obtain ⟨rfl, rfl⟩ := List.cons.inj hab
    exact .inr ⟨byteLen a, ⟨a, b, rfl, rfl⟩, rfl⟩

theorem max (hi : Boundary cs i) (hj : Boundary cs j) : Boundary cs (Max.max i j) := by
  rcases Nat.le_total i j with h | h
  · rwa [Nat.max_eq_right h]
  · rwa [Nat.max_eq_left h]

end Boundary

/-! ## The greatest boundary -/

theorem floorBoundary_boundary (cs : List Char) (i : Nat) : Boundary cs (floorBoundary cs i) := by
  induction cs generalizing i with
  | nil => exact .zero []
  | cons c cs ih =>
    simp only [floorBoundary]
    split
    · exact .zero _
    · exact (ih _).cons

theorem Boundary.le_floorBoundary (hj : Boundary cs j) (h : j ≤ i) : j ≤ floorBoundary cs i := by
  induction cs generalizing i j with
  | nil => exact hj.le_byteLen
  | cons c cs ih =>
    rcases hj.cases_cons with rfl | ⟨k, hk, rfl⟩
    · exact Nat.zero_le _
    · have hlt : ¬ i < c.utf8Size := by omega
      rw [floorBoundary, if_neg hlt]
      exact Nat.add_le_add_left (ih hk (by omega)) _

theorem Boundary.floorBoundary_eq (h : Boundary cs i) : floorBoundary cs i = i :=
  Nat.le_antisymm (floorBoundary_le cs i) (h.le_floorBoundary (Nat.le_refl i))

theorem floorBoundary_min (cs : List Char) (i : Nat) :
    floorBoundary cs (min i (byteLen cs)) = floorBoundary cs i := by
  apply Nat.le_antisymm
  · exact (floorBoundary_boundary cs _).le_floorBoundary
      (Nat.le_trans (floorBoundary_le cs _) (Nat.min_le_left _ _))
  · exact (floorBoundary_boundary cs i).le_floorBoundary
      (Nat.le_min.mpr ⟨floorBoundary_le cs i, floorBoundary_le_byteLen cs i⟩)

/-- From the offset `i` the search goes down byte by byte until it stands on the boundary `j`. -/
inductive StepsDown (cs : List Char) : Nat → Nat → Prop
  | stop {i : Nat} (h : Boundary cs i) : StepsDown cs i i
  | down {i j : Nat} (h : ¬ Boundary cs (i + 1)) (rest : StepsDown cs i j) : StepsDown cs (i + 1) j

/-- The search ends, at the latest at the beginning of the text. -/
theorem stepsDown_floorBoundary (cs : List Char) (i : Nat) :
    StepsDown cs i (floorBoundary cs i) := by
  induction i with
  | zero =>
    rw [(Boundary.zero cs).floorBoundary_eq]
    exact .stop (.zero cs)
  | succ i ih =>
    by_cases h : Boundary cs (i + 1)
    · rw [h.floorBoundary_eq]
      exact .stop h
    · have hfloor : floorBoundary cs (i + 1) ≤ i := by
        have hle := floorBoundary_le cs (i + 1)
        have hne : floorBoundary cs (i + 1) ≠ i + 1 := fun he =>
          h (he ▸ floorBoundary_boundary cs (i + 1))
        omega
      have hsame : floorBoundary cs (i + 1) = floorBoundary cs i := by
        apply Nat.le_antisymm
        · exact (floorBoundary_boundary cs (i + 1)).le_floorBoundary hfloor
        · exact (floorBoundary_boundary cs i).le_floorBoundary
            (Nat.le_succ_of_le (floorBoundary_le cs i))
      rw [hsame]
      exact .down h ih

/-! ## Parts of a text -/

theorem dropBytes_append (cs ds : List Char) : dropBytes (cs ++ ds) (byteLen cs) = ds := by
  induction cs with
  | nil => cases ds <;> simp [byteLen, dropBytes]
  | cons c cs ih =>
    have := c.utf8Size_pos
    have hne : byteLen (c :: cs) ≠ 0 := by simp only [byteLen]; omega
    rw [List.cons_append, dropBytes, if_neg hne, byteLen, Nat.add_sub_cancel_left, ih]

end AvroLink.Text
