import AvroLink.Proofs.WellFormed

/-!
# Schemas that differ in their references only

`Alike R space s t` says that `s` and `t` are the same but for references, and that two references
at the same place are related by `R`, which also gets the namespace around them: that of the record
whose fields they stand in. With equality for `R` the schemas are equal.
-/

namespace AvroLink.Schema

mutual

/-- Same schemas up to references, which are related by `R`. -/
def Alike (R : Option String → FullName → FullName → Prop) :
    Option String → Schema → Schema → Prop
  | _, primitive p, primitive q => p = q
  | space, logical l a, logical m b => l = m ∧ Alike R space a b
  | space, array a, array b => Alike R space a b
  | space, map a, map b => Alike R space a b
  | space, union as, union bs => BranchesAlike R space as bs
  | _, record g as, record h bs => g = h ∧ FieldsAlike R g.name.space as bs
  | _, enum a, enum b => a = b
  | _, fixed a, fixed b => a = b
  | space, ref a, ref b => R space a b
  | _, _, _ => False

def BranchesAlike (R : Option String → FullName → FullName → Prop) :
    Option String → List Schema → List Schema → Prop
  | _, [], [] => True
  | space, a :: as, b :: bs => Alike R space a b ∧ BranchesAlike R space as bs
  | _, _, _ => False

def FieldsAlike (R : Option String → FullName → FullName → Prop) :
    Option String → List (FieldOf Schema) → List (FieldOf Schema) → Prop
  | _, [], [] => True
  | space, ⟨n, d, a, v⟩ :: as, ⟨m, e, b, w⟩ :: bs =>
    n = m ∧ d = e ∧ v = w ∧ Alike R space a b ∧ FieldsAlike R space as bs
  | _, _, _ => False

end

variable {R R' : Option String → FullName → FullName → Prop}

namespace Alike

variable {space : Option String} {s t : Schema}

theorem name?_eq (h : Alike R space s t) : s.name? = t.name? := by
  cases s <;> cases t <;> simp only [Alike] at h <;> simp [name?, h]

theorem isUnion_eq (h : Alike R space s t) : s.isUnion = t.isUnion := by
  cases s <;> cases t <;> simp only [Alike] at h <;> rfl

theorem kind_eq : ∀ {s t : Schema}, Alike R space s t → s.kind = t.kind
  | logical _ a, t, h => by
    cases t <;> simp only [Alike] at h
    simp only [kind]
    exact kind_eq h.2
  | primitive _, t, h | array _, t, h | map _, t, h | union _, t, h | record _ _, t, h
  | enum _, t, h | fixed _, t, h | ref _, t, h => by
    cases t <;> simp only [Alike] at h
    simp [kind, h]

/-- Two schemas are both named, by names that are equal or related, or both of the same kind. -/
theorem title (h : Alike R space s t) :
    (s.title? = none ∧ t.title? = none ∧ s.kind = t.kind) ∨
      ∃ n m, s.title? = some n ∧ t.title? = some m ∧ (n = m ∨ R space n m) := by
  have hk := kind_eq h
  cases s <;> cases t <;> simp only [Alike] at h
  case record.record => exact .inr ⟨_, _, rfl, rfl, .inl (by rw [h.1])⟩
  case enum.enum => exact .inr ⟨_, _, rfl, rfl, .inl (by rw [h])⟩
  case fixed.fixed => exact .inr ⟨_, _, rfl, rfl, .inl (by rw [h])⟩
  case ref.ref => exact .inr ⟨_, _, rfl, rfl, .inr h⟩
  all_goals exact .inl ⟨rfl, rfl, hk⟩

end Alike

/-! ## Related by equality -/

mutual

theorem Alike.eq : ∀ {space : Option String} {s t : Schema},
    Alike (fun _ n m => n = m) space s t → s = t
  | _, primitive _, t, h => by cases t <;> simp only [Alike] at h; rw [h]
  | _, logical _ a, t, h => by
    cases t <;> simp only [Alike] at h
    rw [h.1, Alike.eq h.2]
  | _, array a, t, h => by cases t <;> simp only [Alike] at h; rw [Alike.eq h]
  | _, map a, t, h => by cases t <;> simp only [Alike] at h; rw [Alike.eq h]
  | _, union as, t, h => by cases t <;> simp only [Alike] at h; rw [BranchesAlike.eq h]
  | _, record g as, t, h => by
    cases t <;> simp only [Alike] at h
    rw [h.1, FieldsAlike.eq h.2]
  | _, enum _, t, h => by cases t <;> simp only [Alike] at h; rw [h]
  | _, fixed _, t, h => by cases t <;> simp only [Alike] at h; rw [h]
  | _, ref _, t, h => by cases t <;> simp only [Alike] at h; rw [h]

theorem BranchesAlike.eq : ∀ {space : Option String} {ss ts : List Schema},
    BranchesAlike (fun _ n m => n = m) space ss ts → ss = ts
  | _, [], ts, h => by cases ts <;> simp only [BranchesAlike] at h; rfl
  | _, s :: ss, ts, h => by
    cases ts <;> simp only [BranchesAlike] at h
    rw [Alike.eq h.1, BranchesAlike.eq h.2]

theorem FieldsAlike.eq : ∀ {space : Option String} {fs gs : List (FieldOf Schema)},
    FieldsAlike (fun _ n m => n = m) space fs gs → fs = gs
  | _, [], gs, h => by cases gs <;> simp only [FieldsAlike] at h; rfl
  | _, ⟨n, d, s, v⟩ :: fs, gs, h => by
    cases gs <;> simp only [FieldsAlike] at h
    obtain ⟨rfl, rfl, rfl, hs, hfs⟩ := h
    rw [Alike.eq hs, FieldsAlike.eq hfs]

end

/-! ## References of both sides -/

mutual

/-- Related references stand for related names of the two lists of references. -/
theorem Alike.mono : ∀ {space : Option String} {s t : Schema}, Alike R space s t →
    (∀ space, ∀ n ∈ s.refs, ∀ m ∈ t.refs, R space n m → R' space n m) → Alike R' space s t
  | _, primitive _, t, h, _ => by cases t <;> simp only [Alike] at h ⊢; exact h
  | _, logical _ a, t, h, hR => by
    cases t <;> simp only [Alike] at h ⊢
    exact ⟨h.1, Alike.mono h.2 hR⟩
  | _, array a, t, h, hR => by
    cases t <;> simp only [Alike] at h ⊢
    exact Alike.mono h hR
  | _, map a, t, h, hR => by
    cases t <;> simp only [Alike] at h ⊢
    exact Alike.mono h hR
  | _, union as, t, h, hR => by
    cases t <;> simp only [Alike] at h ⊢
    exact BranchesAlike.mono h hR
  | _, record g as, t, h, hR => by
    cases t <;> simp only [Alike] at h ⊢
    exact ⟨h.1, FieldsAlike.mono h.2 hR⟩
  | _, enum _, t, h, _ => by cases t <;> simp only [Alike] at h ⊢; exact h
  | _, fixed _, t, h, _ => by cases t <;> simp only [Alike] at h ⊢; exact h
  | _, ref _, t, h, hR => by
    cases t <;> simp only [Alike] at h ⊢
    exact hR _ _ (by simp [refs]) _ (by simp [refs]) h

theorem BranchesAlike.mono : ∀ {space : Option String} {ss ts : List Schema},
    BranchesAlike R space ss ts →
    (∀ space, ∀ n ∈ branchRefs ss, ∀ m ∈ branchRefs ts, R space n m → R' space n m) →
    BranchesAlike R' space ss ts
  | _, [], ts, h, _ => by cases ts <;> simp only [BranchesAlike] at h ⊢
  | _, s :: ss, ts, h, hR => by
    cases ts <;> simp only [BranchesAlike] at h ⊢
    refine ⟨Alike.mono h.1 ?_, BranchesAlike.mono h.2 ?_⟩
    all_goals
      intro space n hn m hm
      exact hR space n (by simp [branchRefs, hn]) m (by simp [branchRefs, hm])

theorem FieldsAlike.mono : ∀ {space : Option String} {fs gs : List (FieldOf Schema)},
    FieldsAlike R space fs gs →
    (∀ space, ∀ n ∈ fieldRefs fs, ∀ m ∈ fieldRefs gs, R space n m → R' space n m) →
    FieldsAlike R' space fs gs
  | _, [], gs, h, _ => by cases gs <;> simp only [FieldsAlike] at h ⊢
  | _, ⟨n, d, s, v⟩ :: fs, gs, h, hR => by
    cases gs <;> simp only [FieldsAlike] at h ⊢
    refine ⟨h.1, h.2.1, h.2.2.1, Alike.mono h.2.2.2.1 ?_, FieldsAlike.mono h.2.2.2.2 ?_⟩
    all_goals
      intro space n hn m hm
      exact hR space n (by simp [fieldRefs, hn]) m (by simp [fieldRefs, hm])

end

end AvroLink.Schema
