import Mathlib.Data.List.Forall2
import AvroLink.Proofs.Alike
import AvroLink.Proofs.Sound

/-!
# Two walks side by side

One value is walked twice, on top of `N` and on top of `N'`. The scopes stay `Linked`: both walks
add the same names and have the same records open. `Agree` compares how two steps end. When every
name of `N` is in `N'`, the second walk fails alone only on a name that the first one defines and
`N'` already has, and the first one fails alone only where `N` lacks a name.
-/

namespace AvroLink

namespace Namespace

instance : HasSubset Namespace := ⟨fun a b => ∀ n, n ∈ a → n ∈ b⟩

end Namespace

/-- Failures that may go away when more names are known. -/
def ParseError.Cause.Curable (c : ParseError.Cause) : Prop :=
  (∃ n, c = .unknownType n) ∨ ∃ k, c = .invalidSchema (.repeatedBranch k)

namespace Schema

variable {α β : Type} {N N' : Namespace} {sc sc' : Scope} {space : Option String}

/-- What a reference that stands in `space` may be bound to on top of `N` and of `N'`: the same
name, or a simple name in the null namespace on one side and in `space` on the other, when only the
other side had the latter to begin with. -/
def Bound (N N' : Namespace) (space : Option String) (n m : FullName) : Prop :=
  n = m ∨ ∃ ns, space = some ns ∧ n.name = m.name ∧
    (n.space = none ∧ m.space = some ns ∧ m ∈ N' ∧ m ∉ N ∨
      n.space = some ns ∧ m.space = none ∧ n ∈ N ∧ n ∉ N')

theorem Bound.eq {n m : FullName} (h : Bound N N' space n m) (hs : N ⊆ N') (hs' : N' ⊆ N) :
    n = m := by
  rcases h with h | ⟨ns, -, -, ⟨-, -, hm, hn⟩ | ⟨-, -, hm, hn⟩⟩
  · exact h
  · exact absurd (hs' m hm) hn
  · exact absurd (hs n hm) hn

/-- Entries of the same name that hold the same schema but for references. -/
def EntryAlike (N N' : Namespace) (e e' : Entry) : Prop :=
  e.1 = e'.1 ∧ Alike (Bound N N') none e.2 e'.2

/-- Scopes of two walks on top of `N` and `N'` that have done the same. -/
structure Linked (N N' : Namespace) (sc sc' : Scope) : Prop where
  opened : sc'.opened = sc.opened
  added : ∃ new new', sc.types.entries = N.entries ++ new ∧ sc'.types.entries = N'.entries ++ new' ∧
    List.Forall₂ (EntryAlike N N') new new'
  apart : ∀ n ∈ sc.opened, n ∉ N ∧ n ∉ N'

theorem names_eq_of_entries {a b : Namespace} {new : List Entry}
    (h : b.entries = a.entries ++ new) :
    b.names = a.names ++ new.map Prod.fst := by
  simp [Namespace.names, h]

theorem EntryAlike.names {new new' : List Entry} (h : List.Forall₂ (EntryAlike N N') new new') :
    new'.map Prod.fst = new.map Prod.fst := by
  induction h with
  | nil => rfl
  | cons he _ ih => simp [ih, he.1]

namespace Linked

theorem refl (N N' : Namespace) : Linked N N' ⟨N, []⟩ ⟨N', []⟩ :=
  ⟨rfl, ⟨[], [], by simp, by simp, .nil⟩, by simp⟩

theorem names (h : Linked N N' sc sc') :
    ∃ added, sc.types.names = N.names ++ added ∧ sc'.types.names = N'.names ++ added := by
  obtain ⟨new, new', he, he', hnew⟩ := h.added
  refine ⟨new.map Prod.fst, names_eq_of_entries he, ?_⟩
  rw [names_eq_of_entries he', EntryAlike.names hnew]

theorem mem_types (h : Linked N N' sc sc') {n : FullName} :
    (n ∈ sc.types ↔ n ∈ N) ∧ (n ∈ sc'.types ↔ n ∈ N') ∨
      n ∈ sc.types ∧ n ∈ sc'.types ∧ n ∉ N ∧ n ∉ N' := by
  obtain ⟨added, hn, hn'⟩ := h.names
  have hd := sc.types.names_nodup
  have hd' := sc'.types.names_nodup
  rw [hn, List.nodup_append] at hd
  rw [hn', List.nodup_append] at hd'
  have hm : n ∈ sc.types ↔ n ∈ N ∨ n ∈ added := by
    change n ∈ sc.types.names ↔ _
    rw [hn, List.mem_append]
    rfl
  have hm' : n ∈ sc'.types ↔ n ∈ N' ∨ n ∈ added := by
    change n ∈ sc'.types.names ↔ _
    rw [hn', List.mem_append]
    rfl
  by_cases ha : n ∈ added
  · refine .inr ⟨hm.mpr (.inr ha), hm'.mpr (.inr ha), fun hN => ?_, fun hN => ?_⟩
    · exact hd.2.2 n hN n ha rfl
    · exact hd'.2.2 n hN n ha rfl
  · exact .inl ⟨by simp [hm, ha], by simp [hm', ha]⟩

/-- A name is known to both walks, or exactly when its side had it to begin with. -/
theorem visible (h : Linked N N' sc sc') (n : FullName) :
    (sc.Visible n ↔ n ∈ N) ∧ (sc'.Visible n ↔ n ∈ N') ∨
      sc.Visible n ∧ sc'.Visible n ∧ n ∉ N ∧ n ∉ N' := by
  unfold Scope.Visible
  rw [h.opened]
  by_cases ho : n ∈ sc.opened
  · exact .inr ⟨.inr ho, .inr ho, h.apart n ho⟩
  · simpa only [ho, or_false] using h.mem_types

theorem enter (h : Linked N N' sc sc') {n : FullName} (hn : n ∉ N) (hn' : n ∉ N') :
    Linked N N' (sc.enter n) (sc'.enter n) where
  opened := congrArg (n :: ·) h.opened
  added := h.added
  apart m hm := by
    rcases List.mem_cons.mp hm with rfl | hm
    · exact ⟨hn, hn'⟩
    · exact h.apart m hm

theorem close (h : Linked N N' sc sc') : Linked N N' sc.close sc'.close where
  opened := congrArg List.tail h.opened
  added := h.added
  apart n hn := h.apart n (List.mem_of_mem_tail hn)

end Linked

/-! ## How two steps end -/

/-- How the steps `m` and `m'` of two walks on top of `N` and `N'` end in the scopes `sc` and `sc'`.
-/
def Agree (N N' : Namespace) (R : α → α → Prop) (m m' : Walk α) (sc sc' : Scope) : Prop :=
  match m sc, m' sc' with
  | (.ok a, s), (.ok b, s') => R a b ∧ Linked N N' s s'
  | (.ok _, s), (.error e, _) =>
    N ⊆ N' → ∃ n, e.cause = .duplicateName n ∧ n ∈ s.types ∧ n ∈ N' ∧ n ∉ N
  | (.error e, _), (.ok _, _) => N ⊆ N' → ¬ N' ⊆ N ∧ e.cause.Curable
  | (.error e, s), (.error e', s') => N ⊆ N' → N' ⊆ N → e.cause = e'.cause ∧ Linked N N' s s'

/-- A step that forgets no type. -/
def Keeps (m : Walk α) : Prop := ∀ sc n, n ∈ sc.types → n ∈ (m sc).2.types

namespace Keeps

theorem of_leaves {m : Walk α} (h : ∀ sc, Leaves sc (m sc).2) : Keeps m := by
  intro sc n hn
  obtain ⟨new, hg⟩ := h sc
  exact hg.mem_types.mpr (.inl hn)

theorem of_quiet {Q : α → Prop} {m : Walk α} (h : Quiet m Q) : Keeps m := by
  intro sc n hn
  have := h sc
  unfold Ends at this
  split at this <;> simp_all

theorem of_sound {defs : α → List Schema} {refs : α → List FullName} {good : α → Prop} {m : Walk α}
    (h : Sound defs refs good m) : Keeps m := by
  refine .of_leaves fun sc => ?_
  have := h sc
  unfold Ends at this
  split at this
  · next hm => exact hm ▸ this.1.leaves
  · next hm => exact hm ▸ this

theorem pure (a : α) : Keeps (Pure.pure a : Walk α) := fun _ _ h => h

theorem fail (c : ParseError.Cause) (span : Option Span) : Keeps (Schema.fail c span : Walk α) :=
  fun _ _ h => h

theorem bind {m : Walk α} {k : α → Walk β} (hm : Keeps m) (hk : ∀ a, Keeps (k a)) :
    Keeps (m >>= k) := by
  intro sc n hn
  have := hm sc n hn
  rw [Walk.bind_apply]
  split
  · next h => exact hk _ _ n (by simpa only [h] using this)
  · next h => simpa only [h] using this

end Keeps

namespace Agree

variable {R : α → α → Prop} {R' : β → β → Prop} {m m' : Walk α}

theorem pure {a b : α} (h : R a b) (hl : Linked N N' sc sc') :
    Agree N N' R (Pure.pure a) (Pure.pure b) sc sc' := ⟨h, hl⟩

theorem fail {c : ParseError.Cause} {span span' : Option Span} (hl : Linked N N' sc sc') :
    Agree N N' R (Schema.fail c span) (Schema.fail c span') sc sc' := fun _ _ => ⟨rfl, hl⟩

theorem bind {k k' : α → Walk β} (hm : Agree N N' R m m' sc sc') (keeps : ∀ a, Keeps (k a))
    (hk : ∀ a b s s', m sc = (.ok a, s) → m' sc' = (.ok b, s') → R a b → Linked N N' s s' →
      Agree N N' R' (k a) (k' b) s s') :
    Agree N N' R' (m >>= k) (m' >>= k') sc sc' := by
  unfold Agree at hm
  split at hm
  · next h h' =>
    unfold Agree
    rw [Walk.bind_ok h, Walk.bind_ok h']
    exact hk _ _ _ _ h h' hm.1 hm.2
  · next a s e _ h h' =>
    -- the second walk has failed; the first one goes on and keeps the name in question
    unfold Agree
    rw [Walk.bind_ok h, Walk.bind_error h']
    have hkeep := keeps a s
    generalize k a s = r at hkeep ⊢
    rcases r with ⟨e' | b, s'⟩
    · intro hsub hsub'
      obtain ⟨n, _, _, hN', hN⟩ := hm hsub
      exact absurd (hsub' n hN') hN
    · intro hsub
      obtain ⟨n, hc, hn, hN⟩ := hm hsub
      exact ⟨n, hc, hkeep n hn, hN⟩
  · next b s' h h' =>
    unfold Agree
    rw [Walk.bind_error h, Walk.bind_ok h']
    rcases k' b s' with ⟨e' | c, _⟩
    · intro hsub hsub'
      exact absurd hsub' (hm hsub).1
    · exact hm
  · next h h' =>
    unfold Agree
    rw [Walk.bind_error h, Walk.bind_error h']
    exact hm

end Agree

end Schema

end AvroLink
