import AvroLink.Proofs.Walk
import AvroLink.Proofs.WellFormed

/-!
# What a walk does to the namespace

A walk adds entries at the end of the namespace and closes every record that it opens, whether it
succeeds or fails (`Leaves`). When it succeeds, the new entries are the definitions of the schema
that it returns, each after those inside it, and every name that the schema refers to is registered
or belongs to a record that is still open (`Reads`).
-/

namespace AvroLink.Schema

/-- Every schema of a list stands after the definitions inside it, or they are in `seen`. -/
def InnerFirst (seen : List Schema) : List Schema → Prop
  | [] => True
  | s :: ss => (∀ d ∈ s.inner, d ∈ seen) ∧ InnerFirst (s :: seen) ss

theorem InnerFirst.mono {ss : List Schema} : ∀ {seen seen' : List Schema}, InnerFirst seen ss →
    (∀ s ∈ seen, s ∈ seen') → InnerFirst seen' ss := by
  induction ss with
  | nil => intros; trivial
  | cons s ss ih =>
    intro seen seen' h hsub
    refine ⟨fun d hd => hsub d (h.1 d hd), ih h.2 fun t ht => ?_⟩
    rcases List.mem_cons.mp ht with rfl | ht
    · exact List.mem_cons_self
    · exact List.mem_cons_of_mem _ (hsub t ht)

theorem InnerFirst.append {ss ts : List Schema} : ∀ {seen : List Schema}, InnerFirst seen ss →
    InnerFirst (ss ++ seen) ts → InnerFirst seen (ss ++ ts) := by
  induction ss with
  | nil => intro _ _ h; exact h
  | cons s ss ih =>
    intro seen h ht
    refine ⟨h.1, ih h.2 (ht.mono fun d hd => ?_)⟩
    simp only [List.cons_append, List.mem_cons, List.mem_append] at hd ⊢
    grind

abbrev Entry := FullName × Schema

/-- From `sc` to `sc'` the entries `new` were added and no record was left open. -/
structure Grows (sc sc' : Scope) (new : List Entry) : Prop where
  opened : sc'.opened = sc.opened
  entries : sc'.types.entries = sc.types.entries ++ new
  apart : ∀ e ∈ new, e.1 ∉ sc.opened
  innerFirst : InnerFirst [] (new.map Prod.snd)

namespace Grows

variable {a b c : Scope} {new new' : List Entry}

theorem refl (sc : Scope) : Grows sc sc [] := ⟨rfl, by simp, by simp, trivial⟩

theorem trans (h : Grows a b new) (h' : Grows b c new') : Grows a c (new ++ new') where
  opened := h'.opened.trans h.opened
  entries := by rw [h'.entries, h.entries, List.append_assoc]
  apart e he := by
    rcases List.mem_append.mp he with he | he
    · exact h.apart e he
    · exact h.opened ▸ h'.apart e he
  innerFirst := by
    rw [List.map_append]
    exact h.innerFirst.append (h'.innerFirst.mono (by simp))

theorem mem_types (h : Grows a b new) {n : FullName} :
    n ∈ b.types ↔ n ∈ a.types ∨ n ∈ new.map Prod.fst := by
  change n ∈ b.types.entries.map Prod.fst ↔ n ∈ a.types.entries.map Prod.fst ∨ _
  rw [h.entries, List.map_append, List.mem_append]

theorem visible (h : Grows a b new) {n : FullName} (hn : a.Visible n) : b.Visible n := by
  rcases hn with hn | hn
  · exact .inl (h.mem_types.mpr (.inl hn))
  · exact .inr (h.opened ▸ hn)

theorem not_mem_types (h : Grows a b new) {n : FullName} (fresh : ¬ a.Visible n)
    (apart : n ∉ new.map Prod.fst) : n ∉ b.types := by
  rw [h.mem_types]
  exact fun hm => hm.elim (fun hm => fresh (.inl hm)) apart

theorem not_mem_new (h : Grows a b new) {n : FullName} (hn : n ∈ a.types) :
    n ∉ new.map Prod.fst := by
  have hd := b.types.nodup
  rw [h.entries, List.map_append, List.nodup_append] at hd
  exact fun hm => hd.2.2 n hn n hm rfl

end Grows

/-- What a walk may leave behind, also when it fails. -/
def Leaves (sc sc' : Scope) : Prop := ∃ new, Grows sc sc' new

theorem Leaves.refl (sc : Scope) : Leaves sc sc := ⟨[], .refl sc⟩

theorem Leaves.trans {a b c : Scope} (h : Leaves a b) (h' : Leaves b c) : Leaves a c := by
  obtain ⟨_, h⟩ := h
  obtain ⟨_, h'⟩ := h'
  exact ⟨_, h.trans h'⟩

/-- A walk from `sc` to `sc'` that read something with the definitions `defs` and the references
`refs`. -/
def Reads (sc sc' : Scope) (defs : List Schema) (refs : List FullName) : Prop :=
  ∃ new, Grows sc sc' new ∧ (new.map Prod.snd).Perm defs ∧ ∀ n ∈ refs, sc'.Visible n

namespace Reads

variable {a b c : Scope} {defs defs' : List Schema} {refs refs' : List FullName}

theorem refl (sc : Scope) : Reads sc sc [] [] := ⟨[], .refl sc, by simp, by simp⟩

theorem trans (h : Reads a b defs refs) (h' : Reads b c defs' refs') :
    Reads a c (defs ++ defs') (refs ++ refs') := by
  obtain ⟨new, hg, hp, hr⟩ := h
  obtain ⟨new', hg', hp', hr'⟩ := h'
  refine ⟨new ++ new', hg.trans hg', ?_, fun n hn => ?_⟩
  · rw [List.map_append]
    exact hp.append hp'
  · rcases List.mem_append.mp hn with hn | hn
    · exact hg'.visible (hr n hn)
    · exact hr' n hn

theorem leaves (h : Reads a b defs refs) : Leaves a b := let ⟨new, hg, _⟩ := h; ⟨new, hg⟩

end Reads

/-! ## Registration -/

theorem register_fresh (locate : Locate) {s : Schema} {n : FullName} {sc : Scope}
    (hs : s.name? = some n) (fresh : n ∉ sc.types) :
    ∃ types : Namespace, register locate s sc = (.ok s, ⟨types, sc.opened⟩) ∧
      types.entries = sc.types.entries ++ [(n, s)] := by
  refine ⟨sc.types.insert n s fresh hs, ?_, rfl⟩
  rw [register, Walk.get_bind, Namespace.register_eq hs, dif_neg fresh]
  rfl

theorem register_taken (locate : Locate) {s : Schema} {n : FullName} {sc : Scope}
    (hs : s.name? = some n) (taken : n ∈ sc.types) :
    register locate s sc = (.error ⟨.duplicateName n, locate n.name⟩, sc) := by
  rw [register, Walk.get_bind, Namespace.register_eq hs, dif_pos taken]
  rfl

/-- A definition is registered after what is inside it; nothing in between can have taken its
name. -/
theorem Grows.register (locate : Locate) {sc sc' : Scope} {new : List Entry} {s : Schema}
    {n : FullName} (h : Grows sc sc' new) (hs : s.name? = some n) (fresh : ¬ sc.Visible n)
    (apart : n ∉ new.map Prod.fst) (hi : ∀ d ∈ s.inner, d ∈ new.map Prod.snd) :
    ∃ types : Namespace, Schema.register locate s sc' = (.ok s, ⟨types, sc'.opened⟩) ∧
      Grows sc ⟨types, sc'.opened⟩ (new ++ [(n, s)]) := by
  obtain ⟨types, hreg, hent⟩ := register_fresh locate hs (h.not_mem_types fresh apart)
  refine ⟨types, hreg, h.opened, ?_, ?_, ?_⟩
  · rw [hent, h.entries, List.append_assoc]
  · intro e he
    rcases List.mem_append.mp he with he | he
    · exact h.apart e he
    · cases List.mem_singleton.mp he
      exact fun hm => fresh (.inr hm)
  · rw [List.map_append]
    exact h.innerFirst.append ⟨by simpa using hi, trivial⟩

/-- What was read inside a record counts for the scope around it, and leaves its name free. -/
theorem Grows.close {sc sc' : Scope} {name : FullName} {new : List Entry}
    (h : Grows (sc.enter name) sc' new) : Grows sc sc'.close new ∧ name ∉ new.map Prod.fst := by
  refine ⟨⟨?_, h.entries, ?_, h.innerFirst⟩, ?_⟩
  · simp [Scope.close, h.opened, Scope.enter]
  · exact fun e he hm => h.apart e he (List.mem_cons_of_mem _ hm)
  · intro hm
    obtain ⟨e, he, rfl⟩ := List.mem_map.mp hm
    exact h.apart e he List.mem_cons_self

end AvroLink.Schema
