import Mathlib.Data.List.Duplicate
import AvroLink.Proofs.Batch
import AvroLink.Proofs.Order
import AvroLink.Run

/-!
# Collecting the types of a batch

The types collected for output are the registered ones, each once and under its renamed name.
Collecting fails exactly when two registered names are renamed to one, and the error tells it.
-/

namespace AvroLink

namespace Artifact

variable {remap : Remap} {done named : List (FullName × Schema)} {s : Schema} {ss : List Schema}
  {n : FullName} {e : DuplicateType}

/-- The named types among schemas, each under its renamed name. -/
def renamed (remap : Remap) (ss : List Schema) : List (FullName × Schema) :=
  ss.filterMap fun s => s.name?.map fun n => (remap.applyName n, s)

theorem renamed_cons_none (hn : s.name? = none) : renamed remap (s :: ss) = renamed remap ss := by
  simp [renamed, hn]

theorem renamed_cons_some (hn : s.name? = some n) :
    renamed remap (s :: ss) = (remap.applyName n, s) :: renamed remap ss := by
  simp [renamed, hn]

theorem collectFrom_ok (h : collectFrom remap done ss = .ok named)
    (hdone : (done.map Prod.fst).Nodup) :
    named = done ++ renamed remap ss ∧ (named.map Prod.fst).Nodup := by
  induction ss generalizing done with
  | nil =>
    cases h
    exact ⟨by simp [renamed], hdone⟩
  | cons s ss ih =>
    rw [collectFrom] at h
    split at h
    · rename_i hn
      rw [renamed_cons_none hn]
      exact ih h hdone
    · rename_i n hn
      simp only at h
      split at h
      · cases h
      · rename_i hnew
        obtain ⟨he, hnd⟩ := ih h (by simpa using hdone.concat hnew)
        rw [renamed_cons_some hn, List.append_cons]
        exact ⟨he, hnd⟩

/-- Collecting stops at a renamed name that it has met before. -/
theorem collectFrom_error (h : collectFrom remap done ss = .error e) :
    ((done ++ renamed remap ss).map Prod.fst).Duplicate e.name := by
  induction ss generalizing done with
  | nil => cases h
  | cons s ss ih =>
    rw [collectFrom] at h
    split at h
    · rename_i hn
      rw [renamed_cons_none hn]
      exact ih h
    · rename_i n hn
      simp only at h
      rw [renamed_cons_some hn]
      split at h
      · rename_i hmem
        cases h
        rw [List.map_append, List.map_cons]
        have hfront := List.singleton_sublist.mpr hmem
        have hback := List.singleton_sublist.mpr (List.mem_cons_self (a := remap.applyName n)
          (l := (renamed remap ss).map Prod.fst))
        exact List.duplicate_iff_sublist.mpr (hfront.append hback)
      · rw [List.append_cons]
        exact ih h

end Artifact

theorem exists_ne_of_duplicate_map {α β : Type} {f : α → β} {l : List α} {y : β} (hl : l.Nodup)
    (h : (l.map f).Duplicate y) : ∃ a ∈ l, ∃ b ∈ l, a ≠ b ∧ f a = y ∧ f b = y := by
  induction l with
  | nil => exact absurd h (List.not_duplicate_nil y)
  | cons a l ih =>
    rw [List.nodup_cons] at hl
    rw [List.map_cons, List.duplicate_cons_iff] at h
    rcases h with ⟨ha, hy⟩ | h
    · obtain ⟨b, hb, hfb⟩ := List.mem_map.mp hy
      refine ⟨a, List.mem_cons_self, b, List.mem_cons_of_mem _ hb, ?_, ha, hfb⟩
      rintro rfl
      exact hl.1 hb
    · obtain ⟨b, hb, c, hc, hne, hfb, hfc⟩ := ih hl.2 h
      exact ⟨b, List.mem_cons_of_mem _ hb, c, List.mem_cons_of_mem _ hc, hne, hfb, hfc⟩

theorem map_fst_renamed (types : Namespace) (remap : Remap) :
    (types.entries.map fun e => (remap.applyName e.1, e.2)).map Prod.fst =
      types.names.map remap.applyName := by simp [Namespace.names]

namespace Resolve.Batch

variable {r : AvroResolution} {remap : Remap}

/-- The definitions of a batch with their renamed names are the registered types with theirs. -/
theorem renamed (h : Batch r) (remap : Remap) :
    (Artifact.renamed remap (r.resolved.flatMap Schema.definitions)).Perm
      (r.types.entries.map fun e => (remap.applyName e.1, e.2)) := by
  unfold Artifact.renamed
  refine (h.entries.symm.filterMap _).trans (.of_eq ?_)
  rw [List.filterMap_map, ← List.filterMap_eq_map]
  refine List.filterMap_congr fun e he => ?_
  simp only [Function.comp_apply, r.types.named e he, Option.map_some]

theorem collected (h : Batch r) {named : List (FullName × Schema)}
    (hn : Artifact.collectNamed r.resolved remap = .ok named) :
    (named.map Prod.fst).Nodup ∧
      named.Perm (r.types.entries.map fun e => (remap.applyName e.1, e.2)) := by
  obtain ⟨rfl, hnodup⟩ := Artifact.collectFrom_ok hn List.nodup_nil
  exact ⟨hnodup, h.renamed remap⟩

theorem duplicate (h : Batch r) {e : DuplicateType}
    (he : Artifact.collectNamed r.resolved remap = .error e) :
    ∃ n ∈ r.types, ∃ m ∈ r.types, n ≠ m ∧ remap.applyName n = e.name ∧
      remap.applyName m = e.name := by
  have hdup := Artifact.collectFrom_error he
  rw [List.nil_append, List.duplicate_iff_two_le_count,
    ((h.renamed remap).map Prod.fst).count_eq, map_fst_renamed,
    ← List.duplicate_iff_two_le_count] at hdup
  exact exists_ne_of_duplicate_map r.types.names_nodup hdup

theorem applyName_inj (h : Batch r) {named : List (FullName × Schema)}
    (hn : Artifact.collectNamed r.resolved remap = .ok named) {n m : FullName} (hnr : n ∈ r.types)
    (hmr : m ∈ r.types) (hnm : remap.applyName n = remap.applyName m) : n = m := by
  obtain ⟨hnodup, hperm⟩ := h.collected hn
  rw [(hperm.map Prod.fst).nodup_iff, map_fst_renamed] at hnodup
  exact List.inj_on_of_nodup_map hnodup hnr hmr hnm

end Resolve.Batch

namespace RunOptions

variable {o : RunOptions} {r : Resolve.AvroResolution} {ds : List Definition}

/-- Collecting the types that a run resolved gives each registered type once, under its renamed
name, unless two registered names are renamed to one; then it fails on such a name. -/
theorem collectNamed_covers (hr : o.resolve ds = .ok r) (remap : Remap) :
    (∀ named, Artifact.collectNamed r.resolved remap = .ok named →
      (named.map Prod.fst).Nodup ∧
        named.Perm (r.types.entries.map fun e => (remap.applyName e.1, e.2))) ∧
    (∀ e, Artifact.collectNamed r.resolved remap = .error e →
      ∃ n ∈ r.types, ∃ m ∈ r.types, n ≠ m ∧ remap.applyName n = e.name ∧
        remap.applyName m = e.name) ∧
    ((∃ e, Artifact.collectNamed r.resolved remap = .error e) ↔
      ∃ n ∈ r.types, ∃ m ∈ r.types, n ≠ m ∧ remap.applyName n = remap.applyName m) := by
  have batch := Resolve.resolveAvro_batch (mapError_ok hr)
  refine ⟨fun _ => batch.collected, fun _ => batch.duplicate, ?_, ?_⟩
  · rintro ⟨e, he⟩
    obtain ⟨n, hn, m, hm, hne, hen, hem⟩ := batch.duplicate he
    exact ⟨n, hn, m, hm, hne, hen.trans hem.symm⟩
  · rintro ⟨n, hn, m, hm, hne, hnm⟩
    cases h : Artifact.collectNamed r.resolved remap with
    | error e => exact ⟨e, rfl⟩
    | ok named => exact absurd (batch.applyName_inj h hn hm hnm) hne

/-- A record of the namespace `org`, with a type `Foo` of the namespace `ns` defined inside it. -/
def nestedFoo : Definition :=
  ⟨"nested", "\x7b\"type\":\"record\",\"name\":\"org.R\",\"fields\":[\x7b\"name\":\"f\"," ++
    "\"type\":\x7b\"type\":\"fixed\",\"name\":\"ns.Foo\",\"size\":2\x7d\x7d]\x7d"⟩

/-- The types of the sample batch, in the order in which they are registered. -/
def nestedNames : List FullName := [⟨some "ns", "Foo"⟩, ⟨some "org", "R"⟩, ⟨some "ns", "R"⟩]

/-- Three types of two definitions, the first of which waits for the second. Renaming `ns` keeps
them apart, and renaming `org` to `ns` makes one name of two. -/
theorem collectNamed_covers_nested : ∃ r named e,
    RunOptions.resolve ⟨.empty, none⟩ [Resolve.fooUser, nestedFoo] = .ok r ∧
    r.types.names = nestedNames ∧
    Artifact.collectNamed r.resolved ⟨[("ns", "com")]⟩ = .ok named ∧
    (named.map Prod.fst).Perm [⟨some "com", "Foo"⟩, ⟨some "org", "R"⟩, ⟨some "com", "R"⟩] ∧
    Artifact.collectNamed r.resolved ⟨[("org", "ns")]⟩ = .error e ∧ e.name = ⟨some "ns", "R"⟩ := by
  have heval : (RunOptions.resolve ⟨.empty, none⟩ [Resolve.fooUser, nestedFoo]).toOption.map
      (fun r => r.types.names) = some nestedNames := by decide +kernel
  obtain ⟨r, hr, hnames⟩ := Option.map_eq_some_iff.mp heval
  have hr := ok_of_toOption hr
  have hmem : ∀ n, n ∈ r.types ↔ n ∈ r.types.names := fun _ => .rfl
  obtain ⟨hok, -, hiff⟩ := collectNamed_covers hr ⟨[("ns", "com")]⟩
  obtain ⟨-, herror, hiff'⟩ := collectNamed_covers hr ⟨[("org", "ns")]⟩
  simp only [hmem, hnames] at hiff herror hiff'
  obtain ⟨e, he⟩ := hiff'.mpr (by decide)
  cases hn : Artifact.collectNamed r.resolved ⟨[("ns", "com")]⟩ with
  | error e => exact absurd (hiff.mp ⟨e, hn⟩) (by decide)
  | ok named =>
    have hkeys := (hok named hn).2.map Prod.fst
    rw [map_fst_renamed, hnames] at hkeys
    refine ⟨r, named, e, hr, hnames, hn, hkeys, he, ?_⟩
    -- of the three registered names, only the two records are renamed to one
    have hclash : ∀ n ∈ nestedNames, ∀ m ∈ nestedNames, n ≠ m →
        Remap.applyName ⟨[("org", "ns")]⟩ n = Remap.applyName ⟨[("org", "ns")]⟩ m →
        Remap.applyName ⟨[("org", "ns")]⟩ n = ⟨some "ns", "R"⟩ := by decide
    obtain ⟨n, hn, m, hm, hne, hen, hem⟩ := herror e he
    exact hen.symm.trans (hclash n hn m hm hne (hen.trans hem.symm))

end RunOptions

end AvroLink
