import Mathlib.Data.List.Forall2
import AvroLink.Proofs.Collecting
import AvroLink.Proofs.FileText

/-!
# The files of a run refer to each other

Every import line of a generated file leads to exactly one file of the batch (`Leads`), the one that
declares the imported name. There is one import line for each other type that occurs in the fields
of the declared record.
-/

namespace AvroLink

namespace TypeScript

variable {config : Config} {remap : Remap} {types : List Schema} {artifacts : List Artifact}

theorem generate_ok (h : generate config types remap = .ok artifacts) :
    ∃ named, Artifact.collectNamed types remap = .ok named ∧
      artifacts = named.map fun e => emit config remap e.1 e.2 := by
  unfold generate at h
  cases hn : Artifact.collectNamed types remap with
  | error e => rw [hn] at h; cases h
  | ok named =>
    rw [hn] at h
    cases h
    exact ⟨named, rfl, rfl⟩

theorem Mentioned.sorted {sc : Scope} {seen : List FullName} (h : Mentioned sc seen) :
    ∃ links : List (FullName × String), sc.imports = links.map (importOf sc.self) ∧
      links.Perm sc.locals := by
  change Relation.Comp (· = List.map (importOf sc.self) ·) List.Perm sc.imports sc.locals
  rw [List.eq_map_comp_perm]
  exact h.imports

def directory (a : Artifact) : List String := (Path.pieces a.path).dropLast

/-- The import `i` in the file `a` leads to the file of `target`: to exactly one file of the batch,
which declares the imported name. -/
def Leads (artifacts : List Artifact) (a : Artifact) (target : FullName) (i : Import) : Prop :=
  ∃ steps b, follow (directory a) (Path.pieces i.path) = some steps ∧
    artifacts.filter (fun b => b.path = Text.joinWith "/" steps ++ ".ts") = [b] ∧
    b.path = filePath target ∧ declaredNames b = [i.exported]

theorem filter_key {α β : Type} [DecidableEq α] {l : List (α × β)} {k : α} {x : β}
    (hl : (l.map Prod.fst).Nodup) (hm : (k, x) ∈ l) : l.filter (fun e => e.1 = k) = [(k, x)] := by
  induction l with
  | nil => cases hm
  | cons e l ih =>
    rw [List.map_cons, List.nodup_cons] at hl
    rcases List.mem_cons.mp hm with rfl | hm
    · have hrest : l.filter (fun e => e.1 = k) = [] := by
        rw [List.filter_eq_nil_iff]
        intro e he hk
        exact hl.1 (List.mem_map.mpr ⟨e, he, of_decide_eq_true hk⟩)
      simp [hrest]
    · have hne : e.1 ≠ k := fun he => hl.1 (he ▸ List.mem_map_of_mem (f := Prod.fst) hm)
      simp [hne, ih hl.2 hm]

/-- What is emitted for a run: each registered type under its renamed name. -/
structure Emitted (r : Resolve.AvroResolution) (remap : Remap) (named : List (FullName × Schema)) :
    Prop where
  distinct : (named.map Prod.fst).Nodup
  mem : ∀ t s, (t, s) ∈ named ↔ ∃ n, (n, s) ∈ r.types.entries ∧ remap.applyName n = t
  valid : ∀ e ∈ named, e.1.Valid ∧ e.2.WellFormed ∧ e.2.name? ≠ none

namespace Emitted

variable {r : Resolve.AvroResolution} {named : List (FullName × Schema)} {t : FullName}
  {s : Schema}

theorem of_collectNamed (hr : remap.Valid) (batch : Resolve.Batch r)
    (h : Artifact.collectNamed r.resolved remap = .ok named) : Emitted r remap named := by
  obtain ⟨hdistinct, hperm⟩ := batch.collected h
  have hmem : ∀ t s, (t, s) ∈ named ↔ ∃ n, (n, s) ∈ r.types.entries ∧ remap.applyName n = t := by
    intro t s
    rw [hperm.mem_iff, List.mem_map]
    constructor
    · rintro ⟨⟨n, s⟩, hn, he⟩
      cases he
      exact ⟨n, hn, rfl⟩
    · rintro ⟨n, hn, rfl⟩
      exact ⟨(n, s), hn, rfl⟩
  refine ⟨hdistinct, hmem, fun ⟨t, s⟩ he => ?_⟩
  obtain ⟨n, hn, rfl⟩ := (hmem t s).mp he
  obtain ⟨hw, hv⟩ := batch.entry_wellFormed hn
  exact ⟨Remap.applyName_valid hr hv, hw, by rw [r.types.named _ hn]; simp⟩

theorem filter_path (h : Emitted r remap named) (hm : (t, s) ∈ named) :
    (named.map fun e => emit config remap e.1 e.2).filter (fun b => b.path = filePath t) =
      [emit config remap t s] := by
  have hpath : named.filter ((fun b => b.path = filePath t) ∘ fun e => emit config remap e.1 e.2) =
      named.filter fun e => e.1 = t := by
    refine List.filter_congr fun e he => decide_eq_decide.mpr ?_
    exact ⟨filePath_inj (h.valid e he).1 (h.valid _ hm).1, fun he => he ▸ rfl⟩
  rw [List.filter_map, hpath, filter_key h.distinct hm]
  rfl

theorem leads (h : Emitted r remap named) (hr : remap.Valid) {self : FullName} {d : Schema}
    (hself : (self, d) ∈ named) (hm : (t, s) ∈ named) (l : String) :
    Leads (named.map fun e => emit config remap e.1 e.2) (emit config remap self d) t
      (importOf self (t, l)) := by
  obtain ⟨ht, hw, hs⟩ := h.valid _ hm
  obtain ⟨sc, -, -, -, hdeclared⟩ := emit_spec config hr hs hw ht
  refine ⟨t.steps, emit config remap t s, ?_, ?_, rfl, hdeclared⟩
  · have hdir : directory (emit config remap self d) = self.segments :=
      directory_filePath (h.valid _ hself).1
    rw [hdir]
    exact follow_importPath self ht
  · rw [← filePath_eq]
    exact h.filter_path hm

end Emitted

end TypeScript

open TypeScript

namespace RunOptions

variable {o : RunOptions} {config : Config} {r : Resolve.AvroResolution}
  {artifacts : List Artifact} {entries : List String} {ds : List Definition}

theorem run_ok {p : Resolve.AvroResolution × List Artifact} (h : o.run config ds = .ok p) :
    o.resolve ds = .ok p.1 ∧ o.generate config p.1 = .ok p.2 := by
  unfold run at h
  cases hr : o.resolve ds with
  | error e => rw [hr] at h; cases h
  | ok r =>
    rw [hr] at h
    change (o.generate config r >>= fun as => pure (r, as)) = .ok p at h
    cases hg : o.generate config r with
    | error e => rw [hg] at h; cases h
    | ok as =>
      rw [hg] at h
      cases h
      exact ⟨rfl, hg⟩

theorem generate_emitted (hm : Remap.parse entries = .ok o.remap) (hr : o.resolve ds = .ok r)
    (hg : o.generate config r = .ok artifacts) : ∃ named, Emitted r o.remap named ∧
      artifacts = named.map fun e => emit config o.remap e.1 e.2 := by
  have batch := Resolve.resolveAvro_batch (mapError_ok hr)
  obtain ⟨named, hcollect, rfl⟩ := generate_ok (mapError_ok hg)
  exact ⟨named, .of_collectNamed (Remap.parse_valid hm) batch hcollect, rfl⟩

/-- Every import line of a generated file leads to the file of a type that occurs in the fields of
the declared record, and there is one for each such type but the declared one. -/
theorem generate_linked (hm : Remap.parse entries = .ok o.remap) (hr : o.resolve ds = .ok r)
    (hg : o.generate config r = .ok artifacts) :
    ∀ a ∈ artifacts, ∃ n s, (n, s) ∈ r.types.entries ∧
      a = emit config o.remap (o.remap.applyName n) s ∧
      ∃ (targets : List FullName) (imports : List Import), targets.Nodup ∧
        (∀ t, t ∈ targets ↔
          t ≠ o.remap.applyName n ∧ ∃ m ∈ s.fieldMentions, o.remap.applyName m = t) ∧
        (importLines a).map (· ++ "\n") = imports.map Import.line ∧
        List.Forall₂ (Leads artifacts a) targets imports := by
  have hremap := Remap.parse_valid hm
  have batch := Resolve.resolveAvro_batch (mapError_ok hr)
  obtain ⟨named, emitted, rfl⟩ := generate_emitted hm hr hg
  intro a ha
  obtain ⟨⟨self, s⟩, he, rfl⟩ := List.mem_map.mp ha
  obtain ⟨hself, hw, hs⟩ := emitted.valid _ he
  obtain ⟨n, hn, rfl⟩ := (emitted.mem self s).mp he
  obtain ⟨sc, hsc, hscself, himports, -⟩ := emit_spec config hremap hs hw hself
  obtain ⟨links, hlinks, hperm⟩ := hsc.sorted
  have hkeys := hperm.map Prod.fst
  have htargets : ∀ t, t ∈ links.map Prod.fst ↔
      t ≠ o.remap.applyName n ∧ ∃ m ∈ s.fieldMentions, o.remap.applyName m = t := by
    intro t
    rw [hkeys.mem_iff, hsc.known, hscself, List.mem_map, and_comm]
  refine ⟨n, s, hn, rfl, links.map Prod.fst, sc.imports, hkeys.nodup_iff.mpr hsc.distinct, htargets,
    himports, ?_⟩
  rw [hlinks, hscself, List.forall₂_map_left_iff, List.forall₂_map_right_iff, List.forall₂_same]
  intro ⟨t, l⟩ hl
  obtain ⟨-, m, hm, rfl⟩ := (htargets t).mp (List.mem_map_of_mem hl)
  obtain ⟨⟨_, d⟩, hd, rfl⟩ := List.mem_map.mp (batch.mentions hn hm)
  exact emitted.leads hremap he ((emitted.mem _ d).mpr ⟨_, hd, rfl⟩) l

def movedSpace : RunOptions := ⟨⟨[("ns", "org.acme")]⟩, none⟩

/-- The moved record imports the type in its field from the root. -/
theorem generate_moved_user : ∃ r artifacts a i,
    movedSpace.resolve [Resolve.fooUser, Resolve.bareFoo] = .ok r ∧
    movedSpace.generate .default r = .ok artifacts ∧ a ∈ artifacts ∧
    importLines a = ["import type \x7b Foo \x7d from \"../../Foo\";"] ∧
    Leads artifacts a ⟨none, "Foo"⟩ i := by
  have hm : Remap.parse ["ns:org.acme"] = .ok movedSpace.remap := by decide +kernel
  have heval : (movedSpace.run .default [Resolve.fooUser, Resolve.bareFoo]).toOption.map
      (fun p => (p.1.types.entries.map fun e => e.2.fieldMentions, p.2.map importLines)) =
      some ([[], [⟨none, "Foo"⟩]],
        [[], ["import type \x7b Foo \x7d from \"../../Foo\";"]]) := by decide +kernel
  obtain ⟨⟨r, artifacts⟩, hrun, heval⟩ := Option.map_eq_some_iff.mp heval
  obtain ⟨hr, hg⟩ : movedSpace.resolve _ = .ok r ∧
      movedSpace.generate .default r = .ok artifacts := by
    cases hx : movedSpace.run .default [Resolve.fooUser, Resolve.bareFoo] with
    | error e => rw [hx] at hrun; cases hrun
    | ok p =>
      rw [hx] at hrun
      cases hrun
      exact run_ok hx
  obtain ⟨hentries, hlines⟩ := Prod.mk.inj heval
  obtain ⟨b, a, hab⟩ := List.length_eq_two.mp (by simpa using congrArg List.length hlines)
  simp only at hab hentries
  rw [hab] at hlines
  simp only [List.map_cons, List.cons.injEq] at hlines
  obtain ⟨n, s, hn, -, targets, imports, -, htargets, himports, hleads⟩ :=
    generate_linked hm hr hg a (by simp [hab])
  rw [hlines.2.1] at himports
  obtain ⟨i, rfl⟩ := List.length_eq_one_iff.mp (by simpa using (congrArg List.length himports).symm)
  obtain ⟨t, _, hlead, hnil, rfl⟩ := List.forall₂_cons_right_iff.mp hleads
  have ht : ∃ m ∈ s.fieldMentions, movedSpace.remap.applyName m = t :=
    ((htargets t).mp List.mem_cons_self).2
  obtain ⟨m, hmem, rfl⟩ := ht
  have hs : s.fieldMentions ∈ r.types.entries.map fun e => e.2.fieldMentions :=
    List.mem_map.mpr ⟨_, hn, rfl⟩
  rw [hentries] at hs
  have hfoo : m = ⟨none, "Foo"⟩ := by
    rcases List.mem_cons.mp hs with hs | hs
    · rw [hs] at hmem
      cases hmem
    · rw [List.mem_singleton.mp hs] at hmem
      exact List.mem_singleton.mp hmem
  subst hfoo
  exact ⟨r, artifacts, a, i, hr, hg, by simp [hab], hlines.2.1, hlead⟩

end RunOptions

end AvroLink
