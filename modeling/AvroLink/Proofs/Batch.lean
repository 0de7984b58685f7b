import Mathlib.Data.List.Perm.Basic
import AvroLink.Proofs.Closed
import AvroLink.Proofs.Mentions

/-!
# The types of a batch

The namespace that a run reaches holds exactly the definitions of the resolved schemas, and every
type that occurs in one of them is among these.
-/

namespace AvroLink

namespace Schema

/-- `n` is defined in `defs` or is one of `refs`. -/
def Named (defs : List Schema) (refs : List FullName) (n : FullName) : Prop :=
  n ∈ refs ∨ ∃ d ∈ defs, d.name? = some n

theorem Named.mono {defs defs' : List Schema} {refs refs' : List FullName} {n : FullName}
    (h : Named defs refs n) (hd : ∀ e ∈ defs, e ∈ defs') (hr : ∀ n ∈ refs, n ∈ refs') :
    Named defs' refs' n := h.imp (hr n) fun ⟨d, hm, hn⟩ => ⟨d, hd d hm, hn⟩

mutual

theorem named_of_mem_mentions : ∀ {s : Schema} {n : FullName}, n ∈ s.mentions →
    Named s.definitions s.refs n
  | .primitive _, _, h | .logical _ _, _, h => by simp [mentions] at h
  | .array items, n, h => by
    simp only [mentions, definitions, refs] at h ⊢
    exact named_of_mem_mentions h
  | .map values, n, h => by
    simp only [mentions, definitions, refs] at h ⊢
    exact named_of_mem_mentions h
  | .union branches, n, h => by
    simp only [mentions, definitions, refs] at h ⊢
    exact named_of_mem_branchMentions h
  | .record h _, n, hn => by
    cases List.mem_singleton.mp (by simpa only [mentions] using hn)
    exact .inr ⟨_, List.mem_cons_self, rfl⟩
  | .enum e, n, hn => by
    cases List.mem_singleton.mp (by simpa only [mentions] using hn)
    exact .inr ⟨_, List.mem_cons_self, rfl⟩
  | .fixed f, n, hn => by
    cases List.mem_singleton.mp (by simpa only [mentions] using hn)
    exact .inr ⟨_, List.mem_cons_self, rfl⟩
  | .ref m, n, hn => .inl (by simpa only [mentions, refs] using hn)

theorem named_of_mem_branchMentions : ∀ {ss : List Schema} {n : FullName},
    n ∈ branchMentions ss → Named (branchDefinitions ss) (branchRefs ss) n
  | [], _, h => by simp [branchMentions] at h
  | s :: ss, n, h => by
    simp only [branchMentions, branchDefinitions, branchRefs, List.mem_append] at h ⊢
    rcases h with h | h
    · exact (named_of_mem_mentions h).mono (fun e he => List.mem_append_left _ he)
        fun m hm => List.mem_append_left _ hm
    · exact (named_of_mem_branchMentions h).mono (fun e he => List.mem_append_right _ he)
        fun m hm => List.mem_append_right _ hm

end

theorem named_of_mem_fields {fs : List (FieldOf Schema)} {f : FieldOf Schema} {n : FullName}
    (hf : f ∈ fs) (hn : n ∈ f.schema.mentions) : Named (fieldDefinitions fs) (fieldRefs fs) n := by
  induction fs with
  | nil => cases hf
  | cons g fs ih =>
    obtain ⟨_, _, s, _⟩ := g
    simp only [fieldDefinitions, fieldRefs]
    rcases List.mem_cons.mp hf with rfl | hf
    · exact (named_of_mem_mentions hn).mono (fun e he => List.mem_append_left _ he)
        fun m hm => List.mem_append_left _ hm
    · exact (ih hf).mono (fun e he => List.mem_append_right _ he)
        fun m hm => List.mem_append_right _ hm

theorem named_of_mem_fieldMentions {s : Schema} {n : FullName} (h : n ∈ s.fieldMentions) :
    Named s.definitions s.refs n := by
  cases s with
  | record g fields =>
    obtain ⟨f, hf, hn⟩ := List.mem_flatMap.mp h
    simp only [definitions, refs]
    exact (named_of_mem_fields hf hn).mono (fun e he => List.mem_cons_of_mem _ he) fun _ hm => hm
  | _ => cases h

end Schema

namespace Resolve

theorem InTurn.entries {N M : Namespace} {ds : List Definition} {ss : List Schema}
    (h : InTurn Schema.parse N ds ss M) :
    (∃ new, M.entries = N.entries ++ new ∧
      (new.map Prod.snd).Perm (ss.flatMap Schema.definitions)) ∧
    ∀ s ∈ ss, s.WellFormed := by
  induction h with
  | nil => exact ⟨⟨[], by simp, .nil⟩, by simp⟩
  | cons head tail ih =>
    obtain ⟨⟨new, hg, hp, -⟩, hw⟩ := Schema.parse_reads head
    obtain ⟨⟨new', he, hp'⟩, hall⟩ := ih
    refine ⟨⟨new ++ new', ?_, ?_⟩, List.forall_mem_cons.mpr ⟨hw, hall⟩⟩
    · rw [he, hg.entries, List.append_assoc]
    · rw [List.map_append, List.flatMap_cons]
      exact hp.append hp'

theorem InTurn.valid {M : Namespace} {ds : List Definition} {ss : List Schema}
    (h : InTurn Schema.parse .empty ds ss M) {n : FullName} (hn : n ∈ M) : n.Valid := by
  obtain ⟨⟨new, he, hp⟩, hall⟩ := h.entries
  have he : M.entries = new := he
  obtain ⟨⟨n, d⟩, hd, rfl⟩ := List.mem_map.mp hn
  obtain ⟨s, hs, hds⟩ := List.mem_flatMap.mp
    (hp.mem_iff.mp (List.mem_map_of_mem (f := Prod.snd) (he ▸ hd)))
  exact (hall s hs).valid_of_mem hds (M.named _ hd)

/-- The batch that a run from the empty namespace resolves. -/
structure Batch (r : AvroResolution) : Prop where
  entries : (r.types.entries.map Prod.snd).Perm (r.resolved.flatMap Schema.definitions)
  wellFormed : ∀ s ∈ r.resolved, s.WellFormed
  refs : ∀ s ∈ r.resolved, ∀ n ∈ s.refs, n ∈ r.types

theorem resolveAvro_batch {limit : Option UInt32} {ds : List Definition} {r : AvroResolution}
    (h : resolveAvro limit ds .empty = .ok r) : Batch r := by
  obtain ⟨committed, hist⟩ := resolve_history h
  obtain ⟨⟨new, he, hp⟩, hall⟩ := hist.inTurn.entries
  have he : r.types.entries = new := he
  exact ⟨he ▸ hp, hall, (hist.inTurn.closed Namespace.closed_empty).2⟩

namespace Batch

variable {r : AvroResolution}

/-- Every registered type is one of the definitions, and the other way round. -/
theorem mem_entries (h : Batch r) {d : Schema} {n : FullName} :
    (n, d) ∈ r.types.entries ↔ d ∈ r.resolved.flatMap Schema.definitions ∧ d.name? = some n := by
  rw [← h.entries.mem_iff]
  constructor
  · exact fun hm => ⟨List.mem_map_of_mem hm, r.types.named _ hm⟩
  · rintro ⟨hm, hn⟩
    obtain ⟨⟨m, d⟩, he, rfl⟩ := List.mem_map.mp hm
    cases hn.symm.trans (r.types.named _ he)
    exact he

/-- A type that occurs in the fields of a registered one is registered, too. -/
theorem mentions (h : Batch r) {d : Schema} {n m : FullName} (hd : (n, d) ∈ r.types.entries)
    (hm : m ∈ d.fieldMentions) : m ∈ r.types := by
  obtain ⟨s, hs, hds⟩ := List.mem_flatMap.mp (h.mem_entries.mp hd).1
  have hin := Schema.within_of_mem (h.wellFormed s hs) hds
  rcases Schema.named_of_mem_fieldMentions hm with hm | ⟨e, he, hm⟩
  · exact h.refs s hs m (hin.refs m hm)
  · have he : (m, e) ∈ r.types.entries :=
      h.mem_entries.mpr ⟨List.mem_flatMap.mpr ⟨s, hs, hin.definitions e he⟩, hm⟩
    exact List.mem_map_of_mem (f := Prod.fst) he

theorem entry_wellFormed (h : Batch r) {d : Schema} {n : FullName}
    (hd : (n, d) ∈ r.types.entries) : d.WellFormed ∧ n.Valid := by
  obtain ⟨hdef, hn⟩ := h.mem_entries.mp hd
  obtain ⟨s, hs, hds⟩ := List.mem_flatMap.mp hdef
  have hw := h.wellFormed s hs
  exact ⟨(Schema.within_of_mem hw hds).wellFormed, hw.valid_of_mem hds hn⟩

end Batch

end Resolve

end AvroLink
