import AvroLink.Proofs.Document

/-!
# What a parse registers

A parse keeps the entries that were there and adds a block of new ones (`Registered`), in which each
type stands after the types defined in its fields. On success the block holds the definitions of the
schema; a failure may cut it short, but never between a type and what is inside it.
-/

namespace AvroLink.Schema

variable {N : Namespace} {new : List Entry} {sc sc' : Scope}

theorem InnerFirst.inner_mem {before after : List Schema} {s d : Schema} (hd : d ∈ s.inner) :
    ∀ {seen : List Schema}, InnerFirst seen (before ++ s :: after) → d ∈ before ++ seen := by
  induction before with
  | nil => exact fun h => h.1 d hd
  | cons t before ih =>
    intro seen h
    exact List.perm_middle.mem_iff.mp (ih h.2)

/-- Entries that may follow those of `N`: each under its own name, none of which is in use, and
after the types defined in its fields. -/
structure Registered (N : Namespace) (new : List Entry) : Prop where
  named : ∀ e ∈ new, e.2.name? = some e.1
  distinct : (new.map Prod.fst).Nodup
  fresh : ∀ e ∈ new, e.1 ∉ N
  nested : ∀ before e after, new = before ++ e :: after → ∀ d ∈ e.2.inner, ∃ n, (n, d) ∈ before

theorem Grows.registered (h : Grows sc sc' new) : Registered sc.types new where
  named e he := sc'.types.named e (by rw [h.entries]; exact List.mem_append_right _ he)
  distinct := by
    have hd := sc'.types.nodup
    rw [h.entries, List.map_append, List.nodup_append] at hd
    exact hd.2.1
  fresh e he hN := h.not_mem_new hN (List.mem_map_of_mem he)
  nested before e after hnew d hd := by
    have hfirst := h.innerFirst
    rw [hnew, List.map_append, List.map_cons] at hfirst
    have hm := hfirst.inner_mem hd
    rw [List.append_nil] at hm
    obtain ⟨⟨n, _⟩, hb, rfl⟩ := List.mem_map.mp hm
    exact ⟨n, hb⟩

/-- A definition that a parse leaves behind comes with everything defined inside it. -/
theorem Registered.inner {n : FullName} {s d : Schema} (h : Registered N new) (hs : (n, s) ∈ new)
    (hd : d ∈ s.inner) : ∃ m, (m, d) ∈ new ∧ d.name? = some m := by
  obtain ⟨before, after, rfl⟩ := List.append_of_mem hs
  obtain ⟨m, hm⟩ := h.nested before (n, s) after rfl d hd
  have hm := List.mem_append_left ((n, s) :: after) hm
  exact ⟨m, hm, h.named _ hm⟩

theorem reading_leaves (text : String) (sc : Scope) : Leaves sc (reading text sc).2 := by
  have h := reading_sound text sc
  unfold Ends at h
  split at h
  · next hr => rw [hr]; exact h.1.leaves
  · next hr => rw [hr]; exact h

/-- A parse keeps the entries of the namespace and adds a block of new ones after them. These are
the definitions of the schema if there is one; after a failure, the block is still closed under
nested definitions. -/
theorem parse_effect (text : String) (N : Namespace) :
    ∃ new, (parse text N).2.entries = N.entries ++ new ∧ Registered N new ∧
      match (parse text N).1 with
      | .ok s => (new.map Prod.snd).Perm s.definitions
      | .error _ => ∀ n s, (n, s) ∈ new → ∀ d ∈ s.inner, ∃ m, (m, d) ∈ new ∧ d.name? = some m := by
  rcases hp : parse text N with ⟨e | s, M⟩
  · obtain ⟨new, hg⟩ := reading_leaves text ⟨N, []⟩
    have hM : (reading text ⟨N, []⟩).2.types = M := by rw [parse_eq] at hp; exact (Prod.mk.inj hp).2
    have hr : Registered N new := hg.registered
    refine ⟨new, hM ▸ hg.entries, hr, fun n s hs d hd => hr.inner hs hd⟩
  · obtain ⟨⟨new, hg, hperm, -⟩, -⟩ := parse_reads hp
    exact ⟨new, hg.entries, hg.registered, hperm⟩

/-- A record whose second field cannot be read. In the first one a type is defined that refers to
it. -/
def leaky : String :=
  "\x7b\"type\":\"record\",\"name\":\"A\",\"fields\":[\x7b\"name\":\"b\",\"type\":" ++
    "\x7b\"type\":\"record\",\"name\":\"B\",\"fields\":[" ++
    "\x7b\"name\":\"a\",\"type\":\"A\"\x7d]\x7d\x7d,0]\x7d"

example : (parse leaky .empty).1.isOk = false ∧
    (parse leaky .empty).2.names = [⟨none, "B"⟩] := by decide +kernel

end AvroLink.Schema
