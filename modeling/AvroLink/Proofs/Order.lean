import Mathlib.Data.List.Perm.Subperm
import AvroLink.Proofs.Document
import AvroLink.Proofs.History
import AvroLink.Resolve.Avro

/-!
# Runs over Avro definitions in any order

Which names a definition registers does not depend on where it parses (`Registers`). So the
namespace that a run reaches is known from the definitions that it committed, and the first
definition of a sequence that parses in turn which a run leaves pending clashes with a committed
one.
-/

namespace AvroLink.Resolve

variable {seed N M : Namespace} {ds committed order : List Definition} {d e : Definition}
  {s : Schema} {as : List Schema} {n : FullName} {r : AvroResolution}

/-- `d` registers the name `n` where it parses. -/
def Registers (d : Definition) (n : FullName) : Prop :=
  ∃ N M s, Schema.parse d.content N = (.ok s, M) ∧ n ∈ M ∧ n ∉ N

/-- The names that a definition registers are the same wherever it parses. -/
theorem registers_iff (h : Schema.parse d.content N = (.ok s, M)) :
    Registers d n ↔ n ∈ M ∧ n ∉ N := by
  refine ⟨?_, fun hn => ⟨N, M, s, h, hn⟩⟩
  rintro ⟨N', M', s', h', hM', hN'⟩
  obtain ⟨⟨added, hM, hM''⟩, -⟩ := Schema.parse_names h h'
  obtain ⟨added', hM₁, hnew⟩ := Schema.parse_added h
  obtain rfl : added' = added := List.append_cancel_left (hM₁.symm.trans hM)
  have hn : n ∈ added' := by
    have : n ∈ N'.names ++ added' := hM'' ▸ hM'
    exact (List.mem_append.mp this).resolve_left hN'
  exact ⟨show n ∈ M.names from hM ▸ List.mem_append_right _ hn, hnew n hn⟩

theorem mem_of_parse (h : Schema.parse d.content N = (.ok s, M)) :
    n ∈ M ↔ n ∈ N ∨ Registers d n := by
  rw [registers_iff h]
  obtain ⟨added, hM, hnew⟩ := Schema.parse_added h
  have hmem : n ∈ M ↔ n ∈ N ∨ n ∈ added := by
    change n ∈ M.names ↔ n ∈ N.names ∨ n ∈ added
    rw [hM, List.mem_append]
  grind

theorem mem_of_refs (h : Schema.parse d.content N = (.ok s, M)) (hn : n ∈ s.refs) : n ∈ M := by
  obtain ⟨⟨new, -, -, hr⟩, -⟩ := Schema.parse_reads h
  exact (hr n hn).resolve_right (by simp)

theorem InTurn.mem_types (h : InTurn Schema.parse N ds as M) :
    n ∈ M ↔ n ∈ N ∨ ∃ d ∈ ds, Registers d n := by
  induction h with
  | nil => simp
  | cons head tail ih =>
    rw [ih, mem_of_parse head]
    simp only [List.mem_cons, exists_eq_or_imp, or_assoc]

theorem InTurn.fresh (h : InTurn Schema.parse N ds as M) (hd : d ∈ ds) (hn : Registers d n) :
    n ∉ N := by
  induction h with
  | nil => cases hd
  | cons head tail ih =>
    rcases List.mem_cons.mp hd with rfl | hd
    · exact ((registers_iff head).mp hn).2
    · exact fun hN => ih hd ((mem_of_parse head).mpr (.inl hN))

/-- Definitions that register different names. -/
def Apart (d e : Definition) : Prop := ∀ n, Registers d n → ¬ Registers e n

theorem Apart.symm (h : Apart d e) : Apart e d := fun n he hd => h n hd he

/-- Definitions that parse in turn register different names, also two copies of one definition. -/
theorem InTurn.apart (h : InTurn Schema.parse N ds as M) : ds.Pairwise Apart := by
  induction h with
  | nil => exact .nil
  | cons head tail ih =>
    refine .cons (fun e he n hd hn => ?_) ih
    exact tail.fresh he hn ((mem_of_parse head).mpr (.inr hd))

theorem History.committed_or_pending (h : History Schema.parse seed ds committed r) (hd : d ∈ ds) :
    d ∈ committed ∨ ∃ u ∈ r.unresolved, u.definition = d := by
  have := h.split.mem_iff.mpr hd
  simpa [List.mem_append, List.mem_map] using this

/-- A definition that parses after committed ones, but is stuck at the end of the run, clashes with
a name that the run has registered. -/
theorem History.clash (h : History Schema.parse seed ds committed r)
    (hpre : InTurn Schema.parse seed order as N) (hsub : ∀ d ∈ order, d ∈ committed)
    {u : Unresolved ParseError} (hu : u ∈ r.unresolved)
    (hd : Schema.parse u.definition.content N = (.ok s, M)) :
    ∃ n, u.error.cause = .duplicateName n ∧ Registers u.definition n ∧
      ∃ e ∈ committed, Registers e n := by
  have hN : N ⊆ r.types := by
    intro n hn
    rw [h.inTurn.mem_types]
    rw [hpre.mem_types] at hn
    exact hn.imp_right fun ⟨d, hd, hr⟩ => ⟨d, hsub d hd, hr⟩
  have hstuck : Schema.parse u.definition.content r.types =
      (.error u.error, (Schema.parse u.definition.content r.types).2) := by rw [← h.stuck u hu]
  obtain ⟨n, hc, hM, hr, hn⟩ := Schema.parse_clash hN hd hstuck
  refine ⟨n, hc, (registers_iff hd).mpr ⟨hM, hn⟩, ?_⟩
  rw [h.inTurn.mem_types] at hr
  exact hr.resolve_left fun hs => hn (hpre.mem_types.mpr (.inl hs))

theorem exists_first {α : Type} {p : α → Prop} {xs : List α} (h : ∃ x ∈ xs, p x) :
    ∃ pre x post, xs = pre ++ x :: post ∧ (∀ y ∈ pre, ¬ p y) ∧ p x := by
  induction xs with
  | nil => simp at h
  | cons x xs ih =>
    by_cases hx : p x
    · exact ⟨[], x, xs, rfl, by simp, hx⟩
    · obtain ⟨pre, y, post, rfl, hpre, hy⟩ := ih (by simpa [hx] using h)
      refine ⟨x :: pre, y, post, rfl, ?_, hy⟩
      simpa [hx] using hpre

/-! ## Complete runs -/

/-- Definitions that parse in turn in some order are all committed. -/
theorem History.complete (h : History Schema.parse seed ds committed r) (hp : order.Perm ds)
    (hin : InTurn Schema.parse seed order as M) : r.unresolved = [] := by
  by_contra hne
  obtain ⟨u, hu⟩ := List.exists_mem_of_ne_nil _ hne
  have hpending : ∃ d ∈ order, ∃ u ∈ r.unresolved, u.definition = d :=
    ⟨u.definition, hp.mem_iff.mpr (h.order.subset (List.mem_map_of_mem hu)), u, hu, rfl⟩
  obtain ⟨pre, _, post, rfl, hpre, u, hu, rfl⟩ := exists_first hpending
  obtain ⟨xs, ys, N, rfl, hx, hy⟩ := hin.of_append
  have hcommitted : ∀ d ∈ pre, d ∈ committed := fun d hd =>
    (h.committed_or_pending (hp.mem_iff.mp (List.mem_append_left _ hd))).resolve_right (hpre d hd)
  cases hy with
  | cons head _ =>
    obtain ⟨n, -, hn, e, he, hen⟩ := h.clash hx hcommitted hu head
    -- the clash is between two of the definitions, which cannot both parse in the order
    have hapart := ((hp.trans h.split.symm).pairwise_iff fun h => Apart.symm h).mp hin.apart
    exact (List.pairwise_append.mp hapart).2.2 e he u.definition (List.mem_map_of_mem hu) n hen hn

theorem isComplete_iff : r.isComplete = true ↔ r.unresolved = [] := List.isEmpty_iff

theorem resolveAvro_history (seed : Namespace) (ds : List Definition) :
    ∃ r committed, resolveAvro none ds seed = .ok r ∧ History Schema.parse seed ds committed r := by
  obtain ⟨r, hr⟩ := resolve_unlimited Schema.parse ds seed
  obtain ⟨committed, h⟩ := resolve_history hr
  exact ⟨r, committed, hr, h⟩

theorem History.perm (h : History Schema.parse seed ds committed r) (hc : r.isComplete = true) :
    committed.Perm ds := by
  simpa [isComplete_iff.mp hc] using h.split

/-- A run is complete if and only if its definitions parse in turn in some order; then it is
complete for every order of them, and the same names are registered. -/
theorem resolveAvro_complete_iff (seed : Namespace) (ds : List Definition) :
    ∃ r, resolveAvro none ds seed = .ok r ∧
      (r.isComplete ↔ ∃ order outputs types, order.Perm ds ∧
        InTurn Schema.parse seed order outputs types) ∧
      (r.isComplete → ∀ ds' : List Definition, ds'.Perm ds → ∃ r',
        resolveAvro none ds' seed = .ok r' ∧ r'.isComplete ∧ ∀ n, n ∈ r'.types ↔ n ∈ r.types) := by
  obtain ⟨r, committed, hr, h⟩ := resolveAvro_history seed ds
  refine ⟨r, hr, ⟨fun hc => ?_, ?_⟩, fun hc ds' hp => ?_⟩
  · exact ⟨committed, r.resolved, r.types, h.perm hc, h.inTurn⟩
  · rintro ⟨order, outputs, types, hp, hin⟩
    exact isComplete_iff.mpr (h.complete hp hin)
  · obtain ⟨r', committed', hr', h'⟩ := resolveAvro_history seed ds'
    have hc' : r'.isComplete :=
      isComplete_iff.mpr (h'.complete ((h.perm hc).trans hp.symm) h.inTurn)
    refine ⟨r', hr', hc', fun n => ?_⟩
    have hmem : ∀ d, d ∈ committed' ↔ d ∈ committed := fun d =>
      ((h'.perm hc').trans (hp.trans (h.perm hc).symm)).mem_iff
    simp only [h.inTurn.mem_types, h'.inTurn.mem_types, hmem]

def bareFoo : Definition := ⟨"bare", "\x7b\"type\":\"fixed\",\"name\":\"Foo\",\"size\":1\x7d"⟩

/-- A record of the namespace `ns` with a field of the type `Foo`. -/
def fooUser : Definition :=
  ⟨"user", "\x7b\"type\":\"record\",\"name\":\"ns.R\",\"fields\":[" ++
    "\x7b\"name\":\"f\",\"type\":\"Foo\"\x7d]\x7d"⟩

/-- The user is resolved also when it comes first. -/
theorem resolveAvro_user_first : ∃ r, resolveAvro none [fooUser, bareFoo] .empty = .ok r ∧
    r.isComplete := by
  obtain ⟨r, hr, -, hperm⟩ := resolveAvro_complete_iff .empty [bareFoo, fooUser]
  have hc : (resolveAvro none [bareFoo, fooUser] .empty).map (·.isComplete) = .ok true := by
    decide +kernel
  rw [hr] at hc
  obtain ⟨r', hr', hc', -⟩ := hperm (Except.ok.inj hc) [fooUser, bareFoo] (.swap _ _ _)
  exact ⟨r', hr', hc'⟩

/-! ## Runs that are not complete -/

/-- Of definitions that parse in turn, the first one that a run leaves pending has failed on a name
that was taken. -/
theorem resolveAvro_maximal (seed : Namespace) (ds : List Definition) :
    ∃ r, resolveAvro none ds seed = .ok r ∧ (∃ fates, r.Fates ds fates) ∧
      ∀ fates, r.Fates ds fates → ∀ fs : List (Definition × Option ParseError), fs.Subperm fates →
        ∀ outputs types, InTurn Schema.parse seed (fs.map Prod.fst) outputs types →
          (∀ f ∈ fs, f.2 = none) ∨
            ∃ pre d e post n, fs = pre ++ (d, some e) :: post ∧ (∀ f ∈ pre, f.2 = none) ∧
              e.cause = .duplicateName n := by
  obtain ⟨r, committed, hr, h⟩ := resolveAvro_history seed ds
  refine ⟨r, hr, h.fates, fun fates hf fs hsub outputs types hin => ?_⟩
  by_cases hall : ∀ f ∈ fs, f.2 = none
  · exact .inl hall
  · have hpending : ∃ f ∈ fs, f.2 ≠ none := by simpa using hall
    obtain ⟨pre, ⟨d, fate⟩, post, rfl, hpre, hfate⟩ := exists_first hpending
    obtain ⟨e, rfl⟩ := Option.ne_none_iff_exists'.mp hfate
    simp only [ne_eq, not_not] at hpre
    rw [List.map_append] at hin
    obtain ⟨xs, ys, N, rfl, hx, hy⟩ := hin.of_append
    have hu : ⟨d, e⟩ ∈ r.unresolved := by
      rw [hf.2, List.mem_filterMap]
      exact ⟨(d, some e), hsub.subset (by simp), rfl⟩
    have hcommitted : ∀ x ∈ pre.map Prod.fst, x ∈ committed := by
      intro x hx
      obtain ⟨⟨y, fate⟩, hy, rfl⟩ := List.mem_map.mp hx
      cases hpre _ hy
      exact hf.committed h (hsub.subset (List.mem_append_left _ hy))
    cases hy with
    | cons head _ =>
      obtain ⟨n, hn, -⟩ := h.clash hx hcommitted hu head
      exact .inr ⟨pre, d, e, post, n, rfl, hpre, hn⟩

def otherFoo : Definition := ⟨"other", "\x7b\"type\":\"fixed\",\"name\":\"Foo\",\"size\":2\x7d"⟩

/-- Either of two types of one name would resolve alone, and the later one has the duplicate name.
-/
theorem resolveAvro_second_foo : ∃ r e n, resolveAvro none [bareFoo, otherFoo] .empty = .ok r ∧
    r.unresolved = [⟨otherFoo, e⟩] ∧ e.cause = .duplicateName n := by
  obtain ⟨r, hr, -, hmax⟩ := resolveAvro_maximal .empty [bareFoo, otherFoo]
  have hu : (resolveAvro none [bareFoo, otherFoo] .empty).map
      (fun r => r.unresolved.map (·.definition)) = .ok [otherFoo] := by decide +kernel
  have hin : (parseInTurn Schema.parse .empty [otherFoo]).isSome = true := by decide +kernel
  obtain ⟨⟨outputs, types⟩, hin⟩ := Option.isSome_iff_exists.mp hin
  rw [hr] at hu
  obtain ⟨⟨_, e⟩, hu, rfl⟩ := List.map_eq_singleton_iff.mp (Except.ok.inj hu)
  have hfates : r.Fates [bareFoo, otherFoo] [(bareFoo, none), (otherFoo, some e)] :=
    ⟨rfl, by simpa using hu⟩
  have hsub : [(otherFoo, some e)].Subperm [(bareFoo, none), (otherFoo, some e)] :=
    (List.sublist_cons_self _ _).subperm
  rcases hmax _ hfates _ hsub outputs types (parseInTurn_eq_some.mp hin) with h | h
  · simp at h
  · obtain ⟨pre, d, e', post, n, h, hpre, hn⟩ := h
    cases pre with
    | nil =>
      cases h
      exact ⟨r, e, n, hr, hu, hn⟩
    | cons f pre => simp at h

end AvroLink.Resolve
