import AvroLink.Proofs.Binding

/-!
# Parsing on top of more names

A document that parses on top of some names parses on top of more of them as well, and registers the
same names, unless it defines one that is in use there (`parse_mono`). `ParseError.Permanent` are the
failures that more names do not cure. The namespace of a run only grows, so a definition that has
failed for good in one of its `passes` is pending at its end.
-/

namespace AvroLink

/-- The text is no JSON, a name in it breaks the naming rules, or it defines a name that is in use.
-/
def ParseError.Permanent (e : ParseError) : Prop :=
  match e.cause with
  | .json _ _ | .duplicateName _ | .invalidName _ => True
  | .unknownType _ | .invalidSchema _ => False

instance (e : ParseError) : Decidable e.Permanent := by
  unfold ParseError.Permanent
  split <;> infer_instance

theorem ParseError.Permanent.not_curable {e : ParseError} (h : e.Permanent) : ¬ e.cause.Curable := by
  rintro (⟨n, hc⟩ | ⟨k, hc⟩)
  · simp [Permanent, hc] at h
  · simp [Permanent, hc] at h

namespace Schema

variable {text : String} {N N' M : Namespace} {s : Schema} {e : ParseError}

/-- On top of more names a document registers the names that it registers on top of fewer, or fails
on one of these that is in use. -/
theorem parse_mono (hsub : N ⊆ N') (h : parse text N = (.ok s, M)) :
    ∃ added, M.names = N.names ++ added ∧
      ((∀ n ∈ added, n ∉ N') →
        ∃ s' M', parse text N' = (.ok s', M') ∧ M'.names = N'.names ++ added) ∧
      ((∃ n ∈ added, n ∈ N') →
        ∃ e M' n, parse text N' = (.error e, M') ∧ e.cause = .duplicateName n ∧ n ∈ added ∧
          n ∈ N') := by
  obtain ⟨added, hadded, hnew⟩ := parse_added h
  refine ⟨added, hadded, fun hfree => ?_, fun htaken => ?_⟩
  · rcases hp : parse text N' with ⟨e | s', M'⟩
    · obtain ⟨n, -, hM, hN', hN⟩ := parse_clash hsub h hp
      have hn : n ∈ N.names ++ added := hadded ▸ hM
      exact absurd hN' (hfree n ((List.mem_append.mp hn).resolve_left hN))
    · obtain ⟨⟨added', hM, hM'⟩, -⟩ := parse_names h hp
      obtain rfl : added = added' := List.append_cancel_left (hadded.symm.trans hM)
      exact ⟨s', M', rfl, hM'⟩
  · rcases hp : parse text N' with ⟨e | s', M'⟩
    · obtain ⟨n, hc, hM, hN', hN⟩ := parse_clash hsub h hp
      have hn : n ∈ N.names ++ added := hadded ▸ hM
      exact ⟨e, M', n, rfl, hc, (List.mem_append.mp hn).resolve_left hN, hN'⟩
    · -- a name is not registered twice
      obtain ⟨⟨added', hM, hM'⟩, -⟩ := parse_names h hp
      obtain rfl : added = added' := List.append_cancel_left (hadded.symm.trans hM)
      obtain ⟨n, hn, hN'⟩ := htaken
      have hd := M'.names_nodup
      rw [hM', List.nodup_append] at hd
      exact absurd rfl (hd.2.2 n hN' n hn)

/-- The names of documents that parse in turn. -/
def namesAfter (texts : List String) : Namespace :=
  texts.foldl (fun N text => (parse text N).2) .empty

/-- The record of `ns` registers its name also where the type `Foo` of that namespace, to which its
reference is bound then, is known. -/
theorem parse_mono_user : ∃ s M s' M',
    parse Resolve.fooUser.content (namesAfter [Resolve.bareFoo.content]) = (.ok s, M) ∧
      parse Resolve.fooUser.content
        (namesAfter [Resolve.bareFoo.content, Resolve.spacedFoo.content]) = (.ok s', M') ∧
      s.refs = [⟨none, "Foo"⟩] ∧ s'.refs = [⟨some "ns", "Foo"⟩] ∧
      M.names = [⟨none, "Foo"⟩, ⟨some "ns", "R"⟩] ∧
      M'.names = [⟨none, "Foo"⟩, ⟨some "ns", "Foo"⟩, ⟨some "ns", "R"⟩] := by
  have hN : (namesAfter [Resolve.bareFoo.content]).names = [⟨none, "Foo"⟩] := by decide +kernel
  have hN' : (namesAfter [Resolve.bareFoo.content, Resolve.spacedFoo.content]).names =
      [⟨none, "Foo"⟩, ⟨some "ns", "Foo"⟩] := by decide +kernel
  have hrun : (parse Resolve.fooUser.content (namesAfter [Resolve.bareFoo.content])).1.toOption.map
      (·.refs) = some [⟨none, "Foo"⟩] := by decide +kernel
  have hrun' : (parse Resolve.fooUser.content (namesAfter [Resolve.bareFoo.content,
      Resolve.spacedFoo.content])).1.toOption.map (·.refs) = some [⟨some "ns", "Foo"⟩] := by
    decide +kernel
  have hnames : (parse Resolve.fooUser.content
      (namesAfter [Resolve.bareFoo.content])).2.names = [⟨none, "Foo"⟩, ⟨some "ns", "R"⟩] := by
    decide +kernel
  have hsub : namesAfter [Resolve.bareFoo.content] ⊆
      namesAfter [Resolve.bareFoo.content, Resolve.spacedFoo.content] := fun n hn => by
    have hn : n ∈ (namesAfter [Resolve.bareFoo.content]).names := hn
    change n ∈ (namesAfter _).names
    rw [hN] at hn
    rw [hN']
    exact List.mem_cons.mpr (.inl (List.mem_singleton.mp hn))
  rcases hp : parse Resolve.fooUser.content (namesAfter [Resolve.bareFoo.content]) with ⟨_ | s, M⟩
  · rw [hp] at hrun
    cases hrun
  rw [hp] at hrun hnames
  obtain ⟨added, hadded, hfree, -⟩ := parse_mono hsub hp
  obtain rfl : added = [⟨some "ns", "R"⟩] :=
    List.append_cancel_left (hadded.symm.trans (by rw [hN]; exact hnames))
  obtain ⟨s', M', hp', hM'⟩ := hfree (fun n hn => by
    obtain rfl := List.mem_singleton.mp hn
    change ¬ _ ∈ (namesAfter _).names
    rw [hN']
    decide)
  rw [hp'] at hrun'
  exact ⟨s, M, s', M', rfl, hp', Option.some.inj hrun, Option.some.inj hrun', hnames,
    by rw [hM', hN']; rfl⟩

theorem parse_error_of_permanent (hsub : N ⊆ N') (h : (parse text N).1 = .error e)
    (hp : e.Permanent) : ∃ e', (parse text N').1 = .error e' := by
  have ha := parse_agree text N N'
  rw [parse_eq] at h ⊢
  unfold Agree at ha
  rcases hr : reading text ⟨N, []⟩ with ⟨_ | t, sc⟩ <;> rw [hr] at h <;> cases h
  rcases hr' : reading text ⟨N', []⟩ with ⟨e' | t', sc'⟩
  · exact ⟨e', rfl⟩
  · rw [hr, hr'] at ha
    exact absurd (ha hsub).2 hp.not_curable

end Schema

namespace Resolve

section

variable {ε α : Type} {parser : Parser ε α} {limit : Option UInt32} {ns : Namespace}
  {attempts : UInt32} {ds committed : List Definition} {p : Pass ε α}

/-- The passes of a run over `pending` in order, up to the one that reached the limit. -/
def passes (parser : Parser ε α) (limit : Option UInt32) (ns : Namespace) (attempts : UInt32)
    (pending : List Definition) : List (Pass ε α) :=
  if pending.isEmpty then []
  else
    match pass parser limit ns attempts pending with
    | .error _ => []
    | .ok p =>
      if p.failed.length < pending.length then
        p :: passes parser limit p.types p.attempts p.pending
      else [p]
termination_by pending.length
decreasing_by simpa

theorem passes_nil : passes parser limit ns attempts [] = [] := by
  rw [passes]
  rfl

theorem passes_last (hne : ds ≠ []) (h : Attempted parser limit ns attempts ds committed p)
    (stuck : ds.length ≤ p.failed.length) : passes parser limit ns attempts ds = [p] := by
  rw [passes, if_neg (by simpa using hne), pass_eq_ok.mpr ⟨_, h⟩]
  simp only [if_neg (Nat.not_lt.mpr stuck)]

theorem passes_next (h : Attempted parser limit ns attempts ds committed p)
    (progress : p.failed.length < ds.length) :
    passes parser limit ns attempts ds =
      p :: passes parser limit p.types p.attempts p.pending := by
  have hne := List.ne_nil_of_length_pos (Nat.zero_lt_of_lt progress)
  rw [passes, if_neg (by simpa using hne), pass_eq_ok.mpr ⟨_, h⟩]
  simp only [if_pos progress]

end

variable {limit : Option UInt32} {N M seed : Namespace} {attempts : UInt32} {d : Definition}
  {ds committed : List Definition} {p : Pass ParseError Schema} {r : AvroResolution}

/-- `d` does not parse on top of `N`, nor on top of more names. -/
def Doomed (N : Namespace) (d : Definition) : Prop :=
  ∀ N', N ⊆ N' → ∃ e, (Schema.parse d.content N').1 = .error e

theorem Attempted.subset (h : Attempted Schema.parse limit N attempts ds committed p) :
    N ⊆ p.types := by
  induction h with
  | nil => exact fun _ hn => hn
  | committed _ head _ ih => exact fun n hn => ih n ((mem_of_parse head).mpr (.inl hn))
  | rolledBack _ _ _ ih => exact ih

/-- A definition that fails for good in a pass is doomed from then on. -/
theorem Attempted.doomed (h : Attempted Schema.parse limit N attempts ds committed p)
    {u : Unresolved ParseError} (hu : u ∈ p.failed) (hp : u.error.Permanent) :
    Doomed p.types u.definition := by
  induction h with
  | nil => cases hu
  | committed _ _ _ ih => exact ih hu
  | rolledBack _ head tail ih =>
    rcases List.mem_cons.mp hu with rfl | hu
    · exact fun N' hsub =>
        Schema.parse_error_of_permanent (fun n hn => hsub n (tail.subset n hn)) head hp
    · exact ih hu

theorem Attempted.filter_pending (h : Attempted Schema.parse limit N attempts ds committed p)
    (hsub : M ⊆ N) {doomed : Definition → Bool} (hd : ∀ d, doomed d = true → Doomed M d) :
    p.pending.filter doomed = ds.filter doomed := by
  induction h with
  | nil => rfl
  | committed _ head _ ih =>
    rw [List.filter_cons_of_neg, ← ih fun n hn => (mem_of_parse head).mpr (.inl (hsub n hn))]
    · rfl
    · intro hdoomed
      obtain ⟨e, he⟩ := hd _ hdoomed _ hsub
      rw [head] at he
      cases he
  | rolledBack _ _ _ ih =>
    simp only [Pass.pending, List.map_cons, List.filter_cons] at ih ⊢
    rw [ih hsub]

theorem Swept.filter_unresolved (h : Swept Schema.parse limit N attempts ds committed r)
    (hsub : M ⊆ N) {doomed : Definition → Bool} (hd : ∀ d, doomed d = true → Doomed M d) :
    (r.unresolved.map (·.definition)).filter doomed = ds.filter doomed := by
  induction h with
  | done => rfl
  | last _ pass _ => exact pass.filter_pending hsub hd
  | next pass _ _ ih =>
    exact (ih fun n hn => pass.subset n (hsub n hn)).trans (pass.filter_pending hsub hd)

/-- The definitions that fail for good in a pass are pending at the end of the run. -/
theorem Swept.permanent (h : Swept Schema.parse limit N attempts ds committed r)
    (hp : p ∈ passes Schema.parse limit N attempts ds) :
    ((p.failed.filter (·.error.Permanent)).map (·.definition)).Sublist
      (r.unresolved.map (·.definition)) := by
  classical
  induction h with
  | done => simp [passes_nil] at hp
  | last pending pass stuck =>
    rw [passes_last pending pass stuck, List.mem_singleton] at hp
    subst hp
    exact List.filter_sublist.map _
  | next pass progress rest ih =>
    rw [passes_next pass progress] at hp
    rcases List.mem_cons.mp hp with rfl | hp
    · have hpending : ((p.failed.filter (·.error.Permanent)).map (·.definition)).Sublist
          p.pending := List.filter_sublist.map _
      have hdoomed : ∀ d ∈ (p.failed.filter (·.error.Permanent)).map (·.definition),
          decide (Doomed p.types d) = true := by
        intro d hd
        obtain ⟨u, hu, rfl⟩ := List.mem_map.mp hd
        obtain ⟨hu, hperm⟩ := List.mem_filter.mp hu
        exact decide_eq_true (pass.doomed hu (of_decide_eq_true hperm))
      have hfilter := hpending.filter fun d => decide (Doomed p.types d)
      rw [List.filter_eq_self.mpr hdoomed,
        ← rest.filter_unresolved (fun _ hn => hn) fun d hd => of_decide_eq_true hd] at hfilter
      exact hfilter.trans List.filter_sublist
    · exact ih hp

theorem Swept.length_passes (h : Swept Schema.parse limit N attempts ds committed r) :
    (passes Schema.parse limit N attempts ds).length = r.passes := by
  induction h with
  | done => simp [passes_nil]
  | last pending pass stuck => simp [passes_last pending pass stuck]
  | next pass progress _ ih => simp [passes_next pass progress, ih]

/-- A document that fails for good fails on top of more names, too, and a definition that fails for
good in a pass of a run is unresolved at its end. -/
theorem resolveAvro_permanent :
    (∀ (text : String) (N N' : Namespace) (e : ParseError), N ⊆ N' →
      (Schema.parse text N).1 = .error e → e.Permanent →
      ∃ e', (Schema.parse text N').1 = .error e') ∧
    ∀ (limit : Option UInt32) (ds : List Definition) (seed : Namespace) (r : AvroResolution),
      resolveAvro limit ds seed = .ok r →
      (passes Schema.parse limit seed 0 ds).length = r.passes ∧
      ∀ p ∈ passes Schema.parse limit seed 0 ds,
        ((p.failed.filter (·.error.Permanent)).map (·.definition)).Sublist
          (r.unresolved.map (·.definition)) := by
  refine ⟨fun _ _ _ _ => Schema.parse_error_of_permanent, fun limit ds seed r hr => ?_⟩
  obtain ⟨committed, h⟩ := sweep_eq_ok.mp hr
  exact ⟨h.length_passes, fun _ => h.permanent⟩

def broken : Definition := ⟨"broken", "\x7b"⟩

/-- The first pass already tells the definitions that fail for good from the record, which waits
for its type. -/
theorem resolveAvro_permanent_broken : ∃ r p,
    resolveAvro none [fooUser, bareFoo, otherFoo, broken] .empty = .ok r ∧
      p ∈ passes Schema.parse none .empty 0 [fooUser, bareFoo, otherFoo, broken] ∧
      p.pending = [fooUser, otherFoo, broken] ∧
      [otherFoo, broken].Sublist (r.unresolved.map (·.definition)) ∧
      ∃ e, (Schema.parse broken.content r.types).1 = .error e := by
  obtain ⟨r, hr⟩ := resolve_unlimited Schema.parse [fooUser, bareFoo, otherFoo, broken] .empty
  have hpass : (pass Schema.parse none .empty 0 [fooUser, bareFoo, otherFoo, broken]).toOption.map
      (fun p => (p.pending, (p.failed.filter (·.error.Permanent)).map (·.definition))) =
      some ([fooUser, otherFoo, broken], [otherFoo, broken]) := by decide +kernel
  have hbroken : (match (Schema.parse broken.content .empty).1 with
      | .error e => decide e.Permanent
      | .ok _ => false) = true := by decide +kernel
  rcases hp : pass Schema.parse none .empty 0 [fooUser, bareFoo, otherFoo, broken] with _ | p
  · rw [hp] at hpass
    cases hpass
  rw [hp] at hpass
  obtain ⟨hpending, hpermanent⟩ := Prod.mk.inj (Option.some.inj hpass)
  obtain ⟨committed, ha⟩ := pass_eq_ok.mp hp
  have hmem : p ∈ passes Schema.parse none .empty 0 [fooUser, bareFoo, otherFoo, broken] := by
    have hlength : p.failed.length = 3 := by simpa using congrArg List.length hpending
    rw [passes_next ha (by simp [hlength])]
    exact List.mem_cons_self
  rcases he : (Schema.parse broken.content .empty).1 with e | s
  · rw [he] at hbroken
    refine ⟨r, p, hr, hmem, hpending, ?_, ?_⟩
    · rw [← hpermanent]
      exact (resolveAvro_permanent.2 none _ .empty r hr).2 p hmem
    · exact resolveAvro_permanent.1 _ .empty r.types e (fun _ hn => by cases hn) he
        (of_decide_eq_true hbroken)
  · rw [he] at hbroken
    cases hbroken

end Resolve

end AvroLink
