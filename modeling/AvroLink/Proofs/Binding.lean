import AvroLink.Proofs.Order

/-!
# What references are bound to

A simple name in the fields of a record is looked up in the namespace of the record and then in the
null namespace, among the types registered when the record is parsed. So its meaning may depend on
the order of commits, but only when both types exist (`Rebound`); all else in the schemas of two
complete runs is the same.
-/

namespace AvroLink.Resolve

variable {seed N : Namespace} {ds ds' : List Definition} {d : Definition} {s s' : Schema}
  {as : List Schema} {r r' : AvroResolution}

/-- What a reference that stands in `space` may be bound to in two runs that register the names of
`known`: the same type, or the type of one simple name in the null namespace and in `space`. -/
def Rebound (known : Namespace) (space : Option String) (n m : FullName) : Prop :=
  n = m ∨ ∃ ns, space = some ns ∧ n.name = m.name ∧ n ∈ known ∧ m ∈ known ∧
    (n.space = none ∧ m.space = some ns ∨ n.space = some ns ∧ m.space = none)

/-- No type of the null namespace shares its simple name with one of another namespace. -/
def Unambiguous (known : Namespace) : Prop :=
  ∀ n m, n ∈ known → m ∈ known → n.name = m.name → n.space = none → m.space = none

theorem Rebound.eq {known : Namespace} {space : Option String} {n m : FullName}
    (h : Rebound known space n m) (hu : Unambiguous known) : n = m := by
  rcases h with h | ⟨ns, -, hname, hn, hm, ⟨hs, ht⟩ | ⟨hs, ht⟩⟩
  · exact h
  · cases ht.symm.trans (hu n m hn hm hname hs)
  · cases hs.symm.trans (hu m n hm hn hname.symm ht)

theorem InTurn.parsed (h : InTurn Schema.parse seed ds as N) (hd : (d, s) ∈ ds.zip as) :
    ∃ M M', Schema.parse d.content M = (.ok s, M') ∧ M' ⊆ N := by
  induction h with
  | nil => cases hd
  | cons head tail ih =>
    rw [List.zip_cons_cons] at hd
    rcases List.mem_cons.mp hd with hd | hd
    · cases hd
      exact ⟨_, _, head, fun n hn => tail.mem_types.mpr (.inl hn)⟩
    · exact ih hd

/-- In two complete runs over the same definitions, in any order, each definition has the same
schema up to references that are rebound, and the same schema if no names are ambiguous. -/
theorem resolveAvro_alike (hp : ds'.Perm ds) (hr : resolveAvro none ds seed = .ok r)
    (hr' : resolveAvro none ds' seed = .ok r') (hc : r.isComplete) (hc' : r'.isComplete) :
    (∃ c, c.Perm ds ∧ InTurn Schema.parse seed c r.resolved r.types) ∧
    (∃ c', c'.Perm ds' ∧ InTurn Schema.parse seed c' r'.resolved r'.types) ∧
    ∀ c c', c.Perm ds → InTurn Schema.parse seed c r.resolved r.types →
      c'.Perm ds' → InTurn Schema.parse seed c' r'.resolved r'.types →
      ∀ d s s', (d, s) ∈ c.zip r.resolved → (d, s') ∈ c'.zip r'.resolved →
        Schema.Alike (Rebound r.types) none s s' ∧ (Unambiguous r.types → s = s') := by
  obtain ⟨committed, h⟩ := resolve_history hr
  obtain ⟨committed', h'⟩ := resolve_history hr'
  refine ⟨⟨committed, h.perm hc, h.inTurn⟩, ⟨committed', h'.perm hc', h'.inTurn⟩, ?_⟩
  intro c c' hcp hin hcp' hin' d s s' hs hs'
  have hknown : r'.types ⊆ r.types := by
    intro n hn
    rw [hin.mem_types]
    refine (hin'.mem_types.mp hn).imp_right fun ⟨e, he, hreg⟩ => ⟨e, ?_, hreg⟩
    exact (hcp'.trans (hp.trans hcp.symm)).mem_iff.mp he
  obtain ⟨M, M₁, hparse, hsub⟩ := hin.parsed hs
  obtain ⟨M', M₁', hparse', hsub'⟩ := hin'.parsed hs'
  have halike : Schema.Alike (Rebound r.types) none s s' := by
    refine (Schema.parse_names hparse hparse').2.mono fun space n hn m hm hb => ?_
    have hn := hsub n (mem_of_refs hparse hn)
    have hm := hknown m (hsub' m (mem_of_refs hparse' hm))
    rcases hb with rfl | ⟨ns, hspace, hname, ⟨hsn, hsm, -⟩ | ⟨hsn, hsm, -⟩⟩
    · exact .inl rfl
    · exact .inr ⟨ns, hspace, hname, hn, hm, .inl ⟨hsn, hsm⟩⟩
    · exact .inr ⟨ns, hspace, hname, hn, hm, .inr ⟨hsn, hsm⟩⟩
  exact ⟨halike, fun hu => (halike.mono fun _ n _ m _ hb => hb.eq hu).eq⟩

def spacedFoo : Definition :=
  ⟨"spaced", "\x7b\"type\":\"fixed\",\"name\":\"ns.Foo\",\"size\":2\x7d"⟩

/-- Two orders in which the record comes before and after the type of its own namespace. -/
theorem fooUser_runs : ∃ (r r' : AvroResolution) (s s' : Schema),
    (resolveAvro none [bareFoo, fooUser, spacedFoo] .empty = .ok r ∧ r.isComplete ∧
      InTurn Schema.parse .empty [bareFoo, fooUser, spacedFoo] r.resolved r.types ∧
      (fooUser, s) ∈ [bareFoo, fooUser, spacedFoo].zip r.resolved ∧ s.refs = [⟨none, "Foo"⟩]) ∧
    resolveAvro none [bareFoo, spacedFoo, fooUser] .empty = .ok r' ∧ r'.isComplete ∧
      InTurn Schema.parse .empty [bareFoo, spacedFoo, fooUser] r'.resolved r'.types ∧
      (fooUser, s') ∈ [bareFoo, spacedFoo, fooUser].zip r'.resolved ∧
      s'.refs = [⟨some "ns", "Foo"⟩] := by
  have h : (parseInTurn Schema.parse .empty [bareFoo, fooUser, spacedFoo]).map
      (fun o => o.1.map Schema.refs) = some [[], [⟨none, "Foo"⟩], []] := by decide +kernel
  have h' : (parseInTurn Schema.parse .empty [bareFoo, spacedFoo, fooUser]).map
      (fun o => o.1.map Schema.refs) = some [[], [], [⟨some "ns", "Foo"⟩]] := by decide +kernel
  obtain ⟨⟨_, _⟩, ho, hrefs⟩ := Option.map_eq_some_iff.mp h
  obtain ⟨⟨_, _⟩, ho', hrefs'⟩ := Option.map_eq_some_iff.mp h'
  have hin := parseInTurn_eq_some.mp ho
  have hin' := parseInTurn_eq_some.mp ho'
  obtain ⟨r, hr, rfl, hu, rfl⟩ := resolve_of_inTurn hin
  obtain ⟨r', hr', rfl, hu', rfl⟩ := resolve_of_inTurn hin'
  obtain ⟨a, s, b, he⟩ : ∃ a s b, r.resolved = [a, s, b] := List.length_eq_three.mp hin.length
  obtain ⟨a', b', s', he'⟩ : ∃ a s b, r'.resolved = [a, s, b] := List.length_eq_three.mp hin'.length
  rw [he] at hrefs
  rw [he'] at hrefs'
  simp only [List.map_cons, List.cons.injEq] at hrefs hrefs'
  exact ⟨r, r', s, s', ⟨hr, isComplete_iff.mpr hu, hin, by simp [he], hrefs.2.1⟩,
    hr', isComplete_iff.mpr hu', hin', by simp [he'], hrefs'.2.2.1⟩

/-- The two schemas of the record are alike, although their references differ. -/
theorem resolveAvro_alike_user : ∃ (r : AvroResolution) (s s' : Schema),
    Schema.Alike (Rebound r.types) none s s' ∧ s.refs = [⟨none, "Foo"⟩] ∧
      s'.refs = [⟨some "ns", "Foo"⟩] := by
  obtain ⟨r, r', s, s', ⟨hr, hc, hin, hs, hrefs⟩, hr', hc', hin', hs', hrefs'⟩ := fooUser_runs
  have h := resolveAvro_alike ((List.Perm.swap _ _ _).cons bareFoo) hr hr' hc hc'
  exact ⟨r, s, s', (h.2.2 _ _ (.refl _) hin (.refl _) hin' _ _ _ hs hs').1, hrefs, hrefs'⟩

/-- The schema of a record may depend on the order: its reference is bound in the null namespace
while the type in its own namespace is not yet known. -/
theorem resolveAvro_order_dependent :
    ¬ ∀ (ds ds' : List Definition) (r r' : AvroResolution), ds'.Perm ds →
      resolveAvro none ds .empty = .ok r → resolveAvro none ds' .empty = .ok r' →
      r.isComplete → r'.isComplete → ∀ c c', c.Perm ds →
      InTurn Schema.parse .empty c r.resolved r.types → c'.Perm ds' →
      InTurn Schema.parse .empty c' r'.resolved r'.types →
      ∀ d s s', (d, s) ∈ c.zip r.resolved → (d, s') ∈ c'.zip r'.resolved → s = s' := by
  intro same_schema
  obtain ⟨r, r', s, s', ⟨hr, hc, hin, hs, hrefs⟩, hr', hc', hin', hs', hrefs'⟩ := fooUser_runs
  have heq := same_schema _ _ r r' ((List.Perm.swap _ _ _).cons bareFoo) hr hr' hc hc' _ _ (.refl _)
    hin (.refl _) hin' fooUser s s' hs hs'
  rw [heq, hrefs'] at hrefs
  simp at hrefs

end AvroLink.Resolve
