import AvroLink.Proofs.Steps

/-!
# The walk on top of two namespaces

`walk_agree` compares the walks over one value on top of two namespaces, by induction on the value.
Branches of a union may be bound to other names in the second walk, but never so that two keys
become one there (`Twin`).
-/

namespace AvroLink.Schema

variable {α : Type} {N N' : Namespace} {sc sc' : Scope} {space : Option String}
  {locate locate' : Locate}

/-! ## Unions -/

theorem mem_definitions {s : Schema} {n : FullName} (hs : s.name? = some n) :
    s ∈ s.definitions := by
  cases s <;> cases hs <;> simp [definitions]

theorem Reads.title {s : Schema} (h : Reads sc sc' s.definitions s.refs) {n : FullName}
    (hn : s.title? = some n) : sc'.Visible n := by
  obtain ⟨new, hg, hp, hr⟩ := h
  have defined : s.name? = some n → sc'.Visible n := by
    intro hs
    obtain ⟨e, he, rfl⟩ := List.mem_map.mp (hp.mem_iff.mpr (mem_definitions hs))
    have hm : e ∈ sc'.types.entries := by rw [hg.entries]; exact List.mem_append_right _ he
    have hname := sc'.types.named e hm
    cases hs.symm.trans hname
    exact .inl (List.mem_map_of_mem hm)
  cases s with
  | ref m =>
    cases hn
    exact hr n (by simp [refs])
  | _ => exact defined hn

/-- Branches that both walks have read at the same place. -/
structure Twin (N N' : Namespace) (space : Option String) (s t : Schema) : Prop where
  alike : Alike (Bound N N') space s t
  early : ∀ n, s.title? = some n → n ∈ N' → n ∈ N
  valid : ∀ n, t.title? = some n → n.Valid

/-- On top of more names, a name stays or leaves the null namespace. -/
theorem Bound.of_subset {n m : FullName} (h : Bound N N' space n m) (hsub : N ⊆ N') :
    n = m ∨ ∃ ns, n = ⟨none, m.name⟩ ∧ m.space = some ns ∧ m ∈ N' ∧ m ∉ N := by
  rcases h with h | ⟨ns, -, hname, ⟨hn, hm, hN⟩ | ⟨-, -, hN, hN'⟩⟩
  · exact .inl h
  · refine .inr ⟨ns, ?_, hm, hN⟩
    rw [← hn, ← hname]
  · exact absurd (hsub n hN) hN'

namespace Twin

variable {s s' t t' : Schema}

theorem title (h : Twin N N' space s t) :
    (s.title? = none ∧ t.title? = none ∧ s.kind = t.kind) ∨
      ∃ n m, s.title? = some n ∧ t.title? = some m ∧ Bound N N' space n m :=
  h.alike.title.imp_right fun ⟨n, m, hs, ht, hb⟩ => ⟨n, m, hs, ht, hb.elim .inl id⟩

theorem key_of_kind (h : Twin N N' space s t) (hsub : N ⊆ N') {u : Schema}
    (hk : t.unionKey = u.kind) : s.unionKey = u.kind := by
  rcases h.title with ⟨hs, ht, hst⟩ | ⟨n, m, hs, ht, hb⟩
  · rw [unionKey_eq, ht] at hk
    rw [unionKey_eq, hs]
    exact hst.trans hk
  · rw [unionKey_eq, ht] at hk
    rw [unionKey_eq, hs]
    rcases hb.of_subset hsub with rfl | ⟨ns, -, hm, -⟩
    · exact hk
    · have hd := dot_not_mem_kind u
      rw [← hk, FullName.toList_text, hm] at hd
      simp at hd

theorem key (h : Twin N N' space s s') (h' : Twin N N' space t t') (hsub : N ⊆ N')
    (hk : s'.unionKey = t'.unionKey) : s.unionKey = t.unionKey := by
  rcases h.title with ⟨hs, hs', hst⟩ | ⟨n, m, hs, hs', hb⟩
  · rw [unionKey_eq s', hs'] at hk
    rw [unionKey_eq s, hs]
    exact hst.trans (h'.key_of_kind hsub hk.symm).symm
  · rcases h'.title with ⟨ht, ht', htt⟩ | ⟨n', m', ht, ht', hb'⟩
    · rw [unionKey_eq t', ht'] at hk
      rw [unionKey_eq t, ht]
      exact (h.key_of_kind hsub hk).trans htt.symm
    · rw [unionKey_eq, unionKey_eq t', hs', ht'] at hk
      rw [unionKey_eq, unionKey_eq t, hs, ht]
      cases FullName.text_inj (h.valid m hs') (h'.valid m' ht') hk
      rcases hb.of_subset hsub with rfl | ⟨_, rfl, _, hN⟩ <;>
        rcases hb'.of_subset hsub with rfl | ⟨_, rfl, _, hN'⟩
      · rfl
      · exact absurd (h.early _ hs hN'.1) hN'.2
      · exact absurd (h'.early _ ht hN.1) hN.2
      · rfl

theorem key_eq (h : Twin N N' space s t) (hsub : N ⊆ N') (hsub' : N' ⊆ N) :
    s.unionKey = t.unionKey := by
  rcases h.title with ⟨hs, ht, hst⟩ | ⟨n, m, hs, ht, hb⟩
  · rw [unionKey_eq, unionKey_eq t, hs, ht]
    exact hst
  · rw [unionKey_eq, unionKey_eq t, hs, ht, hb.eq hsub hsub']

end Twin

theorem Twin.of_reads {s t : Schema} {s₁ s₁' : Scope} (ha : Alike (Bound N N') space s t)
    (hl : Linked N N' s₁ s₁') (hs : Reads sc s₁ s.definitions s.refs) (ht : t.WellFormed) :
    Twin N N' space s t where
  alike := ha
  early n hn hN' := by
    have := hl.visible n
    have := hs.title hn
    grind
  valid _ hn := ht.title hn

/-- The keys of branches that both walks have read. -/
structure SeenAlike (N N' : Namespace) (space : Option String) (seen seen' : List String) :
    Prop where
  twins : ∀ k ∈ seen', ∃ s t, k = t.unionKey ∧ s.unionKey ∈ seen ∧ Twin N N' space s t
  same : N ⊆ N' → N' ⊆ N → seen = seen'

theorem SeenAlike.append {s t : Schema} {seen seen' : List String}
    (h : SeenAlike N N' space seen seen') (hst : Twin N N' space s t) :
    SeenAlike N N' space (seen ++ [s.unionKey]) (seen' ++ [t.unionKey]) where
  twins k hk := by
    rcases List.mem_append.mp hk with hk | hk
    · obtain ⟨u, v, rfl, hu, huv⟩ := h.twins k hk
      exact ⟨u, v, rfl, List.mem_append_left _ hu, huv⟩
    · exact ⟨s, t, List.mem_singleton.mp hk, by simp, hst⟩
  same hsub hsub' := by rw [h.same hsub hsub', hst.key_eq hsub hsub']

theorem SeenAlike.taken {s t : Schema} {seen seen' : List String}
    (h : SeenAlike N N' space seen seen') (hst : Twin N N' space s t) (hsub : N ⊆ N')
    (hk : t.unionKey ∈ seen') : s.unionKey ∈ seen := by
  obtain ⟨u, v, he, hu, huv⟩ := h.twins _ hk
  rwa [hst.key huv hsub he]

/-! ## The walk -/

namespace Agree

variable {R : α → α → Prop} {c : ParseError.Cause} {span : Option Span}

/-- The first walk fails for want of a name. -/
theorem fail_left {m : Walk α} (h : N ⊆ N' → ¬ N' ⊆ N ∧ c.Curable) :
    Agree N N' R (Schema.fail c span) m sc sc' := by
  unfold Agree
  rcases m sc' with ⟨_ | _, _⟩
  · exact fun hsub hsub' => absurd hsub' (h hsub).1
  · exact h

/-- Nothing is said of a second walk on top of fewer names. -/
theorem fail_right {m : Walk α} (h : ¬ N ⊆ N') : Agree N N' R m (Schema.fail c span) sc sc' := by
  unfold Agree
  rcases m sc with ⟨_ | _, _⟩
  · exact fun hsub => absurd hsub h
  · exact fun hsub => absurd hsub h

end Agree

mutual

theorem walk_agree (v : Json.Value) (enclosing : Option String) {sc sc' : Scope}
    (hl : Linked N N' sc sc') :
    Agree N N' (Alike (Bound N N') enclosing) (walk locate v enclosing) (walk locate' v enclosing)
      sc sc' := by
  match v with
  | .string s =>
    rw [walk, walk]
    exact typeName_agree hl s
  | .array vs =>
    rw [walk, walk]
    split
    · exact .fail hl
    · exact (walkBranches_agree vs enclosing ⟨by simp, fun _ _ => rfl⟩ hl).bind (fun _ => .pure _)
        fun _ _ _ _ _ _ ha hl => .pure ha hl
  | .object ms =>
    rw [walk, walk]
    exact walkObject_agree ms enclosing hl
  | .null | .bool _ | .number _ =>
    rw [walk, walk]
    · exact .fail hl
    all_goals simp
termination_by sizeOf v

theorem walkBranches_agree (vs : List Json.Value) (enclosing : Option String)
    {seen seen' : List String} {sc sc' : Scope} (hseen : SeenAlike N N' enclosing seen seen')
    (hl : Linked N N' sc sc') :
    Agree N N' (BranchesAlike (Bound N N') enclosing) (walkBranches locate vs enclosing seen)
      (walkBranches locate' vs enclosing seen') sc sc' := by
  match vs with
  | [] =>
    rw [walkBranches, walkBranches]
    exact .pure trivial hl
  | v :: vs =>
    rw [walkBranches, walkBranches]
    refine (walk_agree v enclosing hl).bind (fun s => ?_) fun s t s₁ s₁' hs ht ha hl₁ => ?_
    · split
      · exact .fail _ _
      · split
        · exact .fail _ _
        · exact .bind (.of_sound (walkBranches_sound _ _ _)) fun _ => .pure _
    · have hst : Twin N N' enclosing s t :=
        .of_reads ha hl₁ ((walk_sound v enclosing sc).ok hs).1
          ((walk_sound v enclosing sc').ok ht).2
      rw [← ha.isUnion_eq]
      split
      · exact .fail hl₁
      · by_cases hk : s.unionKey ∈ seen
        · rw [if_pos hk]
          by_cases hk' : t.unionKey ∈ seen'
          · rw [if_pos hk']
            intro hsub hsub'
            exact ⟨by rw [hst.key_eq hsub hsub'], hl₁⟩
          · rw [if_neg hk']
            refine .fail_left fun hsub => ⟨fun hsub' => hk' ?_, .inr ⟨_, rfl⟩⟩
            rwa [← hst.key_eq hsub hsub', ← hseen.same hsub hsub']
        · rw [if_neg hk]
          by_cases hk' : t.unionKey ∈ seen'
          · rw [if_pos hk']
            exact .fail_right fun hsub => hk (hseen.taken hst hsub hk')
          · rw [if_neg hk']
            exact (walkBranches_agree vs enclosing (hseen.append hst) hl₁).bind (fun _ => .pure _)
              fun _ _ _ _ _ _ hb hl => .pure ⟨ha, hb⟩ hl
termination_by sizeOf vs

theorem walkObject_agree (ms : Json.Members) (enclosing : Option String) {sc sc' : Scope}
    (hl : Linked N N' sc sc') :
    Agree N N' (Alike (Bound N N') enclosing) (walkObject locate ms enclosing)
      (walkObject locate' ms enclosing) sc sc' := by
  rw [walkObject, walkObject]
  split
  · exact .fail hl
  · rename_i inner h
    have : 1 + sizeOf inner < sizeOf ms := by simpa using Json.Members.sizeOf_lt_of_get? h
    exact walk_agree (.object inner) enclosing hl
  · rename_i inner h
    have : 1 + sizeOf inner < sizeOf ms := by simpa using Json.Members.sizeOf_lt_of_get? h
    exact walk_agree (.array inner) enclosing hl
  · rename_i type h
    split
    · refine definedName_same.andThen hl fun name _ => ?_
      refine checkFresh_agree hl ?_ fun hN hN' => ?_
      · split
        · exact .bind fun _ => .bind fun _ => register_defines rfl
        · exact .fail _ _
      · split
        · rename_i vs hf
          have : sizeOf vs < sizeOf ms := by
            have := Json.Members.sizeOf_lt_of_get? hf
            simp at this
            omega
          exact recordFields_agree (walkFields_agree vs name.space (hl.enter hN hN'))
        · exact .fail hl
    · split
      · exact enumType_agree hl
      · split
        · exact withLogical_agree (fixedType_agree hl)
        · split
          · split
            · exact .fail hl
            · rename_i items hi
              have := Json.Members.sizeOf_lt_of_get? hi
              exact (walk_agree items enclosing hl).bind (fun _ => .pure _)
                fun _ _ _ _ _ _ ha hl => .pure ha hl
          · split
            · split
              · exact .fail hl
              · rename_i values hv
                have := Json.Members.sizeOf_lt_of_get? hv
                exact (walk_agree values enclosing hl).bind (fun _ => .pure _)
                  fun _ _ _ _ _ _ ha hl => .pure ha hl
            · exact withLogical_agree (typeName_agree hl type)
  · exact .fail hl
termination_by sizeOf ms

theorem walkFields_agree (vs : List Json.Value) (space : Option String) {seen : List String}
    {sc sc' : Scope} (hl : Linked N N' sc sc') :
    Agree N N' (FieldsAlike (Bound N N') space) (walkFields locate vs space seen)
      (walkFields locate' vs space seen) sc sc' := by
  match vs with
  | [] =>
    rw [walkFields, walkFields]
    exact .pure trivial hl
  | .object ms :: vs =>
    rw [walkFields, walkFields]
    refine (requiredString_same _ _).andThen hl fun name _ => ?_
    split
    · exact .fail hl
    · split
      · exact .fail hl
      · split
        · exact .fail hl
        · rename_i type h
          have := Json.Members.sizeOf_lt_of_get? h
          refine (walk_agree type space hl).bind (fun s => ?_) fun s t _ _ _ _ ha hl₁ => ?_
          · exact .bind (.of_sound (walkFields_sound _ _ _)) fun _ => .pure _
          · exact (walkFields_agree vs space hl₁).bind (fun _ => .pure _)
              fun _ _ _ _ _ _ hf hl => .pure ⟨rfl, rfl, rfl, ha, hf⟩ hl
  | .null :: _ | .bool _ :: _ | .number _ :: _ | .string _ :: _ | .array _ :: _ =>
    rw [walkFields, walkFields]
    · exact .fail hl
    all_goals simp
termination_by sizeOf vs

end

end AvroLink.Schema
