import AvroLink.Proofs.Effect

/-!
# What a walk reads

A walk that succeeds has read a well-formed schema and did to the namespace what `Reads` says of it,
and one that fails still closes what it opened (`Sound`). The proof goes by induction on the value.
-/

namespace AvroLink.Schema

variable {locate : Locate} {ms : Json.Members} {enclosing : Option String}

/-! ## Names and attributes -/

theorem fresh_andThen {α : Type} {k : FullName → Walk α} {sc : Scope} {Ok : α → Scope → Prop}
    (hk : ∀ name, name.Valid → ¬ sc.Visible name → Ends (k name) sc Ok fun _ => Leaves sc) :
    Ends (do
      let name ← definedName locate ms enclosing
      checkFresh locate name
      k name) sc Ok fun _ => Leaves sc := by
  refine definedName_quiet.andThen (fun _ => .refl sc) fun name hname => ?_
  unfold Ends
  by_cases h : sc.Visible name
  · rw [Walk.bind_error (checkFresh_taken h)]
    exact .refl sc
  · rw [Walk.bind_ok (checkFresh_free h)]
    exact hk name hname h

theorem aliasList_quiet (space : Option String) (vs : List Json.Value) :
    Quiet (aliasList locate space vs) fun as => ∀ a ∈ as, a.Valid := by
  induction vs with
  | nil => exact .pure (by simp)
  | cons v vs ih =>
    rw [aliasList]
    split
    · exact .fail _ _
    · refine (resolveName_quiet _).bind fun n hn => ih.bind fun as has => .pure ?_
      simpa using ⟨FullName.resolve_valid hn, has⟩

theorem aliases_quiet (space : Option String) :
    Quiet (aliases locate ms space) fun as => ∀ a ∈ as, a.Valid := by
  unfold aliases
  split
  · exact .pure (by simp)
  · exact aliasList_quiet _ _
  · exact .fail _ _

theorem symbolList_quiet (name : FullName) (vs : List Json.Value) (seen : List String)
    (hv : ∀ s ∈ seen, isValidName s = true) (hd : seen.Nodup) :
    Quiet (symbolList locate name seen vs) fun ss =>
      (∀ s ∈ ss, isValidName s = true) ∧ ss.Nodup := by
  induction vs generalizing seen with
  | nil => exact .pure ⟨hv, hd⟩
  | cons v vs ih =>
    rw [symbolList]
    split
    · exact .fail _ _
    · rename_i s _
      split
      · exact .fail _ _
      · split
        · exact .fail _ _
        · refine ih _ ?_ ?_
          · intro t ht
            rcases List.mem_append.mp ht with ht | ht
            · exact hv t ht
            · cases List.mem_singleton.mp ht
              simpa using ‹¬(!isValidName s) = true›
          · rw [List.nodup_append]
            refine ⟨hd, by simp, ?_⟩
            rintro t ht _ hs rfl
            cases List.mem_singleton.mp hs
            exact absurd ht ‹_›

theorem defaultSymbol_quiet (name : FullName) (symbols : List String) :
    Quiet (defaultSymbol ms name symbols) fun d => ∀ s ∈ d, s ∈ symbols := by
  unfold defaultSymbol
  split
  · exact .pure (by simp)
  · exact .pure (by simp)
  · split
    · split
      · exact .pure (by simpa using ‹_›)
      · exact .fail _ _
    · exact .fail _ _

/-! ## References and logical types -/

/-- A candidate is the name as resolved or, for a simple name, the one in the null namespace. -/
theorem candidates_eq {text : String} {name : FullName}
    (h : FullName.resolve text enclosing = .ok name) :
    candidates text enclosing name = [name] ∨
      ∃ space, enclosing = some space ∧ name = ⟨FullName.spaceOf enclosing, text⟩ ∧
        candidates text enclosing name = [name, ⟨none, text⟩] := by
  unfold candidates
  split
  · exact .inl rfl
  · rename_i hc
    simp only [List.contains_eq_mem, decide_eq_true_eq, not_or] at hc
    obtain ⟨hd, he⟩ := hc
    obtain ⟨space, rfl⟩ := Option.ne_none_iff_exists'.mp he
    rw [FullName.parse_simple hd h]
    exact .inr ⟨space, rfl, FullName.resolve_simple hd h, rfl⟩

theorem candidates_valid {text : String} {name n : FullName}
    (h : FullName.resolve text enclosing = .ok name) (hn : n ∈ candidates text enclosing name) :
    n.Valid := by
  have hv := FullName.resolve_valid h
  rcases candidates_eq h with hc | ⟨_, _, hname, hc⟩
  · rw [hc] at hn
    exact List.mem_singleton.mp hn ▸ hv
  · rw [hc] at hn
    rcases List.mem_cons.mp hn with rfl | hn
    · exact hv
    · cases List.mem_singleton.mp hn
      subst hname
      exact ⟨hv.name, fun _ h => by cases h⟩

theorem reference_ends (text : String) (sc : Scope) :
    Ends (reference locate text enclosing) sc
      (fun s sc' => sc' = sc ∧ ∃ n, s = .ref n ∧ sc.Visible n ∧ n.Valid) fun _ sc' => sc' = sc := by
  refine (resolveName_quiet text).andThen (fun _ => rfl) fun name hname => .bind (.get ?_)
  split
  · rename_i n hn
    have hv := List.find?_some hn
    have hm := List.mem_of_find?_eq_some hn
    exact .pure ⟨rfl, n, rfl, by simpa using hv, candidates_valid hname hm⟩
  · exact .fail rfl

theorem typeName_ends (text : String) (sc : Scope) :
    Ends (typeName locate text enclosing) sc
      (fun s sc' => sc' = sc ∧ ((∃ p, s = .primitive p) ∨ ∃ n, s = .ref n ∧ sc.Visible n ∧ n.Valid))
      fun _ sc' => sc' = sc := by
  unfold typeName
  split
  · exact .pure ⟨rfl, .inl ⟨_, rfl⟩⟩
  · exact (reference_ends text sc).mono (fun _ _ h => ⟨h.1, .inr h.2⟩) fun _ _ h => h

theorem decimalType?_eq {l : LogicalType} (h : decimalType? ms = some l) :
    ∃ precision scale, l = .decimal precision scale ∧ 0 < precision ∧ precision < UInt32.size ∧
      scale ≤ precision := by
  have hcheck : ∀ precision scale : Nat,
      (if 0 < precision ∧ scale ≤ precision ∧ precision < UInt32.size then
        some (LogicalType.decimal precision scale) else none) = some l →
      l = .decimal precision scale ∧ 0 < precision ∧ precision < UInt32.size ∧
        scale ≤ precision := by
    intro precision scale h
    split at h
    · cases h
      exact ⟨rfl, by omega⟩
    · cases h
  obtain ⟨precision, _, h⟩ := Option.bind_eq_some_iff.mp h
  split at h
  · exact ⟨precision, 0, hcheck _ _ h⟩
  · obtain ⟨scale, _, h⟩ := Option.bind_eq_some_iff.mp h
    exact ⟨precision, scale, hcheck _ _ h⟩

theorem decimalType?_of_ite {keyword : String} {l : LogicalType}
    (h : (if keyword = "decimal" then decimalType? ms else none) = some l) :
    decimalType? ms = some l := by
  split at h
  · exact h
  · cases h

theorem logicalType?_fits {keyword : String} {base : Schema} {l : LogicalType}
    (h : logicalType? ms keyword base = some l) : l.Fits base := by
  cases base with
  | primitive p =>
    cases p with
    | int =>
      simp only [logicalType?] at h
      split at h
      · cases h; rfl
      · split at h
        · cases h; rfl
        · cases h
    | long =>
      simp only [logicalType?] at h
      split at h
      · cases h; rfl
      · split at h
        · cases h; rfl
        · split at h
          · cases h; rfl
          · cases h
    | string =>
      simp only [logicalType?] at h
      split at h
      · cases h; rfl
      · cases h
    | bytes =>
      obtain ⟨_, _, rfl, hp⟩ := decimalType?_eq (decimalType?_of_ite h)
      exact ⟨rfl, hp⟩
    | _ => cases h
  | fixed f =>
    obtain ⟨_, _, rfl, hp⟩ := decimalType?_eq (decimalType?_of_ite h)
    exact hp
  | _ => cases h

/-- A logical type adds no definitions and no references. -/
theorem withLogical_eq (ms : Json.Members) (base : Schema) :
    withLogical ms base = base ∨
      ∃ l : LogicalType, withLogical ms base = .logical l base ∧ l.Fits base := by
  unfold withLogical
  split
  · rename_i l hl
    obtain ⟨k, _, hk⟩ := Option.bind_eq_some_iff.mp hl
    exact .inr ⟨l, rfl, logicalType?_fits hk⟩
  · exact .inl rfl

/-! ## The walk -/

/-- A walk that reads something good, with the definitions and references that `defs` and `refs`
list. -/
def Sound {α : Type} (defs : α → List Schema) (refs : α → List FullName) (good : α → Prop)
    (m : Walk α) : Prop :=
  ∀ sc, Ends m sc (fun a sc' => Reads sc sc' (defs a) (refs a) ∧ good a) fun _ sc' => Leaves sc sc'

theorem withLogical_sound {m : Walk Schema} (h : Sound definitions refs WellFormed m) :
    Sound definitions refs WellFormed (do return withLogical ms (← m)) := by
  intro sc
  refine .bind ((h sc).mono (fun s sc' hs => .pure ?_) fun _ _ h => h)
  rcases withLogical_eq ms s with he | ⟨l, he, hl⟩
  · rw [he]
    exact hs
  · rw [he]
    exact ⟨by simpa only [definitions, refs] using hs.1, hl, hs.2⟩

theorem typeName_sound (text : String) :
    Sound definitions refs WellFormed (typeName locate text enclosing) := by
  intro sc
  refine (typeName_ends text sc).mono ?_ ?_
  · rintro s sc' ⟨rfl, ⟨p, rfl⟩ | ⟨n, rfl, hn, hv⟩⟩
    · exact ⟨.refl sc', trivial⟩
    · exact ⟨⟨[], .refl sc', by simp [definitions], by simpa [refs] using hn⟩, hv⟩
  · rintro _ sc' rfl
    exact .refl sc'

theorem register_sound {s : Schema} {n : FullName} {sc : Scope} (hs : s.name? = some n)
    (fresh : ¬ sc.Visible n) (hd : s.definitions = [s]) (hi : s.inner = []) (hr : s.refs = [])
    (hw : s.WellFormed) :
    Ends (register locate s) sc
      (fun s sc' => Reads sc sc' s.definitions s.refs ∧ s.WellFormed) fun _ => Leaves sc := by
  obtain ⟨types, hreg, hg⟩ := (Grows.refl sc).register locate hs fresh (by simp)
    (by simp [hi])
  unfold Ends
  rw [hreg]
  exact ⟨⟨_, hg, by simp [hd], by simp [hr]⟩, hw⟩

theorem enumType_sound : Sound definitions refs WellFormed (enumType locate ms enclosing) := by
  intro sc
  refine fresh_andThen fun name hname fresh => ?_
  split
  · rename_i vs _
    refine (symbolList_quiet name vs [] (by simp) List.nodup_nil).andThen (fun _ => .refl _) ?_
    intro symbols hsym
    refine (defaultSymbol_quiet name symbols).andThen (fun _ => .refl _) fun default hdef => ?_
    refine (aliases_quiet name.space).andThen (fun _ => .refl _) fun as has => ?_
    exact register_sound rfl fresh rfl rfl rfl ⟨hname, has, hsym.1, hsym.2, hdef⟩
  · exact .fail (.refl _)

theorem fixedType_sound : Sound definitions refs WellFormed (fixedType locate ms enclosing) := by
  intro sc
  refine fresh_andThen fun name hname fresh => ?_
  split
  · refine (aliases_quiet name.space).andThen (fun _ => .refl _) fun as has => ?_
    exact register_sound rfl fresh rfl rfl rfl ⟨hname, has⟩
  · exact .fail (.refl _)

/-- The branches read after ones with the keys `seen`. -/
def NewBranches (seen : List String) (ss : List Schema) : Prop :=
  BranchesWellFormed ss ∧ (ss.map unionKey).Nodup ∧ ∀ s ∈ ss, s.unionKey ∉ seen

/-- The fields read after ones with the names `seen`. -/
def NewFields (seen : List String) (fs : List Field) : Prop :=
  FieldsWellFormed fs ∧ (fs.map FieldOf.name).Nodup ∧ ∀ f ∈ fs, f.name ∉ seen

theorem keys_cons {α : Type} {key : α → String} {seen : List String} {x : α} {xs : List α}
    (hx : key x ∉ seen) (hd : (xs.map key).Nodup) (hs : ∀ y ∈ xs, key y ∉ seen ++ [key x]) :
    ((x :: xs).map key).Nodup ∧ ∀ y ∈ x :: xs, key y ∉ seen := by
  rw [List.map_cons, List.nodup_cons]
  refine ⟨⟨fun hm => ?_, hd⟩, fun y hy => ?_⟩
  · obtain ⟨y, hy, he⟩ := List.mem_map.mp hm
    exact hs y hy (by simp [he])
  · rcases List.mem_cons.mp hy with rfl | hy
    · exact hx
    · exact fun hm => hs y hy (List.mem_append_left _ hm)

theorem keys_tail {α : Type} {key : α → String} {seen : List String} {x : α} {xs : List α}
    (hd : ((x :: xs).map key).Nodup) (hs : ∀ y ∈ x :: xs, key y ∉ seen) :
    (xs.map key).Nodup ∧ ∀ y ∈ xs, key y ∉ seen ++ [key x] := by
  obtain ⟨hx, hd⟩ := List.nodup_cons.mp hd
  refine ⟨hd, fun y hy hm => ?_⟩
  rcases List.mem_append.mp hm with hm | hm
  · exact hs y (List.mem_cons_of_mem _ hy) hm
  · exact hx (List.mem_singleton.mp hm ▸ List.mem_map_of_mem hy)

theorem recordFields_sound {vs : List Json.Value} {name : FullName} {sc : Scope}
    (hname : name.Valid) (fresh : ¬ sc.Visible name)
    (hfields : Sound fieldDefinitions fieldRefs (NewFields [])
      (walkFields locate vs name.space [])) :
    Ends (do
      let fields ← opening name (walkFields locate vs name.space [])
      let as ← aliases locate ms name.space
      register locate (.record ⟨name, docOf ms, as⟩ fields)) sc
      (fun s sc' => Reads sc sc' s.definitions s.refs ∧ s.WellFormed) fun _ => Leaves sc := by
  refine .bind (.opening ((hfields _).mono ?_ ?_))
  · rintro fields sc' ⟨⟨new, hg, hp, hr⟩, hw, hnames, -⟩
    obtain ⟨hg', apart⟩ := hg.close
    refine (aliases_quiet name.space).andThen (fun _ => ⟨_, hg'⟩) fun as has => ?_
    obtain ⟨types, hreg, hg''⟩ := hg'.register locate
      (s := .record ⟨name, docOf ms, as⟩ fields) rfl fresh apart
      fun d hd => hp.mem_iff.mpr hd
    unfold Ends
    rw [hreg]
    refine ⟨⟨_, hg'', ?_, fun n hn => ?_⟩, ⟨hname, has⟩, hnames, hw⟩
    · rw [List.map_append, definitions]
      exact List.perm_append_comm.trans (hp.cons _)
    · simp only [refs] at hn
      rcases hr n hn with hn | hn
      · refine .inl (hg''.mem_types.mpr ?_)
        rcases hg.mem_types.mp hn with hn | hn
        · exact .inl hn
        · exact .inr (by simp [hn])
      · rw [hg.opened] at hn
        rcases List.mem_cons.mp hn with rfl | hn
        · exact .inl (hg''.mem_types.mpr (.inr (by simp)))
        · exact .inr (hg''.opened ▸ hn)
  · rintro _ sc' ⟨new, hg⟩
    exact ⟨new, hg.close.1⟩

mutual

theorem walk_sound (v : Json.Value) (enclosing : Option String) :
    Sound definitions refs WellFormed (walk locate v enclosing) := by
  match v with
  | .string s =>
    rw [walk]
    exact typeName_sound s
  | .array vs =>
    rw [walk]
    split
    · exact fun sc => .fail (.refl sc)
    · rename_i hne
      intro sc
      refine .bind ((walkBranches_sound vs enclosing [] sc).mono ?_ fun _ _ h => h)
      rintro ss sc' ⟨hr, ⟨hw, hk, -⟩, hlen⟩
      refine .pure ⟨by simpa only [definitions, refs] using hr, ?_, hk, hw⟩
      rintro rfl
      exact hne (List.isEmpty_iff.mpr (List.eq_nil_of_length_eq_zero hlen.symm))
  | .object ms =>
    rw [walk]
    exact walkObject_sound ms enclosing
  | .null | .bool _ | .number _ =>
    rw [walk]
    · exact fun sc => .fail (.refl sc)
    all_goals simp
termination_by sizeOf v

theorem walkBranches_sound (vs : List Json.Value) (enclosing : Option String) (seen : List String) :
    Sound branchDefinitions branchRefs (fun ss => NewBranches seen ss ∧ ss.length = vs.length)
      (walkBranches locate vs enclosing seen) := by
  match vs with
  | [] =>
    rw [walkBranches]
    exact fun sc => .pure ⟨.refl sc, ⟨trivial, by simp, by simp⟩, rfl⟩
  | v :: vs =>
    rw [walkBranches]
    intro sc
    refine .bind ((walk_sound v enclosing sc).mono ?_ fun _ _ h => h)
    rintro s sc₁ ⟨hr, hw⟩
    split
    · exact .fail hr.leaves
    · rename_i hu
      split
      · exact .fail hr.leaves
      · rename_i hk
        refine .bind ((walkBranches_sound vs enclosing (seen ++ [s.unionKey]) sc₁).mono ?_ ?_)
        · rintro ss sc₂ ⟨hr', ⟨hw', hnd, hseen⟩, hlen⟩
          exact .pure ⟨by simpa only [branchDefinitions, branchRefs] using hr.trans hr',
            ⟨⟨by simpa using hu, hw, hw'⟩, keys_cons hk hnd hseen⟩, by simp [hlen]⟩
        · exact fun _ _ h => hr.leaves.trans h
termination_by sizeOf vs

theorem walkObject_sound (ms : Json.Members) (enclosing : Option String) :
    Sound definitions refs WellFormed (walkObject locate ms enclosing) := by
  rw [walkObject]
  split
  · exact fun sc => .fail (.refl sc)
  · rename_i inner h
    have : 1 + sizeOf inner < sizeOf ms := by simpa using Json.Members.sizeOf_lt_of_get? h
    exact walk_sound (.object inner) enclosing
  · rename_i inner h
    have : 1 + sizeOf inner < sizeOf ms := by simpa using Json.Members.sizeOf_lt_of_get? h
    exact walk_sound (.array inner) enclosing
  · rename_i type h
    split
    · intro sc
      refine fresh_andThen fun name hname fresh => ?_
      split
      · rename_i vs hf
        have : sizeOf vs < sizeOf ms := by
          have := Json.Members.sizeOf_lt_of_get? hf
          simp at this
          omega
        exact recordFields_sound hname fresh (walkFields_sound vs name.space [])
      · exact .fail (.refl _)
    · split
      · exact enumType_sound
      · split
        · exact withLogical_sound fixedType_sound
        · split
          · split
            · exact fun sc => .fail (.refl sc)
            · rename_i items hi
              have := Json.Members.sizeOf_lt_of_get? hi
              intro sc
              refine .bind ((walk_sound items enclosing sc).mono (fun s _ hs => .pure ?_)
                fun _ _ h => h)
              exact ⟨by simpa only [definitions, refs] using hs.1, hs.2⟩
          · split
            · split
              · exact fun sc => .fail (.refl sc)
              · rename_i values hv
                have := Json.Members.sizeOf_lt_of_get? hv
                intro sc
                refine .bind ((walk_sound values enclosing sc).mono (fun s _ hs => .pure ?_)
                  fun _ _ h => h)
                exact ⟨by simpa only [definitions, refs] using hs.1, hs.2⟩
            · exact withLogical_sound (typeName_sound type)
  · exact fun sc => .fail (.refl sc)
termination_by sizeOf ms

theorem walkFields_sound (vs : List Json.Value) (space : Option String) (seen : List String) :
    Sound fieldDefinitions fieldRefs (NewFields seen) (walkFields locate vs space seen) := by
  match vs with
  | [] =>
    rw [walkFields]
    exact fun sc => .pure ⟨.refl sc, trivial, by simp, by simp⟩
  | .object ms :: vs =>
    rw [walkFields]
    intro sc
    refine (requiredString_quiet _ _).andThen (fun _ => .refl sc) fun name _ => ?_
    split
    · exact .fail (.refl sc)
    · rename_i hv
      split
      · exact .fail (.refl sc)
      · rename_i hk
        split
        · exact .fail (.refl sc)
        · rename_i type h
          have := Json.Members.sizeOf_lt_of_get? h
          refine .bind ((walk_sound type space sc).mono ?_ fun _ _ h => h)
          rintro s sc₁ ⟨hr, hw⟩
          refine .bind ((walkFields_sound vs space (seen ++ [name]) sc₁).mono ?_ ?_)
          · rintro fs sc₂ ⟨hr', hw', hnd, hseen⟩
            exact .pure ⟨by simpa only [fieldDefinitions, fieldRefs] using hr.trans hr',
              ⟨by simpa using hv, hw, hw'⟩, keys_cons hk hnd hseen⟩
          · exact fun _ _ h => hr.leaves.trans h
  | .null :: _ | .bool _ :: _ | .number _ :: _ | .string _ :: _ | .array _ :: _ =>
    rw [walkFields]
    · exact fun sc => .fail (.refl sc)
    all_goals simp
termination_by sizeOf vs

end

end AvroLink.Schema
