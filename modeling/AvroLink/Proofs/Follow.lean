import AvroLink.Proofs.ReadBack
import AvroLink.Proofs.Steps

/-!
# The same value in another scope

A value that spells all names with a dot is read a second time, in a scope that may see more names
(`Wider`): those that it could see before, and some of the types that are defined in it, which are
then taken from outside. `Follows` says what the second walk returns, and why it may fail where the
first one did not. The names of the types make the difference, so there is one lemma for each step
that defines a type or refers to one.
-/

namespace AvroLink

theorem FullName.resolve_of_dot {text : String} (h : '.' ∈ text.toList)
    (enclosing enclosing' : Option String) : resolve text enclosing = resolve text enclosing' := by
  have hparts : parts text enclosing = parts text enclosing' := by
    unfold parts
    cases hc : Text.cutLast '.' text.toList with
    | none => exact absurd h (Text.cutLast_eq_none.mp hc)
    | some p => rfl
  rw [resolve_eq, resolve_eq, hparts]

namespace Schema

variable {α β : Type} {locate locate' : Locate} {ms ms' : Json.Members}
  {enclosing enclosing' : Option String} {sc sc' sc₁ sc₁' : Scope} {s t : Schema} {name : FullName}
  {extra names names' : List FullName} {excuse excuse' : Prop}

/-! ## Two scopes -/

/-- `sc'` sees what `sc` sees and the names `extra`, and none of the other `names`. -/
structure Wider (extra : List FullName) (sc sc' : Scope) (names : List FullName) : Prop where
  seen : ∀ n, sc.Visible n ∨ n ∈ extra → sc'.Visible n
  free : ∀ n ∈ names, n ∉ extra → ¬ sc'.Visible n

theorem Wider.mono (h : Wider extra sc sc' names) (hsub : ∀ n ∈ names', n ∈ names) :
    Wider extra sc sc' names' :=
  ⟨h.seen, fun n hn => h.free n (hsub n hn)⟩

theorem Wider.forget (h : Wider extra sc sc' names) (hd : ∀ n ∈ names, n ∉ extra) :
    Wider [] sc sc' names :=
  ⟨fun n hn => h.seen n (.inl (hn.resolve_right (by simp))), fun n hn _ => h.free n hn (hd n hn)⟩

/-- From `sc` to `sc₁` exactly the types `names` were registered. -/
structure Adds (sc sc₁ : Scope) (names : List FullName) : Prop where
  visible : ∀ n, sc₁.Visible n ↔ sc.Visible n ∨ n ∈ names
  fresh : ∀ n ∈ names, ¬ sc.Visible n

theorem Grows.adds {new : List Entry} (h : Grows sc sc₁ new) :
    Adds sc sc₁ (new.map Prod.fst) where
  visible n := by
    rw [Scope.Visible, h.mem_types, h.opened, Scope.Visible]
    grind
  fresh n hn := by
    rintro (hv | hv)
    · exact h.not_mem_new hv hn
    · obtain ⟨e, he, rfl⟩ := List.mem_map.mp hn
      exact h.apart e he hv

/-- After a part was read in both scopes they still compare, also where `extra` was defined by the
first part and taken from outside by the second. -/
theorem Wider.step (h : Wider extra sc sc' (names ++ names')) {added : List FullName}
    (ha : Adds sc sc₁ names) (ha' : Adds sc' sc₁' added) (hsub : ∀ n ∈ added, n ∈ names)
    (hsup : ∀ n ∈ names, n ∈ extra ∨ n ∈ added) (hfresh : ∀ n ∈ names', ¬ sc₁.Visible n) :
    Wider extra sc₁ sc₁' names' where
  seen n hn := by
    rw [ha'.visible]
    rw [ha.visible, or_assoc] at hn
    rcases hn with hn | hn | hn
    · exact .inl (h.seen n (.inl hn))
    · rcases hsup n hn with hn | hn
      · exact .inl (h.seen n (.inr hn))
      · exact .inr hn
    · exact .inl (h.seen n (.inr hn))
  free n hn he := by
    rw [ha'.visible]
    rintro (hv | hv)
    · exact h.free n (List.mem_append_right _ hn) he hv
    · exact hfresh n hn ((ha.visible n).mpr (.inr (hsub n hv)))

/-- The walk `m` from `sc'`, where another one from `sc` has defined `names`: it returns `a` or fails,
and where `sc'` is wide enough it fails with an excuse only. -/
def Follows (extra names : List FullName) (sc sc' : Scope) (excuse : Prop) (a : α) (m : Walk α) :
    Prop :=
  Ends m sc' (fun b _ => b = a) fun _ _ => Wider extra sc sc' names → excuse

namespace Follows

variable {a : α} {b : β} {m : Walk α} {k : α → Walk β}

theorem mono (h : Follows extra names sc sc' excuse a m) (hn : ∀ n ∈ names, n ∈ names')
    (he : excuse → excuse') : Follows extra names' sc sc' excuse' a m :=
  Ends.mono h (fun _ _ h => h) fun _ _ hw hw' => he (hw (hw'.mono hn))

theorem excused (h : Follows extra names sc sc' excuse a m) (he : excuse → excuse') :
    Follows extra names sc sc' excuse' a m :=
  h.mono (fun _ hn => hn) he

/-- Where the names have nothing to do with `extra`, these may be seen as well. -/
theorem widen (h : Follows [] names sc sc' False a m) (hd : ∀ n ∈ names, n ∉ extra) :
    Follows extra names sc sc' excuse a m :=
  Ends.mono h (fun _ _ h => h) fun _ _ hw hw' => (hw (hw'.forget hd)).elim

theorem pure : Follows extra names sc sc' excuse a (Pure.pure a) := Ends.pure rfl

theorem ok_bind (hm : m sc' = (.ok a, sc')) (hk : Follows extra names sc sc' excuse b (k a)) :
    Follows extra names sc sc' excuse b (m >>= k) := by
  unfold Follows Ends at hk ⊢
  rwa [Walk.bind_ok hm]

theorem map (f : α → β) (h : Follows extra names sc sc' excuse a m) :
    Follows extra names sc sc' excuse (f a) (do return f (← m)) :=
  .bind (Ends.mono h (fun _ _ he => .pure (congrArg f he)) fun _ _ h => h)

end Follows

/-! ## Names of the types that were read -/

def branchNames (ss : List Schema) : List FullName := (branchDefinitions ss).filterMap name?

def fieldNames (fs : List Field) : List FullName := (fieldDefinitions fs).filterMap name?

@[simp] theorem definedNames_record (h : RecordHead) (fs : List Field) :
    (record h fs).definedNames = h.name :: fieldNames fs := rfl

@[simp] theorem branchNames_cons (s : Schema) (ss : List Schema) :
    branchNames (s :: ss) = s.definedNames ++ branchNames ss := by
  simp [branchNames, branchDefinitions, definedNames]

@[simp] theorem fieldNames_cons (f : Field) (fs : List Field) :
    fieldNames (f :: fs) = f.schema.definedNames ++ fieldNames fs := by
  simp [fieldNames, fieldDefinitions, definedNames]

section

variable {defs : List Schema} {refs : List FullName}

theorem Reads.registered (h : Reads sc sc₁ defs refs) :
    ∃ new, Grows sc sc₁ new ∧ (new.map Prod.fst).Perm (defs.filterMap name?) := by
  obtain ⟨new, hg, hperm, -⟩ := h
  have hnew : new.map Prod.fst = (new.map Prod.snd).filterMap name? := by
    rw [List.filterMap_map, ← List.filterMap_eq_map]
    refine List.filterMap_congr fun e he => ?_
    exact (sc₁.types.named e (by rw [hg.entries]; exact List.mem_append_right _ he)).symm
  exact ⟨new, hg, hnew ▸ hperm.filterMap name?⟩

theorem Reads.adds (h : Reads sc sc₁ defs refs) : Adds sc sc₁ (defs.filterMap name?) := by
  obtain ⟨new, hg, hperm⟩ := h.registered
  have ha := hg.adds
  exact ⟨fun n => by rw [ha.visible, hperm.mem_iff], fun n hn => ha.fresh n (hperm.mem_iff.mpr hn)⟩

theorem Reads.nodup (h : Reads sc sc₁ defs refs) : (defs.filterMap name?).Nodup := by
  obtain ⟨new, hg, hperm⟩ := h.registered
  have hd := sc₁.types.nodup
  rw [hg.entries, List.map_append, List.nodup_append] at hd
  exact hperm.nodup_iff.mp hd.2.1

end

theorem walk_adds (v : Json.Value) (enclosing : Option String) (sc : Scope) :
    Ends (walk locate v enclosing) sc (fun s sc₁ => Adds sc sc₁ s.definedNames) fun _ _ => True :=
  (walk_sound v enclosing sc).mono (fun _ _ h => h.1.adds) fun _ _ _ => trivial

/-! ## Steps that are the same in both scopes -/

theorem SameStep.ok {m m' : Walk α} (h : SameStep m m') {a : α} (hm : m sc = (.ok a, sc₁))
    (sc' : Scope) : m' sc' = (.ok a, sc') := by
  obtain ⟨r, r', hr, hr', hrr⟩ := h
  rw [hr sc] at hm
  obtain ⟨rfl, -⟩ := Prod.mk.inj hm
  cases r' with
  | error e => exact hrr.elim
  | ok b =>
    cases hrr
    exact hr' sc'

theorem namespaceOf_ok {space : Option String} (h : namespaceOf ms enclosing sc = (.ok space, sc₁))
    (hspace : ms'.get? "namespace" = ms.get? "namespace") (enclosing' : Option String) :
    ∃ space', namespaceOf ms' enclosing' = pure space' := by
  unfold namespaceOf at h ⊢
  rw [hspace]
  cases hv : ms.get? "namespace" with
  | none => exact ⟨_, rfl⟩
  | some v =>
    rw [hv] at h
    cases v with
    | null => exact ⟨_, rfl⟩
    | string ns => exact ⟨_, rfl⟩
    | _ => cases h

/-- A definition that is spelled with a full name has this name in every scope. -/
theorem definedName_qualified (hname : ms'.get? "name" = ms.get? "name")
    (hspace : ms'.get? "namespace" = ms.get? "namespace")
    (hdot : ∀ text, ms.get? "name" = some (.string text) → '.' ∈ text.toList)
    (h : definedName locate ms enclosing sc = (.ok name, sc₁)) (sc' : Scope) :
    definedName locate' ms' enclosing' sc' = (.ok name, sc') := by
  obtain ⟨text, sc₂, htext, hrest⟩ := Walk.bind_eq_ok.mp h
  obtain ⟨space, sc₃, hns, hlast⟩ := Walk.bind_eq_ok.mp hrest
  have hget := ((requiredString_quiet _ _).ok_eq htext).2
  have hresolve := ((resolveName_quiet text).ok_eq hlast).2
  obtain ⟨space', hns'⟩ := namespaceOf_ok hns hspace enclosing'
  rw [definedName, requiredString_eq (hname.trans hget), pure_bind, hns', pure_bind,
    resolveName_ok ((FullName.resolve_of_dot (hdot text hget) _ _).trans hresolve)]
  rfl

theorem defined_ok {k : FullName → Walk α} {a : α}
    (h : (do
      let name ← definedName locate ms enclosing
      checkFresh locate name
      k name) sc = (.ok a, sc₁)) :
    ∃ name, definedName locate ms enclosing sc = (.ok name, sc) ∧ ¬ sc.Visible name ∧
      k name sc = (.ok a, sc₁) := by
  obtain ⟨name, sc₂, hname, hrest⟩ := Walk.bind_eq_ok.mp h
  obtain ⟨rfl, -⟩ := definedName_quiet.ok_eq hname
  by_cases hv : sc₂.Visible name
  · rw [Walk.bind_error (checkFresh_taken hv)] at hrest
    cases hrest
  · rw [Walk.bind_ok (checkFresh_free hv)] at hrest
    exact ⟨name, hname, hv, hrest⟩

theorem Follows.defined {k : FullName → Walk α} {a : α}
    (hname : definedName locate ms enclosing sc' = (.ok name, sc')) (hmem : name ∈ names)
    (hextra : name ∉ extra)
    (hk : ¬ sc'.Visible name → Follows extra names sc sc' excuse a (k name)) :
    Follows extra names sc sc' excuse a (do
      let name ← definedName locate ms enclosing
      checkFresh locate name
      k name) := by
  refine .ok_bind hname ?_
  by_cases hv : sc'.Visible name
  · unfold Follows Ends
    rw [Walk.bind_error (checkFresh_taken hv)]
    exact fun hw => absurd hv (hw.free name hmem hextra)
  · exact .ok_bind (checkFresh_free hv) (hk hv)

theorem register_follows {n : FullName} (hs : s.name? = some n) (hfree : ¬ sc'.Visible n) :
    Follows extra names sc sc' excuse s (register locate s) := by
  obtain ⟨sc₁', h⟩ : Returns (register locate s) sc' s :=
    register_returns hs fun hm => hfree (.inl hm)
  unfold Follows Ends
  rw [h]

theorem register_ok {n : FullName} {t : Schema} (hs : s.name? = some n)
    (h : register locate s sc = (.ok t, sc₁)) : t = s := by
  by_cases hn : n ∈ sc.types
  · rw [register_taken _ hs hn] at h
    cases h
  · obtain ⟨types, hr, -⟩ := register_fresh locate hs hn
    rw [hr] at h
    cases h
    rfl

/-! ## References, enums and fixed types -/

theorem candidates_of_dot {text : String} (h : '.' ∈ text.toList) (name : FullName) :
    candidates text enclosing name = [name] := by
  simp [candidates, h]

theorem reference_of_dot {text : String} (h : '.' ∈ text.toList)
    (hn : FullName.resolve text enclosing = .ok name) (sc : Scope) :
    reference locate text enclosing sc =
      if sc.Visible name then (.ok (.ref name), sc)
      else (.error ⟨.unknownType text, locate text⟩, sc) := by
  rw [reference, resolveName_ok hn, pure_bind, Walk.get_bind, candidates_of_dot h]
  by_cases hv : sc.Visible name
  · rw [if_pos hv, List.find?_cons_of_pos (by simpa using hv)]
    rfl
  · rw [if_neg hv, List.find?_cons_of_neg (by simpa using hv), List.find?_nil]
    rfl

theorem typeName_replay {text : String} (hq : Primitive.ofKeyword? text ≠ none ∨ '.' ∈ text.toList)
    (h : typeName locate text enclosing sc = (.ok s, sc₁)) (locate' : Locate)
    (enclosing' : Option String) (sc' : Scope) :
    Follows [] s.definedNames sc sc' False s (typeName locate' text enclosing') := by
  unfold typeName at h ⊢
  cases hp : Primitive.ofKeyword? text with
  | some p =>
    rw [hp] at h
    cases h
    exact .pure
  | none =>
    rw [hp] at h
    have hdot := hq.resolve_left (absurd hp)
    obtain ⟨name, sc₂, hname, -⟩ := Walk.bind_eq_ok.mp h
    obtain ⟨rfl, hresolve⟩ := (resolveName_quiet text).ok_eq hname
    dsimp only at h ⊢
    rw [reference_of_dot hdot hresolve] at h
    unfold Follows Ends
    rw [reference_of_dot hdot ((FullName.resolve_of_dot hdot _ _).trans hresolve)]
    by_cases hv : sc₂.Visible name
    · rw [if_pos hv] at h
      cases h
      by_cases hv' : sc'.Visible name
      · rw [if_pos hv']
      · rw [if_neg hv']
        exact fun hw => hv' (hw.seen name (.inl hv))
    · rw [if_neg hv] at h
      cases h

theorem enumType_replay (hdot : ∀ text, ms.get? "name" = some (.string text) → '.' ∈ text.toList)
    (h : enumType locate ms enclosing sc = (.ok s, sc₁)) (locate' : Locate)
    (enclosing' : Option String) (sc' : Scope) :
    Follows [] s.definedNames sc sc' False s (enumType locate' ms enclosing') := by
  obtain ⟨name, hname, hfree, hrest⟩ := defined_ok h
  have hname' : definedName locate' ms enclosing' sc' = (.ok name, sc') :=
    definedName_qualified rfl rfl hdot hname sc'
  obtain ⟨vs, hvs⟩ : ∃ vs, ms.get? "symbols" = some (.array vs) := by
    cases hv : ms.get? "symbols" with
    | none =>
      rw [hv] at hrest
      cases hrest
    | some v =>
      rw [hv] at hrest
      cases v with
      | array vs => exact ⟨vs, rfl⟩
      | _ => cases hrest
  rw [hvs] at hrest
  obtain ⟨symbols, sc₂, hsymbols, hrest⟩ := Walk.bind_eq_ok.mp hrest
  obtain ⟨default, sc₃, hdefault, hrest⟩ := Walk.bind_eq_ok.mp hrest
  obtain ⟨as, sc₄, has, hrest⟩ := Walk.bind_eq_ok.mp hrest
  obtain rfl := register_ok rfl hrest
  refine .defined hname' (by simp [definedNames, definitions, name?]) (by simp) fun hfree' => ?_
  rw [hvs]
  refine .ok_bind ((symbolList_same _ _ _).ok hsymbols sc') ?_
  refine .ok_bind ((defaultSymbol_same _ _).ok hdefault sc') ?_
  exact .ok_bind (aliases_same.ok has sc') (register_follows rfl hfree')

theorem fixedType_replay (hdot : ∀ text, ms.get? "name" = some (.string text) → '.' ∈ text.toList)
    (h : fixedType locate ms enclosing sc = (.ok s, sc₁)) (locate' : Locate)
    (enclosing' : Option String) (sc' : Scope) :
    Follows [] s.definedNames sc sc' False s (fixedType locate' ms enclosing') := by
  obtain ⟨name, hname, hfree, hrest⟩ := defined_ok h
  have hname' : definedName locate' ms enclosing' sc' = (.ok name, sc') :=
    definedName_qualified rfl rfl hdot hname sc'
  cases hsize : (ms.get? "size").bind Json.Value.nat? with
  | none =>
    rw [hsize] at hrest
    cases hrest
  | some size =>
    rw [hsize] at hrest
    obtain ⟨as, sc₂, has, hrest⟩ := Walk.bind_eq_ok.mp hrest
    obtain rfl := register_ok rfl hrest
    refine .defined hname' (by simp [definedNames, definitions, name?]) (by simp) fun hfree' => ?_
    rw [hsize]
    exact .ok_bind (aliases_same.ok has sc') (register_follows rfl hfree')

theorem withLogical_replay {m m' : Walk Schema}
    (hm : ∀ t sc₁, m sc = (.ok t, sc₁) → Follows [] t.definedNames sc sc' False t m')
    (h : (do return withLogical ms (← m)) sc = (.ok s, sc₁)) :
    Follows [] s.definedNames sc sc' False s (do return withLogical ms (← m')) := by
  obtain ⟨t, sc₂, ht, hpure⟩ := Walk.bind_eq_ok.mp h
  cases hpure
  refine ((hm t _ ht).map (withLogical ms)).mono ?_ id
  rcases withLogical_eq ms t with he | ⟨l, he, -⟩ <;> rw [he] <;> exact fun _ h => h

/-! ## A schema and what comes after it -/

/-- `t` defines what `s` defines, but for some of `extra`. -/
structure Without (extra : List FullName) (s t : Schema) : Prop where
  sub : ∀ n ∈ t.definedNames, n ∈ s.definedNames
  sup : ∀ n ∈ s.definedNames, n ∈ extra ∨ n ∈ t.definedNames

theorem Without.refl (s : Schema) : Without extra s s := ⟨fun _ h => h, fun _ => .inr⟩

/-- A schema is read, and then something that defines other names. -/
theorem Follows.part {v v' : Json.Value} {b : β} {k : Schema → Walk β}
    (hs : walk locate v enclosing sc = (.ok s, sc₁)) (hfresh : ∀ n ∈ names', ¬ sc₁.Visible n)
    (hv : Follows extra s.definedNames sc sc' excuse t (walk locate' v' enclosing'))
    (ht : Without extra s t) (hk : ∀ sc₁', Follows extra names' sc₁ sc₁' excuse b (k t)) :
    Follows extra (s.definedNames ++ names') sc sc' excuse b
      (walk locate' v' enclosing' >>= k) := by
  have ha : Ends (walk locate' v' enclosing') sc'
      (fun t sc₁' => Adds sc' sc₁' t.definedNames) fun _ _ => True := walk_adds v' enclosing' sc'
  refine Ends.bind ?_
  unfold Follows Ends at hv
  unfold Ends at ha ⊢
  rcases he : walk locate' v' enclosing' sc' with ⟨e | u, sc₁'⟩ <;> rw [he] at hv ha
  · exact fun hw => hv (hw.mono fun n hn => List.mem_append_left _ hn)
  · obtain rfl : u = t := hv
    refine Ends.mono (hk sc₁') (fun _ _ h => h) fun _ _ h hw => h ?_
    exact hw.step ((walk_adds v enclosing sc).ok hs) ha ht.sub ht.sup hfresh

theorem Wider.enter (h : Wider extra sc sc' (name :: names))
    (hfresh : ∀ n ∈ names, ¬ (sc.enter name).Visible n) :
    Wider extra (sc.enter name) (sc'.enter name) names where
  seen n hn := by
    have hvisible : ∀ sc : Scope, (sc.enter name).Visible n ↔ n = name ∨ sc.Visible n := fun sc => by
      simp only [Scope.Visible, Scope.enter, List.mem_cons]
      tauto
    rw [hvisible] at hn ⊢
    rcases hn with (rfl | hn) | hn
    · exact .inl rfl
    · exact .inr (h.seen n (.inl hn))
    · exact .inr (h.seen n (.inr hn))
  free n hn he := by
    rintro (hv | hv)
    · exact h.free n (List.mem_cons_of_mem _ hn) he (.inl hv)
    · rcases List.mem_cons.mp hv with rfl | hv
      · exact hfresh n hn (.inr List.mem_cons_self)
      · exact h.free n (List.mem_cons_of_mem _ hn) he (.inr hv)

end Schema

end AvroLink
