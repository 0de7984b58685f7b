import AvroLink.Proofs.Linked

/-!
# Steps on top of two namespaces

Each step of a walk is compared on top of two namespaces, from scopes that are linked. A step that
only looks at attributes ends the same way in both walks (`SameStep`); a reference may be found in
one of them alone, and a definition may clash in one of them alone (`Defines`).
-/

namespace AvroLink.Schema

variable {α β : Type} {N N' : Namespace} {sc sc' : Scope} {space : Option String}
  {locate locate' : Locate} {ms : Json.Members} {enclosing : Option String}

/-! ## Attributes -/

/-- Steps that leave the scope alone and end the same way, but for the place of an error. -/
def SameStep (m m' : Walk α) : Prop :=
  ∃ r r' : Except ParseError α, (∀ sc, m sc = (r, sc)) ∧ (∀ sc, m' sc = (r', sc)) ∧
    match r, r' with
    | .ok a, .ok b => a = b
    | .error e, .error e' => e.cause = e'.cause
    | _, _ => False

namespace SameStep

variable {R : β → β → Prop} {m m' : Walk α}

theorem pure (a : α) : SameStep (Pure.pure a) (Pure.pure a) :=
  ⟨.ok a, .ok a, fun _ => rfl, fun _ => rfl, rfl⟩

theorem fail (c : ParseError.Cause) (span span' : Option Span) :
    SameStep (Schema.fail c span : Walk α) (Schema.fail c span') :=
  ⟨.error ⟨c, span⟩, .error ⟨c, span'⟩, fun _ => rfl, fun _ => rfl, rfl⟩

theorem bind {k k' : α → Walk β} (hm : SameStep m m') (hk : ∀ a, SameStep (k a) (k' a)) :
    SameStep (m >>= k) (m' >>= k') := by
  obtain ⟨r, r', h, h', hr⟩ := hm
  match r, r', hr with
  | .ok a, .ok _, rfl =>
    obtain ⟨s, s', hs, hs', hss⟩ := hk a
    exact ⟨s, s', fun sc => (Walk.bind_ok (h sc)).trans (hs sc),
      fun sc => (Walk.bind_ok (h' sc)).trans (hs' sc), hss⟩
  | .error e, .error e', hr =>
    exact ⟨.error e, .error e', fun sc => Walk.bind_error (h sc), fun sc => Walk.bind_error (h' sc),
      hr⟩

/-- Go on after a step at which the walks cannot part. -/
theorem andThen {k k' : α → Walk β} (hm : SameStep m m') (hl : Linked N N' sc sc')
    (hk : ∀ a, m sc = (.ok a, sc) → Agree N N' R (k a) (k' a) sc sc') :
    Agree N N' R (m >>= k) (m' >>= k') sc sc' := by
  obtain ⟨r, r', h, h', hr⟩ := hm
  match r, r', hr with
  | .ok a, .ok _, rfl =>
    unfold Agree
    rw [Walk.bind_ok (h sc), Walk.bind_ok (h' sc')]
    exact hk a (h sc)
  | .error e, .error e', hr =>
    unfold Agree
    rw [Walk.bind_error (h sc), Walk.bind_error (h' sc')]
    exact fun _ _ => ⟨hr, hl⟩

end SameStep

theorem required_same (what key : String) :
    SameStep (required ms what key) (required ms what key) := by
  unfold required
  split
  · exact .pure _
  · exact .fail _ _ _

theorem requiredString_same (what key : String) :
    SameStep (requiredString ms what key) (requiredString ms what key) := by
  refine (required_same what key).bind fun v => ?_
  split
  · exact .pure _
  · exact .fail _ _ _

theorem resolveName_same (text : String) :
    SameStep (resolveName locate text enclosing) (resolveName locate' text enclosing) := by
  unfold resolveName
  split
  · exact .pure _
  · exact .fail _ _ _

theorem namespaceOf_same : SameStep (namespaceOf ms enclosing) (namespaceOf ms enclosing) := by
  unfold namespaceOf
  split
  · exact .pure _
  · exact .pure _
  · exact .pure _
  · exact .fail _ _ _

theorem definedName_same :
    SameStep (definedName locate ms enclosing) (definedName locate' ms enclosing) :=
  (requiredString_same _ _).bind fun _ => namespaceOf_same.bind fun _ => resolveName_same _

theorem aliasList_same (vs : List Json.Value) :
    SameStep (aliasList locate space vs) (aliasList locate' space vs) := by
  induction vs with
  | nil => exact .pure _
  | cons v vs ih =>
    simp only [aliasList]
    split
    · exact .fail _ _ _
    · exact (resolveName_same _).bind fun _ => ih.bind fun _ => .pure _

theorem aliases_same : SameStep (aliases locate ms space) (aliases locate' ms space) := by
  unfold aliases
  split
  · exact .pure _
  · exact aliasList_same _
  · exact .fail _ _ _

theorem symbolList_same (name : FullName) (vs : List Json.Value) (seen : List String) :
    SameStep (symbolList locate name seen vs) (symbolList locate' name seen vs) := by
  induction vs generalizing seen with
  | nil => exact .pure _
  | cons v vs ih =>
    simp only [symbolList]
    split
    · exact .fail _ _ _
    · split
      · exact .fail _ _ _
      · split
        · exact .fail _ _ _
        · exact ih _

theorem defaultSymbol_same (name : FullName) (symbols : List String) :
    SameStep (defaultSymbol ms name symbols) (defaultSymbol ms name symbols) := by
  unfold defaultSymbol
  split
  · exact .pure _
  · exact .pure _
  · split
    · split
      · exact .pure _
      · exact .fail _ _ _
    · exact .fail _ _ _

/-! ## References -/

/-- Where the candidates of a name are looked up in both scopes, the walks find related names; one
that finds a name alone owes it to what its side had to begin with. -/
theorem find_candidates (hl : Linked N N' sc sc') {text : String} {name : FullName}
    (hname : FullName.resolve text enclosing = .ok name) :
    match (candidates text enclosing name).find? fun n => sc.Visible n,
      (candidates text enclosing name).find? fun n => sc'.Visible n with
    | some n, some m => Bound N N' enclosing n m
    | some _, none => ¬ N ⊆ N'
    | none, some _ => ¬ N' ⊆ N
    | none, none => True := by
  have hsub : ∀ n, n ∈ N → n ∉ N' → ¬ N ⊆ N' := fun n h h' hs => h' (hs n h)
  have hsub' : ∀ n, n ∈ N' → n ∉ N → ¬ N' ⊆ N := fun n h h' hs => h' (hs n h)
  rcases candidates_eq hname with hc | ⟨ns, he, hn, hc⟩
  · rw [hc]
    have hv := hl.visible name
    by_cases h : sc.Visible name <;> by_cases h' : sc'.Visible name <;> simp [h, h']
    · exact .inl rfl
    · exact hsub name (by grind) (by grind)
    · exact hsub' name (by grind) (by grind)
  · rw [hc]
    have hv := hl.visible name
    have hb := hl.visible ⟨none, text⟩
    -- only when the two candidates differ can the walks find different ones
    have hspace : name = ⟨none, text⟩ ∨ name.space = some ns := by
      subst hn
      rcases hs : FullName.spaceOf enclosing with _ | ns'
      · exact .inl rfl
      · rw [he] at hs
        cases FullName.spaceOf_eq_some hs
        exact .inr rfl
    have htext : name.name = text := by rw [hn]
    by_cases h : sc.Visible name <;> by_cases h' : sc'.Visible name
    · simp only [List.find?_cons, h, h', decide_true]
      exact .inl rfl
    · have hN : name ∈ N ∧ name ∉ N' := by grind
      by_cases hb' : sc'.Visible ⟨none, text⟩ <;>
        simp only [List.find?_cons, List.find?_nil, h, h', hb', decide_true, decide_false]
      · rcases hspace with rfl | hspace
        · exact absurd hb' h'
        · exact .inr ⟨ns, he, htext, .inr ⟨hspace, rfl, hN⟩⟩
      · exact hsub name hN.1 hN.2
    · have hN : name ∈ N' ∧ name ∉ N := by grind
      by_cases hb : sc.Visible ⟨none, text⟩ <;>
        simp only [List.find?_cons, List.find?_nil, h, h', hb, decide_true, decide_false]
      · rcases hspace with rfl | hspace
        · exact absurd hb h
        · exact .inr ⟨ns, he, htext.symm, .inl ⟨rfl, hspace, hN⟩⟩
      · exact hsub' name hN.1 hN.2
    · by_cases hb : sc.Visible ⟨none, text⟩ <;> by_cases hb' : sc'.Visible ⟨none, text⟩ <;>
        simp only [List.find?_cons, List.find?_nil, h, h', hb, hb', decide_true, decide_false]
      · exact .inl rfl
      · exact hsub ⟨none, text⟩ (by grind) (by grind)
      · exact hsub' ⟨none, text⟩ (by grind) (by grind)

theorem reference_agree (hl : Linked N N' sc sc') (text : String) :
    Agree N N' (Alike (Bound N N') enclosing) (reference locate text enclosing)
      (reference locate' text enclosing) sc sc' := by
  refine (resolveName_same text).andThen hl fun name hname => ?_
  have hfind := find_candidates hl ((resolveName_quiet text).ok_eq hname).2
  unfold Agree
  rw [Walk.get_bind, Walk.get_bind]
  cases h : (candidates text enclosing name).find? fun n => sc.Visible n <;>
    cases h' : (candidates text enclosing name).find? fun n => sc'.Visible n <;>
    simp only [h, h'] at hfind ⊢
  · exact fun _ _ => ⟨rfl, hl⟩
  · exact fun _ => ⟨hfind, .inl ⟨text, rfl⟩⟩
  · exact fun hs => absurd hs hfind
  · exact ⟨hfind, hl⟩

theorem typeName_agree (hl : Linked N N' sc sc') (text : String) :
    Agree N N' (Alike (Bound N N') enclosing) (typeName locate text enclosing)
      (typeName locate' text enclosing) sc sc' := by
  unfold typeName
  split
  · exact .pure rfl hl
  · exact reference_agree hl text

/-! ## Definitions -/

/-- A step that defines `n` when it succeeds. -/
def Defines (n : FullName) (m : Walk α) : Prop := ∀ sc a sc', m sc = (.ok a, sc') → n ∈ sc'.types

namespace Defines

variable {n : FullName}

theorem fail (c : ParseError.Cause) (span : Option Span) :
    Defines n (Schema.fail c span : Walk α) := by
  intro sc a sc' h
  cases h

theorem bind {m : Walk α} {k : α → Walk β} (hk : ∀ a, Defines n (k a)) : Defines n (m >>= k) := by
  intro sc b sc' h
  obtain ⟨a, sc₁, -, h⟩ := Walk.bind_eq_ok.mp h
  exact hk a sc₁ b sc' h

end Defines

theorem register_defines {s : Schema} {n : FullName} (hs : s.name? = some n) :
    Defines n (register locate s) := by
  intro sc a sc' h
  by_cases hn : n ∈ sc.types
  · rw [register_taken _ hs hn] at h
    cases h
  · obtain ⟨types, hr, he⟩ := register_fresh locate hs hn
    rw [hr] at h
    cases h
    change n ∈ types.entries.map Prod.fst
    simp [he]

theorem register_keeps {s : Schema} {n : FullName} (hs : s.name? = some n) :
    Keeps (register locate s) := by
  intro sc m hm
  by_cases hn : n ∈ sc.types
  · rwa [register_taken _ hs hn]
  · obtain ⟨types, hr, he⟩ := register_fresh locate hs hn
    rw [hr]
    have hm : m ∈ sc.types.entries.map Prod.fst := hm
    change m ∈ types.entries.map Prod.fst
    rw [he, List.map_append]
    exact List.mem_append_left _ hm

/-- The namespace around a definition does not matter for what is inside it. -/
theorem Alike.named {R : Option String → FullName → FullName → Prop} {s t : Schema} {n : FullName}
    (hs : s.name? = some n) (h : Alike R space s t) (space' : Option String) :
    Alike R space' s t := by
  cases s <;> cases hs <;> cases t <;> simp only [Alike] at h ⊢ <;> exact h

theorem register_agree (hl : Linked N N' sc sc') {s t : Schema} {n : FullName}
    (hs : s.name? = some n) (h : Alike (Bound N N') space s t) :
    Agree N N' (Alike (Bound N N') space) (register locate s) (register locate' t) sc sc' := by
  have ht : t.name? = some n := h.name?_eq.symm.trans hs
  have hmem := hl.mem_types (n := n)
  unfold Agree
  by_cases hn : n ∈ sc.types <;> by_cases hn' : n ∈ sc'.types
  · rw [register_taken _ hs hn, register_taken _ ht hn']
    exact fun _ _ => ⟨rfl, hl⟩
  · obtain ⟨types', hr', he'⟩ := register_fresh locate' ht hn'
    rw [register_taken _ hs hn, hr']
    have : n ∈ N ∧ n ∉ N' := by grind
    exact fun hsub => absurd (hsub n this.1) this.2
  · obtain ⟨types, hr, he⟩ := register_fresh locate hs hn
    have hdef := register_defines hs sc _ _ hr
    rw [register_taken _ ht hn', hr]
    have : n ∈ N' ∧ n ∉ N := by grind
    exact fun _ => ⟨n, rfl, hdef, this⟩
  · obtain ⟨types, hr, he⟩ := register_fresh locate hs hn
    obtain ⟨types', hr', he'⟩ := register_fresh locate' ht hn'
    rw [hr, hr']
    obtain ⟨new, new', hnew, hnew', hall⟩ := hl.added
    refine ⟨h, hl.opened, ⟨new ++ [(n, s)], new' ++ [(n, t)], ?_, ?_, ?_⟩, hl.apart⟩
    · rw [he, hnew, List.append_assoc]
    · rw [he', hnew', List.append_assoc]
    · exact List.rel_append hall (.cons ⟨rfl, h.named hs none⟩ .nil)

theorem checkFresh_agree {R : α → α → Prop} {name : FullName} {k k' : PUnit → Walk α}
    (hl : Linked N N' sc sc') (hdef : Defines name (k ()))
    (hk : name ∉ N → name ∉ N' → Agree N N' R (k ()) (k' ()) sc sc') :
    Agree N N' R (checkFresh locate name >>= k) (checkFresh locate' name >>= k') sc sc' := by
  have hv := hl.visible name
  by_cases h : sc.Visible name <;> by_cases h' : sc'.Visible name
  · unfold Agree
    rw [Walk.bind_error (checkFresh_taken h), Walk.bind_error (checkFresh_taken h')]
    exact fun _ _ => ⟨rfl, hl⟩
  · have : name ∈ N ∧ name ∉ N' := by grind
    unfold Agree
    rw [Walk.bind_error (checkFresh_taken h), Walk.bind_ok (checkFresh_free h')]
    rcases k' () sc' with ⟨e | a, s⟩
    · exact fun hsub => absurd (hsub name this.1) this.2
    · exact fun hsub => absurd (hsub name this.1) this.2
  · have : name ∈ N' ∧ name ∉ N := by grind
    unfold Agree
    rw [Walk.bind_ok (checkFresh_free h), Walk.bind_error (checkFresh_taken h')]
    rcases hr : k () sc with ⟨e | a, s⟩
    · exact fun _ hsub => absurd (hsub name this.1) this.2
    · exact fun _ => ⟨name, rfl, hdef sc a s hr, this⟩
  · unfold Agree
    rw [Walk.bind_ok (checkFresh_free h), Walk.bind_ok (checkFresh_free h')]
    exact hk (by grind) (by grind)

theorem Agree.opening {R : α → α → Prop} {name : FullName} {m m' : Walk α}
    (h : Agree N N' R m m' (sc.enter name) (sc'.enter name)) :
    Agree N N' R (opening name m) (opening name m') sc sc' := by
  unfold Agree at h ⊢
  rw [Walk.opening_apply, Walk.opening_apply]
  generalize m (sc.enter name) = r at h ⊢
  generalize m' (sc'.enter name) = r' at h ⊢
  rcases r with ⟨_ | _, _⟩ <;> rcases r' with ⟨_ | _, _⟩
  · exact fun hs hs' => ⟨(h hs hs').1, (h hs hs').2.close⟩
  · exact h
  · exact h
  · exact ⟨h.1, h.2.close⟩

theorem enumType_agree (hl : Linked N N' sc sc') :
    Agree N N' (Alike (Bound N N') enclosing) (enumType locate ms enclosing)
      (enumType locate' ms enclosing) sc sc' := by
  refine definedName_same.andThen hl fun name _ => ?_
  refine checkFresh_agree hl ?_ fun _ _ => ?_
  · split
    · exact .bind fun _ => .bind fun _ => .bind fun _ => register_defines rfl
    · exact .fail _ _
  · split
    · refine (symbolList_same _ _ _).andThen hl fun symbols _ => ?_
      refine (defaultSymbol_same _ _).andThen hl fun default _ => ?_
      exact aliases_same.andThen hl fun as _ => register_agree hl rfl rfl
    · exact .fail hl

theorem fixedType_agree (hl : Linked N N' sc sc') :
    Agree N N' (Alike (Bound N N') enclosing) (fixedType locate ms enclosing)
      (fixedType locate' ms enclosing) sc sc' := by
  refine definedName_same.andThen hl fun name _ => ?_
  refine checkFresh_agree hl ?_ fun _ _ => ?_
  · split
    · exact .bind fun _ => register_defines rfl
    · exact .fail _ _
  · split
    · exact aliases_same.andThen hl fun as _ => register_agree hl rfl rfl
    · exact .fail hl

theorem recordFields_agree {vs : List Json.Value} {name : FullName}
    (hfields : Agree N N' (FieldsAlike (Bound N N') name.space)
      (walkFields locate vs name.space []) (walkFields locate' vs name.space [])
      (sc.enter name) (sc'.enter name)) :
    Agree N N' (Alike (Bound N N') enclosing)
      (do
        let fields ← opening name (walkFields locate vs name.space [])
        let as ← aliases locate ms name.space
        register locate (.record ⟨name, docOf ms, as⟩ fields))
      (do
        let fields ← opening name (walkFields locate' vs name.space [])
        let as ← aliases locate' ms name.space
        register locate' (.record ⟨name, docOf ms, as⟩ fields)) sc sc' := by
  refine (Agree.opening hfields).bind (fun fields => ?_) fun _ _ _ _ _ _ hf hs => ?_
  · exact .bind (.of_quiet (aliases_quiet _)) fun _ => register_keeps rfl
  · exact aliases_same.andThen hs fun as _ => register_agree hs rfl ⟨rfl, hf⟩

/-! ## Logical types -/

theorem logicalType?_alike {R : Option String → FullName → FullName → Prop} {s t : Schema}
    (h : Alike R space s t) (keyword : String) :
    logicalType? ms keyword s = logicalType? ms keyword t := by
  cases s <;> cases t <;> simp only [Alike] at h
  case primitive.primitive => rw [h]
  all_goals rfl

theorem withLogical_alike {R : Option String → FullName → FullName → Prop} {s t : Schema}
    (h : Alike R space s t) : Alike R space (withLogical ms s) (withLogical ms t) := by
  unfold withLogical
  simp only [logicalType?_alike h]
  split
  · exact ⟨rfl, h⟩
  · exact h

theorem withLogical_agree {m m' : Walk Schema}
    (h : Agree N N' (Alike (Bound N N') space) m m' sc sc') :
    Agree N N' (Alike (Bound N N') space) (do return withLogical ms (← m))
      (do return withLogical ms (← m')) sc sc' :=
  h.bind (fun _ => .pure _) fun _ _ _ _ _ _ ha hl => .pure (withLogical_alike ha) hl

end AvroLink.Schema
