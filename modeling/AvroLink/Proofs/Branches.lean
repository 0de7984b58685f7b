import AvroLink.Proofs.Nodes

/-!
# Branches of a union that may stand together

A union whose branches can be read one after another is accepted when their keys differ. `Clash`
tells this on the schemas: two branches clash when they are the same named type or the same unnamed
kind (`SameType`), or when one is a type of the null namespace with the name of the other's kind
(`Homonym`). Where a logical type is laid over a fixed type defined in the branch, the key is not
that of the type, and some pairs are left open (`LeftOpen`).
-/

namespace AvroLink.Schema

variable {locate : Locate} {enclosing : Option String} {a b s : Schema} {ss : List Schema}
  {sc sc' : Scope}

/-! ## Types of branches -/

/-- The named type that a branch denotes: one it refers to, or one it defines, also under a logical
type. -/
def denoted? : Schema → Option FullName
  | logical _ base => base.title?
  | s => s.title?

/-- Whether a logical type is laid over a fixed type that is defined there. -/
def onFixed : Schema → Bool
  | logical _ (fixed _) => true
  | _ => false

/-- Two branches of one type: the same named type, or the same unnamed kind. -/
def SameType (a b : Schema) : Prop :=
  a.denoted? = b.denoted? ∧ (a.denoted? = none → a.kind = b.kind)

/-- `a` is a type of the null namespace that is named like the kind of `b`. -/
def Homonym (a b : Schema) : Prop := b.denoted? = none ∧ a.denoted? = some ⟨none, b.kind⟩

/-- Two branches that may not stand in one union. -/
def Clash (a b : Schema) : Prop := SameType a b ∨ Homonym a b ∨ Homonym b a

/-- A logical type on a fixed type, beside another such branch or one that it may be confused
with. -/
def LeftOpen (a b : Schema) : Prop :=
  a.onFixed = true ∧ (b.onFixed = true ∨ Clash a b ∨ b.denoted? = some ⟨none, "fixed"⟩)

instance (a b : Schema) : Decidable (SameType a b) := inferInstanceAs (Decidable (_ ∧ (_ → _)))

instance (a b : Schema) : Decidable (Homonym a b) := inferInstanceAs (Decidable (_ ∧ _))

instance (a b : Schema) : Decidable (Clash a b) := inferInstanceAs (Decidable (_ ∨ _ ∨ _))

instance (a b : Schema) : Decidable (LeftOpen a b) := inferInstanceAs (Decidable (_ ∧ (_ ∨ _ ∨ _)))

/-! ## Keys -/

theorem text_eq_iff {n : FullName} {k : String} (hk : '.' ∉ k.toList) :
    n.text = k ↔ n = ⟨none, k⟩ := by
  obtain ⟨_ | ns, name⟩ := n
  · simp [FullName.text]
  · refine ⟨fun h => ?_, fun h => by cases h⟩
    have hd := FullName.toList_text ⟨some ns, name⟩
    rw [h] at hd
    exact absurd (by simp [hd]) hk

/-- But for a logical type on a fixed type, the named type of a branch is what its key shows. -/
theorem WellFormed.denoted?_eq (h : s.WellFormed) (hs : s.onFixed = false) :
    s.denoted? = s.title? := by
  cases s with
  | logical l base =>
    cases base with
    | primitive p => rfl
    | fixed f => cases hs
    | _ => cases l <;> exact h.1.elim
  | _ => rfl

theorem WellFormed.key_fixed (h : s.WellFormed) (hk : s.unionKey = "fixed") :
    s.onFixed = true ∨ s.denoted? = some ⟨none, "fixed"⟩ := by
  by_cases hs : s.onFixed = true
  · exact .inl hs
  · rw [h.denoted?_eq (by simpa using hs)]
    rw [unionKey_eq] at hk
    cases ht : s.title? with
    | some n =>
      rw [ht] at hk
      exact .inr (congrArg some ((text_eq_iff (by decide)).mp hk))
    | none =>
      rw [ht] at hk
      cases s with
      | primitive p => cases p <;> simp [kind, Primitive.keyword] at hk
      | logical l base =>
        cases base with
        | primitive p => cases p <;> simp [kind, Primitive.keyword] at hk
        | fixed f => exact absurd rfl hs
        | _ => cases l <;> exact h.1.elim
      | array _ | map _ | union _ => simp [kind] at hk
      | record _ _ | enum _ | fixed _ | ref _ => cases ht

theorem key_eq_iff_of_plain (ha : a.WellFormed) (hb : b.WellFormed) (ha' : a.onFixed = false)
    (hb' : b.onFixed = false) : a.unionKey = b.unionKey ↔ Clash a b := by
  have hda := ha.denoted?_eq ha'
  have hdb := hb.denoted?_eq hb'
  rw [unionKey_eq, unionKey_eq b, Clash, SameType, Homonym, Homonym, hda, hdb]
  cases hta : a.title? with
  | none =>
    cases htb : b.title? with
    | none => simp
    | some m => simp [eq_comm, text_eq_iff (dot_not_mem_kind a)]
  | some n =>
    cases htb : b.title? with
    | none => simp [text_eq_iff (dot_not_mem_kind b)]
    | some m =>
      have hinj : n.text = m.text ↔ n = m :=
        ⟨FullName.text_inj (ha.title hta) (hb.title htb), congrArg _⟩
      simp [hinj]

theorem LeftOpen.not_clash (h : ¬ LeftOpen a b) (ha : a.onFixed = true) :
    b.onFixed = false ∧ ¬ Clash a b ∧ b.denoted? ≠ some ⟨none, "fixed"⟩ := by
  simpa [LeftOpen, ha] using h

theorem Clash.symm (h : Clash a b) : Clash b a := by
  rcases h with ⟨hd, hk⟩ | h | h
  · exact .inl ⟨hd.symm, fun hb => (hk (hd.trans hb)).symm⟩
  · exact .inr (.inr h)
  · exact .inr (.inl h)

theorem unionKey_onFixed (h : s.onFixed = true) : s.unionKey = "fixed" := by
  unfold onFixed at h
  split at h
  · rfl
  · cases h

/-- A logical type on a fixed type has the key of nothing that it is not left open beside. -/
theorem key_ne_of_onFixed (hb : b.WellFormed) (ha : a.onFixed = true) (h : ¬ LeftOpen a b) :
    a.unionKey ≠ b.unionKey := by
  obtain ⟨hb', -, hname⟩ := LeftOpen.not_clash h ha
  rw [unionKey_onFixed ha]
  intro hk
  rcases hb.key_fixed hk.symm with hf | hn
  · rw [hb'] at hf
    cases hf
  · exact hname hn

theorem key_eq_iff (ha : a.WellFormed) (hb : b.WellFormed)
    (h : ¬ LeftOpen a b ∧ ¬ LeftOpen b a) : a.unionKey = b.unionKey ↔ Clash a b := by
  cases ha' : a.onFixed with
  | true => exact iff_of_false (key_ne_of_onFixed hb ha' h.1) (LeftOpen.not_clash h.1 ha').2.1
  | false =>
    cases hb' : b.onFixed with
    | true =>
      refine iff_of_false (Ne.symm (key_ne_of_onFixed ha hb' h.2)) fun hc => ?_
      exact (LeftOpen.not_clash h.2 hb').2.1 hc.symm
    | false => exact key_eq_iff_of_plain ha hb ha' hb'

theorem keys_nodup_iff (hw : ∀ s ∈ ss, s.WellFormed)
    (hopen : ss.Pairwise fun a b => ¬ LeftOpen a b ∧ ¬ LeftOpen b a) :
    (ss.map unionKey).Nodup ↔ ss.Pairwise fun a b => ¬ Clash a b := by
  rw [List.Nodup, List.pairwise_map]
  refine ⟨fun h => ?_, fun h => ?_⟩
  · refine (h.and hopen).imp_of_mem fun hma hmb hab => ?_
    exact (key_eq_iff (hw _ hma) (hw _ hmb) hab.2).not.mp hab.1
  · refine (h.and hopen).imp_of_mem fun hma hmb hab => ?_
    exact (key_eq_iff (hw _ hma) (hw _ hmb) hab.2).not.mpr hab.1

/-! ## Reading the branches -/

/-- Read the branches of a union one after another, without a look at their keys. -/
def walkEach (locate : Locate) (enclosing : Option String) :
    List Json.Value → Walk (List Schema)
  | [] => pure []
  | v :: vs => do
    let s ← walk locate v enclosing
    return s :: (← walkEach locate enclosing vs)

theorem walkEach_cons {v : Json.Value} {vs : List Json.Value}
    (h : walkEach locate enclosing (v :: vs) sc = (.ok ss, sc')) :
    ∃ s rest sc₁, ss = s :: rest ∧ walk locate v enclosing sc = (.ok s, sc₁) ∧
      walkEach locate enclosing vs sc₁ = (.ok rest, sc') := by
  rw [walkEach] at h
  obtain ⟨s, sc₁, hs, h⟩ := Walk.bind_eq_ok.mp h
  obtain ⟨rest, sc₂, hrest, h⟩ := Walk.bind_eq_ok.mp h
  cases h
  exact ⟨s, rest, sc₁, rfl, hs, hrest⟩

theorem walkEach_wellFormed {vs : List Json.Value}
    (h : walkEach locate enclosing vs sc = (.ok ss, sc')) : ∀ s ∈ ss, s.WellFormed := by
  induction vs generalizing sc ss with
  | nil =>
    cases h
    simp
  | cons v vs ih =>
    obtain ⟨s, rest, sc₁, rfl, hs, hrest⟩ := walkEach_cons h
    exact List.forall_mem_cons.mpr ⟨((walk_sound v enclosing sc).ok hs).2, ih hrest⟩

/-- `m` stops at a branch whose key was there before. -/
def Repeats {α : Type} (m : Walk α) (sc : Scope) : Prop :=
  ∃ key span sc', m sc = (.error ⟨.invalidSchema (.repeatedBranch key), span⟩, sc')

theorem Repeats.bind {α β : Type} {m : Walk α} (h : Repeats m sc) (k : α → Walk β) :
    Repeats (m >>= k) sc := by
  obtain ⟨key, span, sc', h⟩ := h
  exact ⟨key, span, sc', Walk.bind_error h⟩

/-- Branches that are no unions are taken together when their keys are new. -/
theorem walkBranches_of_walkEach {vs : List Json.Value} (seen : List String)
    (h : walkEach locate enclosing vs sc = (.ok ss, sc'))
    (hflat : ∀ s ∈ ss, s.isUnion = false) :
    ((ss.map unionKey).Nodup ∧ (∀ s ∈ ss, s.unionKey ∉ seen) →
      walkBranches locate vs enclosing seen sc = (.ok ss, sc')) ∧
    (¬ ((ss.map unionKey).Nodup ∧ ∀ s ∈ ss, s.unionKey ∉ seen) →
      Repeats (walkBranches locate vs enclosing seen) sc) := by
  induction vs generalizing sc ss seen with
  | nil =>
    cases h
    rw [walkBranches]
    exact ⟨fun _ => rfl, fun hn => absurd ⟨List.nodup_nil, by simp⟩ hn⟩
  | cons v vs ih =>
    obtain ⟨s, rest, sc₁, rfl, hs, hrest⟩ := walkEach_cons h
    obtain ⟨hu, hflat⟩ := List.forall_mem_cons.mp hflat
    rw [walkBranches, Repeats, Walk.bind_ok hs]
    simp only [hu, Bool.false_eq_true, if_false]
    by_cases hk : s.unionKey ∈ seen
    · rw [if_pos hk]
      exact ⟨fun hn => absurd hk (hn.2 s List.mem_cons_self), fun _ => ⟨_, _, sc₁, rfl⟩⟩
    · rw [if_neg hk]
      obtain ⟨hok, herr⟩ := ih (seen ++ [s.unionKey]) hrest hflat
      refine ⟨fun hn => ?_, fun hn => ?_⟩
      · rw [Walk.bind_ok (hok (keys_tail hn.1 hn.2))]
        rfl
      · exact (herr fun hn' => hn (keys_cons hk hn'.1 hn'.2)).bind _

theorem walk_union {vs : List Json.Value} (hne : vs ≠ [])
    (h : walkEach locate enclosing vs sc = (.ok ss, sc'))
    (hflat : ∀ s ∈ ss, s.isUnion = false) :
    ((ss.map unionKey).Nodup → walk locate (.array vs) enclosing sc = (.ok (.union ss), sc')) ∧
    (¬ (ss.map unionKey).Nodup → Repeats (walk locate (.array vs) enclosing) sc) := by
  obtain ⟨hok, herr⟩ := walkBranches_of_walkEach [] h hflat
  have hempty : vs.isEmpty = false := by simpa using hne
  rw [walk, hempty]
  simp only [Bool.false_eq_true, if_false]
  refine ⟨fun hn => ?_, fun hn => ?_⟩
  · rw [Walk.bind_ok (hok ⟨hn, by simp⟩)]
    rfl
  · exact (herr fun hn' => hn hn'.1).bind _

/-- A union is accepted exactly when no two of its branches clash, and otherwise refused for a
repeated branch. -/
theorem walk_union_iff (locate : Locate) (enclosing : Option String) {vs : List Json.Value}
    {ss : List Schema} {sc sc' : Scope} (hne : vs ≠ [])
    (h : walkEach locate enclosing vs sc = (.ok ss, sc')) (hflat : ∀ s ∈ ss, s.isUnion = false)
    (hopen : ss.Pairwise fun a b => ¬ LeftOpen a b ∧ ¬ LeftOpen b a) :
    (walk locate (.array vs) enclosing sc = (.ok (.union ss), sc') ↔
      ss.Pairwise fun a b => ¬ Clash a b) ∧
    (¬ (ss.Pairwise fun a b => ¬ Clash a b) → Repeats (walk locate (.array vs) enclosing) sc) := by
  obtain ⟨hok, herr⟩ := walk_union hne h hflat
  have hkeys := keys_nodup_iff (walkEach_wellFormed h) hopen
  refine ⟨⟨fun hw => ?_, fun hc => hok (hkeys.mpr hc)⟩, fun hc => herr (hkeys.not.mpr hc)⟩
  by_contra hc
  obtain ⟨key, span, sc'', he⟩ := herr (hkeys.not.mpr hc)
  rw [hw] at he
  cases he

/-! ## Two unions -/

theorem walkEach_of_check {vs : List Json.Value} {p : List Schema → Prop} [DecidablePred p]
    (h : (walkEach locate enclosing vs sc).1.toOption.map (fun ss => decide (p ss)) = some true) :
    ∃ ss sc', walkEach locate enclosing vs sc = (.ok ss, sc') ∧ p ss := by
  obtain ⟨ss, hs, hp⟩ := Option.map_eq_some_iff.mp h
  exact ⟨ss, _, Prod.ext (ok_of_toOption hs) rfl, of_decide_eq_true hp⟩

/-- A decimal on a fixed type, beside an array of it and other types. -/
def prices : List Json.Value :=
  [.string "int",
    .object [("logicalType", .string "decimal"), ("name", .string "shop.Price"),
      ("precision", .number (.int 9)), ("size", .number (.int 4)), ("type", .string "fixed")],
    .object [("items", .string "shop.Price"), ("type", .string "array")],
    .object [("name", .string "shop.int"), ("size", .number (.int 4)), ("type", .string "fixed")]]

theorem walk_union_prices : ∃ ss sc',
    walkEach (fun _ => none) none prices ⟨.empty, []⟩ = (.ok ss, sc') ∧
      walk (fun _ => none) (.array prices) none ⟨.empty, []⟩ = (.ok (.union ss), sc') := by
  obtain ⟨ss, sc', hread, hflat, hopen, hclash⟩ : ∃ ss sc',
      walkEach (fun _ => none) none prices ⟨.empty, []⟩ = (.ok ss, sc') ∧
        (∀ s ∈ ss, s.isUnion = false) ∧
        (ss.Pairwise fun a b => ¬ LeftOpen a b ∧ ¬ LeftOpen b a) ∧
        ss.Pairwise fun a b => ¬ Clash a b :=
    walkEach_of_check (by decide +kernel)
  have hunion := walk_union_iff _ _ (by simp [prices]) hread hflat hopen
  exact ⟨ss, sc', hread, hunion.1.mpr hclash⟩

/-- The primitive type `int` beside a fixed type of that name. -/
def homonyms : List Json.Value :=
  [.string "int",
    .object [("name", .string "int"), ("size", .number (.int 4)), ("type", .string "fixed")]]

/-- Branches of different types are refused when a named one has the name of the other's kind. -/
theorem walk_union_homonyms : ∃ ss sc',
    walkEach (fun _ => none) none homonyms ⟨.empty, []⟩ = (.ok ss, sc') ∧
      (∀ s ∈ ss, s.isUnion = false) ∧ (ss.Pairwise fun a b => ¬ SameType a b) ∧
      Repeats (walk (fun _ => none) (.array homonyms) none) ⟨.empty, []⟩ := by
  obtain ⟨ss, sc', hread, hflat, hdiffer, hkeys⟩ : ∃ ss sc',
      walkEach (fun _ => none) none homonyms ⟨.empty, []⟩ = (.ok ss, sc') ∧
        (∀ s ∈ ss, s.isUnion = false) ∧ (ss.Pairwise fun a b => ¬ SameType a b) ∧
        ¬ (ss.map unionKey).Nodup :=
    walkEach_of_check (by decide +kernel)
  exact ⟨ss, sc', hread, hflat, hdiffer, (walk_union (by simp [homonyms]) hread hflat).2 hkeys⟩

end AvroLink.Schema
