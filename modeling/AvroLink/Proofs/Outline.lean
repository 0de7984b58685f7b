import AvroLink.Proofs.Qualified

/-!
# A definition moved out of a document

`Replaced o text v v'` says that in the value `v` the object `o`, where it stands as a schema, is
replaced by the text `text`. When `o` defines the type `n` alone, the value with the name of `n` in
its place is read where `n` is known, and gives the same schema with a reference there
(`walk_replaced`). A union may refuse the name for a branch that goes by it already (`Crowded`).
-/

namespace AvroLink.Schema

/-- One object `o` that stands as a schema in a value is replaced by a text. -/
inductive Replaced (o : Json.Members) (text : String) : Json.Value → Json.Value → Prop
  | here : Replaced o text (.object o) (.string text)
  | branch (before after : List Json.Value) {v v' : Json.Value} (h : Replaced o text v v') :
    Replaced o text (.array (before ++ v :: after)) (.array (before ++ v' :: after))
  | inner {ms : Json.Members} {v v' : Json.Value} (ht : ms.get? "type" = some v)
    (h : Replaced o text v v') : Replaced o text (.object ms) (.object (Json.Members.put "type" v' ms))
  | items {ms : Json.Members} {v v' : Json.Value} (ht : ms.get? "type" = some (.string "array"))
    (hv : ms.get? "items" = some v) (h : Replaced o text v v') :
    Replaced o text (.object ms) (.object (Json.Members.put "items" v' ms))
  | values {ms : Json.Members} {v v' : Json.Value} (ht : ms.get? "type" = some (.string "map"))
    (hv : ms.get? "values" = some v) (h : Replaced o text v v') :
    Replaced o text (.object ms) (.object (Json.Members.put "values" v' ms))
  | field {ms field : Json.Members} {type : String} {before after : List Json.Value}
    {v v' : Json.Value} (ht : ms.get? "type" = some (.string type))
    (record : type = "record" ∨ type = "error")
    (hfields : ms.get? "fields" = some (.array (before ++ .object field :: after)))
    (hv : field.get? "type" = some v) (h : Replaced o text v v') :
    Replaced o text (.object ms) (.object (Json.Members.put "fields"
      (.array (before ++ .object (Json.Members.put "type" v' field) :: after)) ms))

/-- A definition of the type `n`. A logical type may be laid over a fixed type. -/
inductive DefinitionOf (n : FullName) : Schema → Prop
  | plain {d : Schema} (h : d.name? = some n) : DefinitionOf n d
  | onFixed (l : LogicalType) {f : FixedType} (h : f.name = n) : DefinitionOf n (logical l (fixed f))

/-- One definition `d` in a schema is replaced by a reference to `n`. -/
inductive Outlined (d : Schema) (n : FullName) : Schema → Schema → Prop
  | here : Outlined d n d (ref n)
  | array {s t : Schema} (h : Outlined d n s t) : Outlined d n (array s) (array t)
  | map {s t : Schema} (h : Outlined d n s t) : Outlined d n (map s) (map t)
  | union (before after : List Schema) {s t : Schema} (h : Outlined d n s t) :
    Outlined d n (union (before ++ s :: after)) (union (before ++ t :: after))
  | record (head : RecordHead) (before after : List Field) (f : Field) {t : Schema}
    (h : Outlined d n f.schema t) : Outlined d n (record head (before ++ f :: after))
      (record head (before ++ { f with schema := t } :: after))

/-- A definition in a schema after `d` was outlined there: the same one, or a record with a field in
which `d` was. -/
inductive Redrawn (d : Schema) (n : FullName) : Schema → Schema → Prop
  | same (e : Schema) : Redrawn d n e e
  | record (head : RecordHead) (before after : List Field) (f : Field) {t : Schema}
    (h : Outlined d n f.schema t) : Redrawn d n (record head (before ++ f :: after))
      (record head (before ++ { f with schema := t } :: after))

/-- In a union, beside the branch `d`, there is one that goes by the name `n`. -/
def Crowded (d : Schema) (n : FullName) (nodes : List Schema) : Prop :=
  ∃ before after, union (before ++ d :: after) ∈ nodes ∧ n.text ∈ (before ++ after).map unionKey

theorem Crowded.mono {d : Schema} {n : FullName} {nodes nodes' : List Schema}
    (h : Crowded d n nodes) (hsub : ∀ t ∈ nodes, t ∈ nodes') : Crowded d n nodes' :=
  let ⟨before, after, hm, hk⟩ := h
  ⟨before, after, hsub _ hm, hk⟩

variable {d s t : Schema} {n : FullName}

/-! ## What a definition goes by -/

namespace DefinitionOf

theorem mem_definedNames (h : DefinitionOf n d) : n ∈ d.definedNames := by
  cases h with
  | plain h => exact List.mem_filterMap.mpr ⟨d, mem_definitions h, h⟩
  | onFixed l h => simp [definedNames, definitions, name?, h]

theorem valid (h : DefinitionOf n d) (hw : d.WellFormed) : n.Valid := by
  cases h with
  | plain h => exact hw.title (title?_of_name? h)
  | onFixed l h => exact h ▸ hw.2.name

theorem isUnion (h : DefinitionOf n d) : d.isUnion = false := by
  cases h with
  | plain h =>
    cases d with
    | union ss => cases h
    | _ => rfl
  | onFixed l h => rfl

/-- Only a logical type on a fixed type goes by something else than its name. -/
theorem unionKey (h : DefinitionOf n d) (hd : d.onFixed = false) : d.unionKey = n.text := by
  cases h with
  | plain h => rw [unionKey_eq, title?_of_name? h]
  | onFixed l h => cases hd

end DefinitionOf

theorem Crowded.onFixed (hw : s.WellFormed) (hd : DefinitionOf n d) (h : Crowded d n s.nodes) :
    d.onFixed = true := by
  by_contra hf
  obtain ⟨before, after, hm, hk⟩ := h
  obtain ⟨-, -, hkeys⟩ := s.wellFormed_iff.mp hw _ hm
  have hmiddle : ((d :: (before ++ after)).map Schema.unionKey).Nodup :=
    ((List.perm_middle.map Schema.unionKey).nodup_iff).mp hkeys
  rw [List.map_cons, hd.unionKey (by simpa using hf)] at hmiddle
  exact (List.nodup_cons.mp hmiddle).1 hk

/-! ## What an outlined schema defines -/

theorem Redrawn.name? (h : Redrawn d n s t) : s.name? = t.name? := by
  cases h <;> rfl

theorem Redrawn.names {ss ts : List Schema} (h : List.Forall₂ (Redrawn d n) ss ts) :
    ss.filterMap Schema.name? = ts.filterMap Schema.name? := by
  induction h with
  | nil => rfl
  | cons he _ ih => simp only [List.filterMap_cons, he.name?, ih]

theorem branchDefinitions_append (ss ts : List Schema) :
    branchDefinitions (ss ++ ts) = branchDefinitions ss ++ branchDefinitions ts := by
  induction ss with
  | nil => rfl
  | cons s ss ih => simp [branchDefinitions, ih]

theorem fieldDefinitions_append (fs gs : List Field) :
    fieldDefinitions (fs ++ gs) = fieldDefinitions fs ++ fieldDefinitions gs := by
  induction fs with
  | nil => rfl
  | cons f fs ih => simp [fieldDefinitions, ih]

namespace Outlined

theorem isUnion (h : Outlined d n s t) (hd : DefinitionOf n d) : t.isUnion = s.isUnion := by
  cases h with
  | here => exact hd.isUnion.symm
  | _ => rfl

/-- Where the definition itself is the branch the key may change. -/
theorem unionKey (h : Outlined d n s t) : t.unionKey = s.unionKey ∨ s = d ∧ t = ref n := by
  cases h with
  | here => exact .inr ⟨rfl, rfl⟩
  | _ => exact .inl rfl

theorem definitions (h : Outlined d n s t) : ∃ rest, s.definitions.Perm (d.definitions ++ rest) ∧
    List.Forall₂ (Redrawn d n) rest t.definitions := by
  have hsame : ∀ ss : List Schema, List.Forall₂ (Redrawn d n) ss ss :=
    fun ss => List.forall₂_same.mpr fun e _ => .same e
  -- what stands before and after the part with `d` stays as it is
  have hwithin : ∀ (before after inner : List Schema) {rest : List Schema},
      inner.Perm (d.definitions ++ rest) →
      (before ++ (inner ++ after)).Perm (d.definitions ++ (before ++ (rest ++ after))) := by
    intro before after inner rest hp
    have hfront := (hp.append_right after).append_left before
    rw [List.append_assoc] at hfront
    exact hfront.trans (List.perm_append_comm_assoc ..)
  induction h with
  | here => exact ⟨[], by simp, .nil⟩
  | array _ ih => exact ih
  | map _ ih => exact ih
  | union before after _ ih =>
    obtain ⟨rest, hp, hr⟩ := ih
    refine ⟨branchDefinitions before ++ (rest ++ branchDefinitions after), ?_, ?_⟩
    · simpa only [Schema.definitions, branchDefinitions_append, branchDefinitions] using
        hwithin _ _ _ hp
    · simpa only [Schema.definitions, branchDefinitions_append, branchDefinitions] using
        List.rel_append (hsame _) (List.rel_append hr (hsame _))
  | record head before after f h ih =>
    obtain ⟨rest, hp, hr⟩ := ih
    refine ⟨Schema.record head (before ++ f :: after) ::
      (fieldDefinitions before ++ (rest ++ fieldDefinitions after)), ?_, ?_⟩
    · simp only [Schema.definitions, fieldDefinitions_append, fieldDefinitions]
      exact ((hwithin _ _ _ hp).cons _).trans List.perm_middle.symm
    · simp only [Schema.definitions, fieldDefinitions_append, fieldDefinitions]
      exact .cons (.record head before after f h)
        (List.rel_append (hsame _) (List.rel_append hr (hsame _)))

theorem definedNames (h : Outlined d n s t) :
    s.definedNames.Perm (d.definedNames ++ t.definedNames) := by
  obtain ⟨rest, hp, hr⟩ := h.definitions
  refine (hp.filterMap Schema.name?).trans ?_
  rw [List.filterMap_append, Redrawn.names hr]
  exact .refl _

theorem without (h : Outlined d n s t) : Without d.definedNames s t where
  sub _ hm := h.definedNames.mem_iff.mpr (List.mem_append_right _ hm)
  sup _ hm := List.mem_append.mp (h.definedNames.mem_iff.mp hm)

theorem mem_definedNames (h : Outlined d n s t) {m : FullName} (hm : m ∈ d.definedNames) :
    m ∈ s.definedNames := h.definedNames.mem_iff.mpr (List.mem_append_left _ hm)

end Outlined

theorem mem_branchNames {ss : List Schema} (hs : s ∈ ss) {m : FullName}
    (hm : m ∈ s.definedNames) : m ∈ branchNames ss := by
  induction ss with
  | nil => cases hs
  | cons u ss ih =>
    rw [branchNames_cons, List.mem_append]
    exact (List.mem_cons.mp hs).imp (fun he : s = u => he ▸ hm) ih

theorem mem_fieldNames {f : Field} {fs : List Field} (hf : f ∈ fs) {m : FullName}
    (hm : m ∈ f.schema.definedNames) : m ∈ fieldNames fs := by
  induction fs with
  | nil => cases hf
  | cons g fs ih =>
    rw [fieldNames_cons, List.mem_append]
    exact (List.mem_cons.mp hf).imp (fun he : f = g => he ▸ hm) ih

/-! ## The walk over the value with the name -/

section Walk

variable {locate₀ locate : Locate} {enclosing₀ enclosing space : Option String}
  {sc₀ sc₀' sc sc₁ : Scope} {o : Json.Members} {v v' : Json.Value} {before after : List Json.Value}
  {seen : List String} {ss : List Schema} {fs : List Field}

/-- The value `v'` is read as `t` wherever `v` with the schema `s` may be read again. -/
def ReadsAs (d : Schema) (n : FullName) (sc : Scope) (s t : Schema) (v' : Json.Value) : Prop :=
  ∀ locate' enclosing' sc', Follows d.definedNames s.definedNames sc sc' (Crowded d n s.nodes) t
    (walk locate' v' enclosing')

theorem walk_dotted (hd : DefinitionOf n d) (hw : d.WellFormed) (sc : Scope) :
    ReadsAs d n sc d (ref n) (.string n.dotted) := by
  intro locate' enclosing' sc'
  have hvalid := hd.valid hw
  rw [walk, typeName, ofKeyword?_dotted]
  unfold Follows Ends
  dsimp only
  rw [reference_of_dot n.dot_mem_dotted (hvalid.resolve_dotted enclosing')]
  by_cases hv : sc'.Visible n
  · rw [if_pos hv]
  · rw [if_neg hv]
    exact fun hwider => absurd (hwider.seen n (.inr hd.mem_definedNames)) hv

theorem Outlined.keys {front back : List Schema} (h : Outlined d n s t)
    (hkeys : ((front ++ s :: back).map Schema.unionKey).Nodup) :
    ((front ++ t :: back).map Schema.unionKey).Nodup ∨
      Crowded d n (Schema.union (front ++ s :: back)).nodes := by
  rcases h.unionKey with hk | ⟨rfl, rfl⟩
  · rw [List.map_append, List.map_cons] at hkeys ⊢
    rw [hk]
    exact .inl hkeys
  · by_cases hm : n.text ∈ (front ++ back).map Schema.unionKey
    · exact .inr ⟨front, back, by simp [nodes], hm⟩
    · have hrest := (List.nodup_cons.mp ((List.perm_middle.map Schema.unionKey).nodup_iff.mp hkeys)).2
      exact .inl ((List.perm_middle.map Schema.unionKey).nodup_iff.mpr
        (List.nodup_cons.mpr ⟨hm, hrest⟩))

theorem walkBranches_replaced (hq : ∀ w ∈ before ++ v :: after, Replays w)
    (hread : ∀ sc sc₁ s, walk locate v enclosing sc = (.ok s, sc₁) →
      ∃ t, Outlined d n s t ∧ ReadsAs d n sc s t v')
    (h : walkBranches locate (before ++ v :: after) enclosing seen sc = (.ok ss, sc₁)) :
    ∃ front s t back, ss = front ++ s :: back ∧ Outlined d n s t ∧
      ∀ locate' enclosing' sc', Follows d.definedNames (branchNames ss) sc sc'
        (Crowded d n (branchNodes ss)) (front ++ t :: back)
        (walkEach locate' enclosing' (before ++ v' :: after)) := by
  induction before generalizing seen sc ss with
  | nil =>
    obtain ⟨s, back, sc₂, rfl, hs, -, -, hback⟩ := walkBranches_ok h
    obtain ⟨t, ht, hreads⟩ := hread _ _ _ hs
    have hfresh := walkBranches_fresh hback
    have hadds := (walk_adds v enclosing sc).ok hs
    refine ⟨[], s, t, back, rfl, ht, fun locate' enclosing' sc' => ?_⟩
    rw [branchNames_cons]
    refine walkEach_follows hs hfresh ((hreads locate' enclosing' sc').excused fun hc => hc.mono ?_)
      ht.without fun sc₁' => (walkBranches_replay ?_ hback sc₁').widen ?_
    · exact fun u hu => List.mem_append_left _ hu
    · exact fun w hm => hq w (List.mem_cons_of_mem _ hm)
    · exact fun m hm hd => hfresh m hm ((hadds.visible m).mpr (.inr (ht.mem_definedNames hd)))
  | cons w before ih =>
    obtain ⟨u, rest, sc₂, rfl, hu, -, -, hrest⟩ := walkBranches_ok h
    obtain ⟨hqw, hq⟩ := List.forall_mem_cons.mp hq
    obtain ⟨front, s, t, back, rfl, ht, hreads⟩ := ih hq hrest
    have hfresh := walkBranches_fresh hrest
    have hadds := (walk_adds w enclosing sc).ok hu
    refine ⟨u :: front, s, t, back, rfl, ht, fun locate' enclosing' sc' => ?_⟩
    rw [List.cons_append, branchNames_cons]
    refine walkEach_follows hu hfresh ((hqw hu sc').widen ?_) (.refl u) fun sc₁' =>
      (hreads locate' enclosing' sc₁').excused fun hc => hc.mono ?_
    · intro m hm hd
      refine hfresh m ?_ ((hadds.visible m).mpr (.inr hm))
      exact mem_branchNames (by simp) (ht.mem_definedNames hd)
    · exact fun x hx => List.mem_append_right _ hx

theorem walkFields_replaced {field : Json.Members} (hv : field.get? "type" = some v)
    (hq : ∀ (other : Json.Members) w, .object other ∈ before ++ .object field :: after →
      other.get? "type" = some w → Replays w)
    (hread : ∀ sc sc₁ s, walk locate v space sc = (.ok s, sc₁) →
      ∃ t, Outlined d n s t ∧ ReadsAs d n sc s t v')
    (h : walkFields locate (before ++ .object field :: after) space seen sc = (.ok fs, sc₁)) :
    ∃ front f t back, fs = front ++ f :: back ∧ Outlined d n f.schema t ∧
      ∀ locate' sc', Follows d.definedNames (fieldNames fs) sc sc'
        (Crowded d n (fieldNodes fs)) (front ++ { f with schema := t } :: back)
        (walkFields locate' (before ++ .object (Json.Members.put "type" v' field) :: after) space
          seen) := by
  induction before generalizing seen sc fs with
  | nil =>
    obtain ⟨ms, name, w, s, back, sc₂, hms, hname, hvalid, hk, hw, rfl, hs, hback⟩ := walkFields_ok h
    cases hms
    cases hv.symm.trans hw
    obtain ⟨t, ht, hreads⟩ := hread _ _ _ hs
    have hfresh := walkFields_fresh hback
    have hadds := (walk_adds v space sc).ok hs
    have hget : ∀ key, key ≠ "type" →
        Json.Members.get? (Json.Members.put "type" v' field) key = field.get? key := fun key hkey =>
      by rw [Json.Members.get?_put, if_neg hkey]
    have hdoc : docOf (Json.Members.put "type" v' field) = docOf field := by
      rw [docOf, docOf, stringAttribute, stringAttribute, hget _ (by decide)]
    refine ⟨[], _, t, back, rfl, ht, fun locate' sc' => ?_⟩
    rw [fieldNames_cons]
    rw [List.nil_append, List.nil_append, ← hdoc, ← hget "default" (by decide)]
    refine walkFields_follows ((hget _ (by decide)).trans hname) hvalid hk
      (by rw [Json.Members.get?_put, if_pos rfl]) hs hfresh ((hreads locate' space sc').excused
        fun hc => hc.mono ?_) ht.without fun sc₁' => (walkFields_replay ?_ hback sc₁').widen ?_
    · exact fun u hu => List.mem_append_left _ hu
    · exact fun other w hm => hq other w (List.mem_cons_of_mem _ hm)
    · exact fun m hm hd => hfresh m hm ((hadds.visible m).mpr (.inr (ht.mem_definedNames hd)))
  | cons w before ih =>
    obtain ⟨ms, name, x, u, rest, sc₂, rfl, hname, hvalid, hk, hx, rfl, hu, hrest⟩ :=
      walkFields_ok h
    have hqx := hq ms x List.mem_cons_self hx
    obtain ⟨front, f, t, back, rfl, ht, hreads⟩ :=
      ih (fun other w hm => hq other w (List.mem_cons_of_mem _ hm)) hrest
    have hfresh := walkFields_fresh hrest
    have hadds := (walk_adds x space sc).ok hu
    refine ⟨_ :: front, f, t, back, rfl, ht, fun locate' sc' => ?_⟩
    rw [List.cons_append, fieldNames_cons]
    refine walkFields_follows hname hvalid hk hx hu hfresh ((hqx hu sc').widen ?_) (.refl u)
      fun sc₁' => (hreads locate' sc₁').excused fun hc => hc.mono ?_
    · intro m hm hd
      refine hfresh m ?_ ((hadds.visible m).mpr (.inr hm))
      exact mem_fieldNames (by simp) (ht.mem_definedNames hd)
    · exact fun x hx => List.mem_append_right _ hx

theorem Replaced.shape {text : String} (h : Replaced o text v v') :
    (∃ inner, v = .object inner) ∨ ∃ inner, v = .array inner := by
  cases h with
  | branch => exact .inr ⟨_, rfl⟩
  | _ => exact .inl ⟨_, rfl⟩

/-- What was replaced is the object, or something inside a value that stays. -/
theorem Replaced.result {text : String} (h : Replaced o text v v') :
    v = .object o ∧ v' = .string text ∨
      (∃ inner, v' = .object inner) ∨ ∃ inner, v' = .array inner := by
  cases h with
  | here => exact .inl ⟨rfl, rfl⟩
  | branch => exact .inr (.inr ⟨_, rfl⟩)
  | _ => exact .inr (.inl ⟨_, rfl⟩)

theorem walkObject_replaced {ms : Json.Members} (ht : ms.get? "type" = some v')
    (hv' : v' = .string n.dotted ∧ t = ref n ∨
      (∃ inner, v' = .object inner) ∨ ∃ inner, v' = .array inner)
    (h : ReadsAs d n sc s t v') : ReadsAs d n sc s t (.object ms) := by
  intro locate' enclosing' sc'
  have hread := h locate' enclosing' sc'
  rw [walk]
  rcases hv' with ⟨rfl, rfl⟩ | hv'
  · have hword : ∀ word : String, '.' ∉ word.toList → n.dotted ≠ word :=
      fun word hw he => hw (he ▸ n.dot_mem_dotted)
    rw [walkObject_string ht, if_neg (by simp [hword]), if_neg (hword _ (by decide)),
      if_neg (hword _ (by decide)), if_neg (hword _ (by decide)), if_neg (hword _ (by decide))]
    rw [walk] at hread
    have href : withLogical ms (ref n) = ref n := by
      unfold withLogical
      cases stringAttribute ms "logicalType" <;> rfl
    have hmap := hread.map (withLogical ms)
    rwa [href] at hmap
  · rw [walkObject_inner hv' ht]
    exact hread

/-- Where a definition object is replaced by the name of its type, the schema is the one with a
reference in place of the definition. -/
theorem walk_replaced (ho : walk locate₀ (.object o) enclosing₀ sc₀ = (.ok d, sc₀'))
    (hd : DefinitionOf n d) (hr : Replaced o n.dotted v v') (hq : Qualified v)
    (h : walk locate v enclosing sc = (.ok s, sc₁)) : ∃ t, Outlined d n s t ∧ ReadsAs d n sc s t v' := by
  have hw := ((walk_sound _ _ _).ok ho).2
  have hget : ∀ (ms : Json.Members) key key' w, key' ≠ key →
      Json.Members.get? (Json.Members.put key w ms) key' = ms.get? key' := fun ms key key' w hkey => by
    rw [Json.Members.get?_put, if_neg hkey]
  have hput : ∀ (ms : Json.Members) key w,
      Json.Members.get? (Json.Members.put key w ms) key = some w := fun ms key w => by
    rw [Json.Members.get?_put, if_pos rfl]
  induction hr generalizing enclosing sc sc₁ s with
  | here =>
    obtain rfl : s = d := Ends.ok (walk_replay hq ho sc) h
    exact ⟨ref n, .here, walk_dotted hd hw sc⟩
  | branch before after hr ih =>
    cases hq with
    | array hq =>
      obtain ⟨-, ss, rfl, hss⟩ := walk_array_ok h
      obtain ⟨hflat, hkeys⟩ := walkBranches_distinct hss
      obtain ⟨front, s, t, back, rfl, ht, hreads⟩ := walkBranches_replaced
        (fun w hm => walk_replay (hq w hm)) (fun sc sc₁ s hs => ih (hq _ (by simp)) hs) hss
      refine ⟨union (front ++ t :: back), .union front back ht, fun locate' enclosing' sc' => ?_⟩
      refine walk_union_follows (by simp) ((hreads locate' enclosing' sc').excused
        fun hc => hc.mono ?_) ?_ (ht.keys hkeys)
      · exact fun u hu => List.mem_cons_of_mem _ hu
      · have hu := ht.isUnion hd
        simp only [List.forall_mem_append, List.forall_mem_cons] at hflat ⊢
        exact ⟨hflat.1, hu.trans hflat.2.1, hflat.2.2⟩
  | @inner ms v v' hv hr ih =>
    cases hq with
    | object named parts =>
      have hpart : Part ms v := by
        rcases hr.shape with ⟨inner, rfl⟩ | ⟨inner, rfl⟩
        · exact .object hv
        · exact .array hv
      rw [walk, walkObject_inner hr.shape hv] at h
      rcases hr.result with ⟨rfl, rfl⟩ | hresult
      · obtain rfl : s = d := Ends.ok (walk_replay (parts _ hpart) ho sc) h
        exact ⟨ref n, .here, walkObject_replaced (hput _ _ _) (.inl ⟨rfl, rfl⟩) (walk_dotted hd hw sc)⟩
      · obtain ⟨t, hout, hreads⟩ := ih (parts _ hpart) h
        exact ⟨t, hout, walkObject_replaced (hput _ _ _) (.inr hresult) hreads⟩
  | @items ms v v' ht hv hr ih =>
    cases hq with
    | object named parts =>
      rw [walk] at h
      obtain ⟨w, s, hw', rfl, hs⟩ := walkObject_array_ok ht h
      cases hv.symm.trans hw'
      obtain ⟨t, hout, hreads⟩ := ih (parts _ (.items ht hv)) hs
      refine ⟨array t, .array hout, fun locate' enclosing' sc' => ?_⟩
      rw [walk, walkObject_array v' ((hget _ _ _ _ (by decide)).trans ht) (hput _ _ _)]
      exact ((hreads locate' enclosing' sc').map array).excused fun hc =>
        hc.mono fun u hu => List.mem_cons_of_mem _ hu
  | @values ms v v' ht hv hr ih =>
    cases hq with
    | object named parts =>
      rw [walk] at h
      obtain ⟨w, s, hw', rfl, hs⟩ := walkObject_map_ok ht h
      cases hv.symm.trans hw'
      obtain ⟨t, hout, hreads⟩ := ih (parts _ (.values ht hv)) hs
      refine ⟨map t, .map hout, fun locate' enclosing' sc' => ?_⟩
      rw [walk, walkObject_map v' ((hget _ _ _ _ (by decide)).trans ht) (hput _ _ _)]
      exact ((hreads locate' enclosing' sc').map map).excused fun hc =>
        hc.mono fun u hu => List.mem_cons_of_mem _ hu
  | @field ms field type before after v v' ht record hfields hv hr ih =>
    cases hq with
    | object named parts =>
      rw [walk] at h
      obtain ⟨vs, head, fields, rfl, hrec⟩ := ReadRecord.of_walk ht record h
      cases hfields.symm.trans hrec.members
      obtain ⟨sc₂, hread⟩ := hrec.read
      have hpart : ∀ (other : Json.Members) w, .object other ∈ before ++ .object field :: after →
          other.get? "type" = some w → Qualified w := fun other w hm hw =>
        parts w (.field ht record hrec.members hm hw)
      obtain ⟨front, f, t, back, rfl, hout, hreads⟩ := walkFields_replaced hv
        (fun other w hm hw => walk_replay (hpart other w hm hw))
        (fun sc sc₁ s hs => ih (hpart field v (by simp) hv) hs) hread
      have hdef : type ∈ definers := by rcases record with rfl | rfl <;> decide
      have hfresh : head.name ∉ d.definedNames := fun hm =>
        walkFields_fresh hread _ (mem_fieldNames (by simp) (hout.mem_definedNames hm))
          (.inr List.mem_cons_self)
      refine ⟨Schema.record head (front ++ { f with schema := t } :: back),
        .record head front back f hout, fun locate' enclosing' sc' => ?_⟩
      rw [walk]
      exact (hrec.follows ht record (fun text => named type text hdef ht)
        (fun key hkey => hget _ _ _ _ hkey) (hput _ _ _) hfresh
        (hreads locate' (sc'.enter head.name))).excused fun hc =>
          hc.mono fun u hu => List.mem_cons_of_mem _ hu

end Walk

/-! ## Documents -/

/-- The definition `d` of `n` is moved out of the document `text` with the schema `s`: it is the
document `part`, and `rest` is `text` with its full name in its place. All names in `text` are full
ones, and it parses on top of `N`, as does `part`, which leaves `M`. -/
structure MovedOut (text part rest : String) (N M : Namespace) (n : FullName) (s d : Schema) :
    Prop where
  values : ∃ v o v', Json.read text.toList = .ok v ∧ Json.read part.toList = .ok (.object o) ∧
    Json.read rest.toList = .ok v' ∧ Qualified v ∧ Replaced o n.dotted v v'
  whole : (parse text N).1 = .ok s
  alone : parse part N = (.ok d, M)
  definition : DefinitionOf n d

section Documents

variable {text part rest : String} {N M M₁ : Namespace}

theorem parse_of_json {text : String} {v : Json.Value} (h : Json.read text.toList = .ok v)
    (N : Namespace) :
    (parse text N).1 = (walk (Text.findQuoted text.toList) v none ⟨N, []⟩).1 := by
  rw [parse_eq, reading, h]

theorem parse_adds (h : parse text N = (.ok s, M)) : Adds ⟨N, []⟩ ⟨M, []⟩ s.definedNames :=
  (parse_reads h).1.adds

/-- After a definition was parsed alone, the rest of the document can see all that it needs. -/
theorem wider_of_parse (hs : parse text N = (.ok s, M)) (hd : parse part N = (.ok d, M₁)) :
    Wider d.definedNames ⟨N, []⟩ ⟨M₁, []⟩ s.definedNames where
  seen n hn := ((parse_adds hd).visible n).mpr hn
  free n hn hnew hv := (((parse_adds hd).visible n).mp hv).elim ((parse_adds hs).fresh n hn) hnew

/-- The rest of a document is read after the definition that was moved out of it, unless the name
of that crowds a union, and what is read is the schema with a reference in place of the
definition. -/
theorem MovedOut.parse (h : MovedOut text part rest N M n s d) :
    ∃ t, Outlined d n s t ∧ (¬ Crowded d n s.nodes → (Schema.parse rest M).1 = .ok t) ∧
      ∀ t', (Schema.parse rest M).1 = .ok t' → t' = t := by
  obtain ⟨⟨v, o, v', hv, ho, hv', hq, hr⟩, hs, hd, hn⟩ := h
  have hwider := wider_of_parse (Prod.ext hs rfl) hd
  have hwalk := (parse_of_json hv N).symm.trans hs
  have hwalk' := (parse_of_json ho N).symm.trans (congrArg Prod.fst hd)
  obtain ⟨t, hout, hreads⟩ := walk_replaced (Prod.ext hwalk' rfl) hn hr hq (Prod.ext hwalk rfl)
  have hread := hreads (Text.findQuoted rest.toList) none ⟨M, []⟩
  rw [parse_of_json hv']
  refine ⟨t, hout, ?_⟩
  unfold Follows Ends at hread
  rcases hm : walk (Text.findQuoted rest.toList) v' none ⟨M, []⟩ with ⟨e | t', sc⟩ <;>
    rw [hm] at hread
  · exact ⟨fun hc => absurd (hread hwider) hc, fun t' ht' => by cases ht'⟩
  · obtain rfl : t' = t := hread
    exact ⟨fun _ => rfl, fun _ ht' => (Except.ok.inj ht').symm⟩

end Documents

end AvroLink.Schema
