import AvroLink.Proofs.Branches
import AvroLink.Proofs.Follow

/-!
# Documents with full names

A value is `Qualified` when all definitions and references in it are spelled with a dot. Such a
value means the same wherever it stands: where it is read a second time, in a scope that sees what
the first one saw and none of the names that were defined, the same schema comes out of it
(`walk_replay`).
-/

namespace AvroLink.Schema

variable {locate locate' : Locate} {ms ms' : Json.Members} {enclosing enclosing' : Option String}
  {sc sc' sc₁ sc₂ : Scope} {s t : Schema} {name : FullName} {extra names : List FullName}
  {excuse : Prop} {v v' : Json.Value} {vs vs' : List Json.Value} {seen : List String}
  {ss : List Schema} {fs : List Field} {space : Option String}

/-- Values of `type` in an object that defines a type. -/
def definers : List String := ["record", "error", "enum", "fixed"]

/-- A value that is read as a schema inside an object. -/
inductive Part (ms : Json.Members) : Json.Value → Prop
  | object {inner : Json.Members} (h : ms.get? "type" = some (.object inner)) :
    Part ms (.object inner)
  | array {inner : List Json.Value} (h : ms.get? "type" = some (.array inner)) :
    Part ms (.array inner)
  | name {type : String} (h : ms.get? "type" = some (.string type)) (other : type ∉ definers)
    (notArray : type ≠ "array") (notMap : type ≠ "map") : Part ms (.string type)
  | items {v : Json.Value} (h : ms.get? "type" = some (.string "array"))
    (hv : ms.get? "items" = some v) : Part ms v
  | values {v : Json.Value} (h : ms.get? "type" = some (.string "map"))
    (hv : ms.get? "values" = some v) : Part ms v
  | field {type : String} {vs : List Json.Value} {field : Json.Members} {v : Json.Value}
    (h : ms.get? "type" = some (.string type)) (record : type = "record" ∨ type = "error")
    (hvs : ms.get? "fields" = some (.array vs)) (hfield : .object field ∈ vs)
    (hv : field.get? "type" = some v) : Part ms v

/-- Every definition and every reference in a value is spelled with a full name. -/
inductive Qualified : Json.Value → Prop
  | string {text : String} (h : Primitive.ofKeyword? text ≠ none ∨ '.' ∈ text.toList) :
    Qualified (.string text)
  | array {vs : List Json.Value} (h : ∀ v ∈ vs, Qualified v) : Qualified (.array vs)
  | object {ms : Json.Members}
    (named : ∀ type name, type ∈ definers → ms.get? "type" = some (.string type) →
      ms.get? "name" = some (.string name) → '.' ∈ name.toList)
    (parts : ∀ v, Part ms v → Qualified v) : Qualified (.object ms)

/-! ## Branches -/

theorem walkBranches_ok {us : List Schema}
    (h : walkBranches locate (v :: vs) enclosing seen sc = (.ok us, sc₂)) :
    ∃ s ss sc₁, us = s :: ss ∧ walk locate v enclosing sc = (.ok s, sc₁) ∧ s.isUnion = false ∧
      s.unionKey ∉ seen ∧
      walkBranches locate vs enclosing (seen ++ [s.unionKey]) sc₁ = (.ok ss, sc₂) := by
  rw [walkBranches] at h
  obtain ⟨s, sc₁, hs, h⟩ := Walk.bind_eq_ok.mp h
  by_cases hu : s.isUnion = true
  · rw [if_pos hu] at h
    cases h
  · rw [if_neg hu] at h
    by_cases hk : s.unionKey ∈ seen
    · rw [if_pos hk] at h
      cases h
    · rw [if_neg hk] at h
      obtain ⟨ss, sc₃, hss, h⟩ := Walk.bind_eq_ok.mp h
      cases h
      exact ⟨s, ss, sc₁, rfl, hs, by simpa using hu, hk, hss⟩

theorem walkEach_of_walkBranches (h : walkBranches locate vs enclosing seen sc = (.ok ss, sc₁)) :
    walkEach locate enclosing vs sc = (.ok ss, sc₁) := by
  induction vs generalizing seen sc ss with
  | nil =>
    rw [walkBranches] at h
    exact h
  | cons v vs ih =>
    obtain ⟨s, rest, sc₂, rfl, hs, -, -, hrest⟩ := walkBranches_ok h
    rw [walkEach, Walk.bind_ok hs, Walk.bind_ok (ih hrest)]
    rfl

theorem walkBranches_fresh (h : walkBranches locate vs enclosing seen sc = (.ok ss, sc₁)) :
    ∀ n ∈ branchNames ss, ¬ sc.Visible n :=
  ((walkBranches_sound vs enclosing seen sc).ok h).1.adds.fresh

theorem walkBranches_distinct (h : walkBranches locate vs enclosing [] sc = (.ok ss, sc₁)) :
    (∀ s ∈ ss, s.isUnion = false) ∧ (ss.map unionKey).Nodup := by
  obtain ⟨-, ⟨hw, hkeys, -⟩, -⟩ := (walkBranches_sound vs enclosing [] sc).ok h
  exact ⟨((branchesWellFormed_iff ss).mp hw).1, hkeys⟩

theorem walk_array_ok (h : walk locate (.array vs) enclosing sc = (.ok s, sc₁)) :
    vs ≠ [] ∧ ∃ ss, s = union ss ∧ walkBranches locate vs enclosing [] sc = (.ok ss, sc₁) := by
  rw [walk] at h
  by_cases hne : vs = []
  · subst hne
    cases h
  · rw [if_neg (by simpa using hne)] at h
    obtain ⟨ss, sc₂, hss, hret⟩ := Walk.bind_eq_ok.mp h
    cases hret
    exact ⟨hne, ss, rfl, hss⟩

theorem walkEach_follows {ts : List Schema} (hs : walk locate v enclosing sc = (.ok s, sc₁))
    (hfresh : ∀ n ∈ names, ¬ sc₁.Visible n)
    (hv : Follows extra s.definedNames sc sc' excuse t (walk locate' v' enclosing'))
    (ht : Without extra s t)
    (hvs : ∀ sc₁', Follows extra names sc₁ sc₁' excuse ts (walkEach locate' enclosing' vs')) :
    Follows extra (s.definedNames ++ names) sc sc' excuse (t :: ts)
      (walkEach locate' enclosing' (v' :: vs')) := by
  rw [walkEach]
  exact .part hs hfresh hv ht fun sc₁' => (hvs sc₁').map (t :: ·)

/-- A union is read where its branches are, unless their keys are an excuse. -/
theorem walk_union_follows {ts : List Schema} (hne : vs' ≠ [])
    (h : Follows extra names sc sc' excuse ts (walkEach locate' enclosing' vs'))
    (hflat : ∀ t ∈ ts, t.isUnion = false) (hkeys : (ts.map unionKey).Nodup ∨ excuse) :
    Follows extra names sc sc' excuse (union ts) (walk locate' (.array vs') enclosing') := by
  unfold Follows Ends at h ⊢
  rcases hw : walk locate' (.array vs') enclosing' sc' with ⟨e | t, sc₁'⟩
  · rcases he : walkEach locate' enclosing' vs' sc' with ⟨e' | us, sc₂'⟩ <;> rw [he] at h
    · exact h
    · obtain rfl : us = ts := h
      rcases hkeys with hn | hx
      · rw [(walk_union hne he hflat).1 hn] at hw
        cases hw
      · exact fun _ => hx
  · obtain ⟨-, us, rfl, hus⟩ := walk_array_ok hw
    rw [walkEach_of_walkBranches hus] at h
    exact congrArg union h

/-! ## Fields -/

theorem walkFields_object :
    walkFields locate (.object ms :: vs) space seen = do
      let name ← requiredString ms "field" "name"
      if !isValidName name then fail (.invalidName (.invalidName name)) (locate name)
      else if name ∈ seen then invalidAt (.repeatedField name) (locate name)
      else
        match ms.get? "type" with
        | none => invalid (.missing "field" "type")
        | some type => do
          let s ← walk locate type space
          return ⟨name, docOf ms, s, ms.get? "default"⟩ ::
            (← walkFields locate vs space (seen ++ [name])) := by
  rw [walkFields]
  congr 1
  funext name
  split
  · rfl
  · split
    · rfl
    · split
      · next h => simp only [h]
      · next h => simp only [h]

theorem walkFields_ok {us : List Field}
    (h : walkFields locate (v :: vs) space seen sc = (.ok us, sc₂)) :
    ∃ (ms : Json.Members) (name : String) (w : Json.Value) (s : Schema) (fs : List Field)
      (sc₁ : Scope), v = .object ms ∧ ms.get? "name" = some (.string name) ∧
      isValidName name = true ∧ name ∉ seen ∧ ms.get? "type" = some w ∧
      us = ⟨name, docOf ms, s, ms.get? "default"⟩ :: fs ∧
      walk locate w space sc = (.ok s, sc₁) ∧
      walkFields locate vs space (seen ++ [name]) sc₁ = (.ok fs, sc₂) := by
  cases v with
  | object ms =>
    rw [walkFields_object] at h
    obtain ⟨name, sc₀, hname, hrest⟩ := Walk.bind_eq_ok.mp h
    obtain ⟨rfl, hget⟩ := (requiredString_quiet _ _).ok_eq hname
    by_cases hvalid : isValidName name = true
    · rw [hvalid, Bool.not_true, if_neg (by simp)] at hrest
      by_cases hk : name ∈ seen
      · rw [if_pos hk] at hrest
        cases hrest
      · rw [if_neg hk] at hrest
        cases hw : Json.Members.get? ms "type" with
        | none =>
          rw [hw] at hrest
          cases hrest
        | some w =>
          rw [hw] at hrest
          obtain ⟨s, sc₁, hs, hrest⟩ := Walk.bind_eq_ok.mp hrest
          obtain ⟨fs, sc₃, hfs, hrest⟩ := Walk.bind_eq_ok.mp hrest
          cases hrest
          exact ⟨ms, name, w, s, fs, sc₁, rfl, hget, hvalid, hk, hw, rfl, hs, hfs⟩
    · rw [Bool.not_eq_true] at hvalid
      rw [hvalid, Bool.not_false, if_pos rfl] at hrest
      cases hrest
  | _ =>
    rw [walkFields] at h
    · cases h
    · simp

theorem walkFields_fresh (h : walkFields locate vs space seen sc = (.ok fs, sc₁)) :
    ∀ n ∈ fieldNames fs, ¬ sc.Visible n :=
  ((walkFields_sound vs space seen sc).ok h).1.adds.fresh

theorem walkFields_follows {name : String} {gs : List Field}
    (hname : ms'.get? "name" = some (.string name)) (hvalid : isValidName name = true)
    (hk : name ∉ seen) (hv' : ms'.get? "type" = some v')
    (hs : walk locate v space sc = (.ok s, sc₁)) (hfresh : ∀ n ∈ names, ¬ sc₁.Visible n)
    (hv : Follows extra s.definedNames sc sc' excuse t (walk locate' v' space))
    (ht : Without extra s t)
    (hvs : ∀ sc₁', Follows extra names sc₁ sc₁' excuse gs
      (walkFields locate' vs' space (seen ++ [name]))) :
    Follows extra (s.definedNames ++ names) sc sc' excuse
      (⟨name, docOf ms', t, ms'.get? "default"⟩ :: gs)
      (walkFields locate' (.object ms' :: vs') space seen) := by
  rw [walkFields_object, requiredString_eq hname, pure_bind]
  simp only [hvalid, hk, hv', Bool.not_true, Bool.false_eq_true, if_false]
  exact .part hs hfresh hv ht fun sc₁' => (hvs sc₁').map _

/-! ## Records -/

/-- What is known of a record that was read. -/
structure ReadRecord (locate : Locate) (ms : Json.Members) (enclosing : Option String) (sc : Scope)
    (vs : List Json.Value) (h : RecordHead) (fields : List Field) : Prop where
  defined : definedName locate ms enclosing sc = (.ok h.name, sc)
  free : ¬ sc.Visible h.name
  doc : h.doc = docOf ms
  members : ms.get? "fields" = some (.array vs)
  read : ∃ sc₁, walkFields locate vs h.name.space [] (sc.enter h.name) = (.ok fields, sc₁)
  listed : ∃ sc₁, aliases locate ms h.name.space sc₁ = (.ok h.aliases, sc₁)

theorem ReadRecord.of_walk {type : String} (ht : ms.get? "type" = some (.string type))
    (htype : type = "record" ∨ type = "error")
    (hw : walkObject locate ms enclosing sc = (.ok s, sc₂)) :
    ∃ vs h fields, s = .record h fields ∧ ReadRecord locate ms enclosing sc vs h fields := by
  rw [walkObject_string ht, if_pos htype] at hw
  obtain ⟨name, hname, hfree, hrest⟩ := defined_ok hw
  obtain ⟨vs, hvs⟩ : ∃ vs, ms.get? "fields" = some (.array vs) := by
    cases hv : ms.get? "fields" with
    | none =>
      rw [hv] at hrest
      cases hrest
    | some v =>
      rw [hv] at hrest
      cases v with
      | array vs => exact ⟨vs, rfl⟩
      | _ => cases hrest
  rw [hvs] at hrest
  obtain ⟨fields, sc₃, hfields, hafter⟩ := Walk.bind_eq_ok.mp hrest
  obtain ⟨as, sc₄, has, hlast⟩ := Walk.bind_eq_ok.mp hafter
  rw [Walk.opening_apply] at hfields
  obtain ⟨hread, -⟩ := Prod.mk.inj hfields
  obtain ⟨rfl, -⟩ := (aliases_quiet _).ok_eq has
  exact ⟨vs, ⟨name, docOf ms, as⟩, fields, register_ok rfl hlast,
    ⟨hname, hfree, rfl, hvs, ⟨_, Prod.ext hread rfl⟩, ⟨_, has⟩⟩⟩

/-- A record, where the second walk reads something for its fields. -/
theorem ReadRecord.follows {type : String} {h : RecordHead} {fields gs : List Field}
    (hr : ReadRecord locate ms enclosing sc vs h fields)
    (ht : ms.get? "type" = some (.string type)) (htype : type = "record" ∨ type = "error")
    (hdot : ∀ text, ms.get? "name" = some (.string text) → '.' ∈ text.toList)
    (hms : ∀ key, key ≠ "fields" → ms'.get? key = ms.get? key)
    (hvs' : ms'.get? "fields" = some (.array vs')) (hextra : h.name ∉ extra)
    (hf : Follows extra (fieldNames fields) (sc.enter h.name) (sc'.enter h.name) excuse gs
      (walkFields locate' vs' h.name.space [])) :
    Follows extra (record h fields).definedNames sc sc' excuse (record h gs)
      (walkObject locate' ms' enclosing') := by
  have ht' : ms'.get? "type" = some (.string type) := (hms _ (by decide)).trans ht
  have hdoc : docOf ms' = h.doc := by
    rw [hr.doc, docOf, stringAttribute, hms _ (by decide)]
    rfl
  have hdefined : definedName locate' ms' enclosing' sc' = (.ok h.name, sc') :=
    definedName_qualified (hms "name" (by decide)) (hms "namespace" (by decide)) hdot hr.defined sc'
  obtain ⟨sc₁, hfields⟩ := hr.read
  obtain ⟨sc₂, hlisted⟩ := hr.listed
  have has : ∀ sc', aliases locate' ms' h.name.space sc' = (.ok h.aliases, sc') := by
    have hsame : aliases locate' ms' h.name.space = aliases locate' ms h.name.space := by
      rw [aliases, aliases, hms _ (by decide)]
    rw [hsame]
    exact aliases_same.ok hlisted
  rw [walkObject_string ht', if_pos htype, definedNames_record]
  refine .defined hdefined (by simp) hextra fun hfree' => ?_
  rw [hvs']
  refine Ends.bind (.opening ?_)
  unfold Follows Ends at hf
  unfold Ends
  rcases hm : walkFields locate' vs' h.name.space [] (sc'.enter h.name) with ⟨e | fs, sc₁'⟩ <;>
    rw [hm] at hf
  · exact fun hw => hf (hw.enter (walkFields_fresh hfields))
  · -- nothing in the fields has taken the name of the record
    obtain ⟨⟨new, hg, -⟩, -⟩ := (walkFields_sound vs' h.name.space [] (sc'.enter h.name)).ok hm
    obtain ⟨hclose, apart⟩ := hg.close
    have hfresh : h.name ∉ sc₁'.close.types := by
      rw [hclose.mem_types]
      exact fun hm => hm.elim (fun hm => hfree' (.inl hm)) apart
    obtain ⟨sc₃', hreg⟩ : Returns (register locate' (.record h fs)) sc₁'.close (.record h fs) :=
      register_returns rfl hfresh
    dsimp only
    rw [Walk.bind_ok (has _), hdoc, hreg]
    exact congrArg (record h) hf

/-! ## The walk -/

/-- Where a value was read, the same schema is read again in every scope that is wide enough. -/
def Replays (v : Json.Value) : Prop :=
  ∀ ⦃locate locate' enclosing enclosing' sc sc₁ s⦄, walk locate v enclosing sc = (.ok s, sc₁) →
    ∀ sc', Follows [] s.definedNames sc sc' False s (walk locate' v enclosing')

theorem walkBranches_replay (hvs : ∀ v ∈ vs, Replays v)
    (h : walkBranches locate vs enclosing seen sc = (.ok ss, sc₁)) (sc' : Scope) :
    Follows [] (branchNames ss) sc sc' False ss (walkEach locate' enclosing' vs) := by
  induction vs generalizing seen sc ss sc' with
  | nil =>
    rw [walkBranches] at h
    cases h
    exact .pure
  | cons v vs ih =>
    obtain ⟨s, rest, sc₂, rfl, hs, -, -, hrest⟩ := walkBranches_ok h
    obtain ⟨hv, hvs⟩ := List.forall_mem_cons.mp hvs
    rw [branchNames_cons]
    exact walkEach_follows hs (walkBranches_fresh hrest) (hv hs sc') (.refl s) (ih hvs hrest)

theorem walkFields_replay
    (hvs : ∀ (field : Json.Members) v, .object field ∈ vs → field.get? "type" = some v → Replays v)
    (h : walkFields locate vs space seen sc = (.ok fs, sc₁)) (sc' : Scope) :
    Follows [] (fieldNames fs) sc sc' False fs (walkFields locate' vs space seen) := by
  induction vs generalizing seen sc fs sc' with
  | nil =>
    rw [walkFields] at h ⊢
    cases h
    exact .pure
  | cons v vs ih =>
    obtain ⟨field, name, w, s, rest, sc₂, rfl, hname, hvalid, hk, hw, rfl, hs, hrest⟩ :=
      walkFields_ok h
    have hreplay := hvs field w List.mem_cons_self hw
    have hafter := ih (fun field v hm => hvs field v (List.mem_cons_of_mem _ hm)) hrest
    rw [fieldNames_cons]
    exact walkFields_follows hname hvalid hk hw hs (walkFields_fresh hrest) (hreplay hs sc')
      (.refl s) hafter

theorem walkObject_inner (hv : (∃ inner, v = .object inner) ∨ ∃ inner, v = .array inner)
    (ht : ms.get? "type" = some v) : walkObject locate ms enclosing = walk locate v enclosing := by
  rw [walkObject]
  rcases hv with ⟨inner, rfl⟩ | ⟨inner, rfl⟩ <;> split <;> simp_all

theorem walkObject_ok (h : walkObject locate ms enclosing sc = (.ok s, sc₁)) :
    ∃ v, ms.get? "type" = some v ∧
      (((∃ inner, v = .object inner) ∨ ∃ inner, v = .array inner) ∨ ∃ type, v = .string type) := by
  by_contra hno
  have hfails : ∃ fault, walkObject locate ms enclosing = invalid fault := by
    rw [walkObject]
    split
    · exact ⟨_, rfl⟩
    · next h => exact absurd ⟨_, h, .inl (.inl ⟨_, rfl⟩)⟩ hno
    · next h => exact absurd ⟨_, h, .inl (.inr ⟨_, rfl⟩)⟩ hno
    · next h => exact absurd ⟨_, h, .inr ⟨_, rfl⟩⟩ hno
    · exact ⟨_, rfl⟩
  obtain ⟨fault, hf⟩ := hfails
  rw [hf] at h
  cases h

theorem walkObject_array_ok (ht : ms.get? "type" = some (.string "array"))
    (h : walkObject locate ms enclosing sc = (.ok s, sc₁)) : ∃ items t,
      ms.get? "items" = some items ∧ s = array t ∧ walk locate items enclosing sc = (.ok t, sc₁) := by
  cases hi : ms.get? "items" with
  | none =>
    simp only [walkObject_string ht, String.reduceEq, or_self, if_false, if_true, hi] at h
    cases h
  | some items =>
    rw [walkObject_array items ht hi] at h
    obtain ⟨t, sc₂, hwalk, hret⟩ := Walk.bind_eq_ok.mp h
    cases hret
    exact ⟨items, t, rfl, rfl, hwalk⟩

theorem walkObject_map_ok (ht : ms.get? "type" = some (.string "map"))
    (h : walkObject locate ms enclosing sc = (.ok s, sc₁)) : ∃ values t,
      ms.get? "values" = some values ∧ s = map t ∧
        walk locate values enclosing sc = (.ok t, sc₁) := by
  cases hv : ms.get? "values" with
  | none =>
    simp only [walkObject_string ht, String.reduceEq, or_self, if_false, if_true, hv] at h
    cases h
  | some values =>
    rw [walkObject_map values ht hv] at h
    obtain ⟨t, sc₂, hwalk, hret⟩ := Walk.bind_eq_ok.mp h
    cases hret
    exact ⟨values, t, rfl, rfl, hwalk⟩

theorem walkObject_replay
    (hnamed : ∀ type name, type ∈ definers → ms.get? "type" = some (.string type) →
      ms.get? "name" = some (.string name) → '.' ∈ name.toList)
    (hparts : ∀ v, Part ms v → Qualified v) (hreplay : ∀ v, Part ms v → Replays v) :
    Replays (.object ms) := by
  intro locate locate' enclosing enclosing' sc sc₁ s h sc'
  rw [walk] at h ⊢
  obtain ⟨v, ht, hv | ⟨type, rfl⟩⟩ := walkObject_ok h
  · have hpart : Part ms v := by
      rcases hv with ⟨inner, rfl⟩ | ⟨inner, rfl⟩
      · exact .object ht
      · exact .array ht
    rw [walkObject_inner hv ht] at h ⊢
    exact hreplay v hpart h sc'
  · have hdot : type ∈ definers →
        ∀ text, ms.get? "name" = some (.string text) → '.' ∈ text.toList :=
      fun hd text => hnamed type text hd ht
    by_cases hrecord : type = "record" ∨ type = "error"
    · obtain ⟨vs, head, fields, rfl, hr⟩ := ReadRecord.of_walk ht hrecord h
      obtain ⟨sc₂, hfields⟩ := hr.read
      have hdef : type ∈ definers := by rcases hrecord with rfl | rfl <;> decide
      exact hr.follows ht hrecord (hdot hdef) (fun _ _ => rfl) hr.members (by simp)
        (walkFields_replay (fun field w hf hw => hreplay w (.field ht hrecord hr.members hf hw))
          hfields (sc'.enter head.name))
    by_cases harray : type = "array"
    · subst harray
      obtain ⟨items, t, hi, rfl, hwalk⟩ := walkObject_array_ok ht h
      rw [walkObject_array items ht hi]
      exact (hreplay items (.items ht hi) hwalk sc').map array
    by_cases hmap : type = "map"
    · subst hmap
      obtain ⟨values, t, hv, rfl, hwalk⟩ := walkObject_map_ok ht h
      rw [walkObject_map values ht hv]
      exact (hreplay values (.values ht hv) hwalk sc').map map
    rw [walkObject_string ht, if_neg hrecord] at h ⊢
    by_cases henum : type = "enum"
    · rw [if_pos henum] at h ⊢
      exact enumType_replay (hdot (by simp [henum, definers])) h locate' enclosing' sc'
    rw [if_neg henum] at h ⊢
    by_cases hfixed : type = "fixed"
    · rw [if_pos hfixed] at h ⊢
      exact withLogical_replay (fun t sc₁ ht => fixedType_replay
        (hdot (by simp [hfixed, definers])) ht locate' enclosing' sc') h
    rw [if_neg hfixed] at h ⊢
    rw [if_neg harray, if_neg hmap] at h ⊢
    have hother : type ∉ definers := by simp [definers]; tauto
    cases hparts _ (.name ht hother harray hmap) with
    | string hq => exact withLogical_replay (fun t sc₁ ht => typeName_replay hq ht _ _ sc') h

/-- A qualified value means the same wherever it stands. -/
theorem walk_replay (hq : Qualified v) : Replays v := by
  induction hq with
  | string hq =>
    intro locate locate' enclosing enclosing' sc sc₁ s h sc'
    rw [walk] at h ⊢
    exact typeName_replay hq h locate' enclosing' sc'
  | @array vs hq ih =>
    intro locate locate' enclosing enclosing' sc sc₁ s h sc'
    obtain ⟨hne, ss, rfl, hss⟩ := walk_array_ok h
    obtain ⟨hflat, hkeys⟩ := walkBranches_distinct hss
    exact walk_union_follows hne (walkBranches_replay ih hss sc') hflat (.inl hkeys)
  | object hnamed hparts ih => exact walkObject_replay hnamed hparts ih

end AvroLink.Schema
