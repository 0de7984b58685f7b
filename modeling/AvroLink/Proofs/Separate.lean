import AvroLink.Proofs.Collecting
import AvroLink.Proofs.Outline
import AvroLink.Proofs.Renamed
import AvroLink.Proofs.Within

/-!
# Files of a document and of its parts

When a definition is moved out of a document, the files that are generated stay the same, with one
exception: where a decimal is laid over a fixed type, the record in whose own fields the definition
stands (`Schema.shownIn`) shows a decimal in one case and the name of the fixed type in the other.
-/

namespace AvroLink

namespace Schema

mutual

/-- The schemas that the type expression of a schema is made of. -/
def shown : Schema → List Schema
  | array items => shown items
  | map values => shown values
  | union branches => branchShown branches
  | s => [s]

def branchShown : List Schema → List Schema
  | [] => []
  | s :: ss => shown s ++ branchShown ss

end

/-- What the types of a record's own fields are made of. -/
def shownIn : Schema → List Schema
  | record _ fields => fields.flatMap fun f => f.schema.shown
  | _ => []

theorem branchShown_eq (ss : List Schema) : branchShown ss = ss.flatMap shown := by
  induction ss with
  | nil => rfl
  | cons s ss ih => rw [branchShown, ih, List.flatMap_cons]

variable {d s t : Schema} {n : FullName}

theorem DefinitionOf.ne_primitive (hd : DefinitionOf n d) (p : Primitive) : d ≠ primitive p := by
  rintro rfl
  cases hd with
  | plain h => cases h

theorem Outlined.ne_primitive (h : Outlined d n s t) (hd : DefinitionOf n d) (p : Primitive) :
    s ≠ primitive p ∧ t ≠ primitive p := by
  cases h with
  | here => exact ⟨hd.ne_primitive p, by simp⟩
  | _ => simp

theorem nullable?_none (hfront : ∀ u, s ≠ union [primitive .null, u])
    (hback : ∀ u, s ≠ union [u, primitive .null]) : s.nullable? = none := by
  rw [nullable?]
  · exact hfront
  · exact hback

theorem Outlined.nullable? (h : Outlined d n s t) (hd : DefinitionOf n d) :
    s.nullable? = none ∧ t.nullable? = none ∨
      ∃ a b, s.nullable? = some a ∧ t.nullable? = some b ∧ Outlined d n a b ∧
        ∀ u ∈ a.shown, u ∈ s.shown := by
  cases h with
  | here =>
    have hnone : ∀ u : Schema, u.isUnion = false → u.nullable? = none := fun u hu =>
      nullable?_none (fun _ he => by rw [he] at hu; cases hu) fun _ he => by rw [he] at hu; cases hu
    exact .inl ⟨hnone d hd.isUnion, rfl⟩
  | array _ => exact .inl ⟨rfl, rfl⟩
  | map _ => exact .inl ⟨rfl, rfl⟩
  | record => exact .inl ⟨rfl, rfl⟩
  | @union before after a b h =>
    obtain ⟨ha, hb⟩ := h.ne_primitive hd .null
    by_cases hfront : before = [primitive .null] ∧ after = []
    · obtain ⟨rfl, rfl⟩ := hfront
      exact .inr ⟨a, b, rfl, rfl, h, by simp +contextual [shown, branchShown_eq]⟩
    by_cases hback : before = [] ∧ after = [primitive .null]
    · obtain ⟨rfl, rfl⟩ := hback
      exact .inr ⟨a, b, nullable?.eq_2 a ha, nullable?.eq_2 b hb, h,
        by simp +contextual [shown, branchShown_eq]⟩
    have hnone : ∀ c, c ≠ primitive .null →
        (Schema.union (before ++ c :: after)).nullable? = none := by
      intro c hc
      refine nullable?_none (fun u he => ?_) fun u he => ?_ <;>
        rcases before with _ | ⟨x, _ | ⟨y, before⟩⟩ <;> simp_all
    exact .inl ⟨hnone a ha, hnone b hb⟩

end Schema

namespace TypeScript

open Schema

variable {config : Config} {remap : Remap} {d s t e e' : Schema} {n self : FullName}

theorem typesOf_congr (h : typeOf remap s = typeOf remap t) (before after : List Schema) :
    typesOf remap (before ++ s :: after) = typesOf remap (before ++ t :: after) := by
  induction before with
  | nil => simp only [List.nil_append, typesOf, h]
  | cons u before ih => simp only [List.cons_append, typesOf, ih]

/-- But for a decimal on a fixed type, a definition is shown as a reference is. -/
theorem typeOf_definition (hd : DefinitionOf n d) (hplain : d.onFixed = false) :
    typeOf remap d = typeOf remap (.ref n) := by
  cases hd with
  | plain h => cases d <;> cases h <;> rfl
  | onFixed l h => cases hplain

theorem typeOf_outlined (h : Outlined d n s t) (hd : DefinitionOf n d)
    (hshown : d.onFixed = true → d ∉ s.shown) : typeOf remap s = typeOf remap t := by
  induction h with
  | here =>
    refine typeOf_definition hd ?_
    by_contra hf
    refine hshown (by simpa using hf) ?_
    cases hd with
    | plain h =>
      cases d with
      | logical l base => cases h
      | _ => exact absurd rfl hf
    | onFixed l h => simp [shown]
  | array _ ih => simp only [typeOf, ih hshown]
  | map _ ih => simp only [typeOf, ih hshown]
  | union before after _ ih =>
    simp only [shown, branchShown_eq] at hshown
    rw [typeOf, typeOf, typesOf_congr (ih fun hf hm => hshown hf (by simp [hm]))]
  | record head before after f _ _ => rfl

theorem fieldLine_outlined {f : Field} (h : Outlined d n f.schema t) (hd : DefinitionOf n d)
    (hshown : d.onFixed = true → d ∉ f.schema.shown) :
    fieldLine config remap f = fieldLine config remap { f with schema := t } := by
  unfold fieldLine
  rcases h.nullable? hd with ⟨hs, ht⟩ | ⟨a, b, hs, ht, hab, hsub⟩
  · simp only [hs, ht, typeOf_outlined h hd hshown]
  · have hb : typeOf remap a = typeOf remap b :=
      typeOf_outlined hab hd fun hf hm => hshown hf (hsub d hm)
    simp only [hs, ht]
    cases config.optional <;> simp only [hb]

theorem fieldTexts_congr {f g : Field} (hdocs : fieldDocs f = fieldDocs g)
    (hline : fieldLine config remap f = fieldLine config remap g) (before after : List Field) :
    fieldTexts config remap (before ++ f :: after) =
      fieldTexts config remap (before ++ g :: after) := by
  induction before with
  | nil => simp only [List.nil_append, fieldTexts, hdocs, hline]
  | cons u before ih => simp only [List.cons_append, fieldTexts, ih]

/-- The file of a definition is the same when another one was moved out of it. -/
theorem emit_redrawn (h : Redrawn d n e e') (hd : DefinitionOf n d)
    (hshown : d.onFixed = true → d ∉ e.shownIn) :
    emit config remap self e = emit config remap self e' := by
  cases h with
  | same => rfl
  | @record head before after f t h =>
    have hline : fieldLine config remap f = fieldLine config remap { f with schema := t } :=
      fieldLine_outlined h hd fun hf hm => hshown hf (by simp [shownIn, hm])
    have hdocs : fieldDocs f = fieldDocs { f with schema := t } := rfl
    rw [emit, emit, declaration, declaration]
    simp only [fieldTexts_congr hdocs hline before after]

/-! ## A batch -/

theorem generate_of_nodup {types : List Schema}
    (h : ((Artifact.renamed remap (types.flatMap definitions)).map Prod.fst).Nodup) :
    generate config types remap = .ok ((Artifact.renamed remap (types.flatMap definitions)).map
      fun e => emit config remap e.1 e.2) := by
  rw [generate_eq]
  cases hn : Artifact.collectNamed types remap with
  | error e =>
    have hdup := Artifact.collectFrom_error hn
    exact absurd h hdup.not_nodup
  | ok named =>
    obtain ⟨rfl, -⟩ := Artifact.collectFrom_ok hn List.nodup_nil
    rfl

end TypeScript

/-! ## Names of a batch -/

theorem Remap.empty_applyName {n : FullName} (h : n.Valid) : empty.applyName n = n := by
  obtain ⟨_ | ns, name⟩ := n
  · rfl
  · exact congrArg (FullName.mk · name) h.spaceOf_space

namespace Artifact

variable {remap : Remap} {ss : List Schema} {e : Schema} {m : FullName}

theorem mem_renamed : (m, e) ∈ renamed remap ss ↔
    e ∈ ss ∧ ∃ n, e.name? = some n ∧ m = remap.applyName n := by
  simp only [renamed, List.mem_filterMap, Option.map_eq_some_iff, Prod.mk.injEq]
  grind

theorem map_fst_renamed_empty (hv : ∀ n ∈ ss.filterMap Schema.name?, n.Valid) :
    (renamed .empty ss).map Prod.fst = ss.filterMap Schema.name? := by
  induction ss with
  | nil => rfl
  | cons s ss ih =>
    cases hs : s.name? with
    | none =>
      rw [List.filterMap_cons_none hs] at hv ⊢
      rw [renamed_cons_none hs, ih hv]
    | some n =>
      rw [List.filterMap_cons_some hs] at hv ⊢
      obtain ⟨hn, hv⟩ := List.forall_mem_cons.mp hv
      rw [renamed_cons_some hs, List.map_cons, ih hv, Remap.empty_applyName hn]

end Artifact

namespace TypeScript

open Schema

variable {config : Config} {ss : List Schema} {a : Artifact} {d s t e e' : Schema} {n : FullName}

def filesOf (config : Config) (ss : List Schema) : List Artifact :=
  (Artifact.renamed .empty ss).map fun e => emit config .empty e.1 e.2

theorem generate_filesOf {types : List Schema} (hss : types.flatMap definitions = ss)
    (hv : ∀ n ∈ ss.filterMap name?, n.Valid) (hd : (ss.filterMap name?).Nodup) :
    generate config types .empty = .ok (filesOf config ss) := by
  subst hss
  exact generate_of_nodup (by rwa [Artifact.map_fst_renamed_empty hv])

theorem map_path_filesOf (hv : ∀ n ∈ ss.filterMap name?, n.Valid) :
    (filesOf config ss).map Artifact.path = (ss.filterMap name?).map filePath := by
  rw [← Artifact.map_fst_renamed_empty hv, filesOf, List.map_map, List.map_map]
  rfl

theorem mem_filesOf (hv : ∀ n ∈ ss.filterMap name?, n.Valid) : a ∈ filesOf config ss ↔
    ∃ e ∈ ss, ∃ m, e.name? = some m ∧ a = emit config .empty m e := by
  rw [filesOf, List.mem_map]
  constructor
  · rintro ⟨⟨m, e⟩, hm, rfl⟩
    obtain ⟨he, n, hn, rfl⟩ := Artifact.mem_renamed.mp hm
    have hvalid := hv n (List.mem_filterMap.mpr ⟨e, he, hn⟩)
    exact ⟨e, he, n, hn, by rw [Remap.empty_applyName hvalid]⟩
  · rintro ⟨e, he, m, hm, rfl⟩
    have hvalid := hv m (List.mem_filterMap.mpr ⟨e, he, hm⟩)
    exact ⟨(m, e), Artifact.mem_renamed.mpr ⟨he, m, hm, (Remap.empty_applyName hvalid).symm⟩, rfl⟩

theorem exists_mem_left {α β : Type} {R : α → β → Prop} {as : List α} {bs : List β}
    (h : List.Forall₂ R as bs) {x : α} (hx : x ∈ as) : ∃ y ∈ bs, R x y := by
  induction h with
  | nil => cases hx
  | cons hr _ ih =>
    rcases List.mem_cons.mp hx with rfl | hx
    · exact ⟨_, List.mem_cons_self, hr⟩
    · obtain ⟨y, hy, hxy⟩ := ih hx
      exact ⟨y, List.mem_cons_of_mem _ hy, hxy⟩

/-- The file at this path does not declare a record in whose own fields a decimal stands that is
laid over a fixed type. -/
def Unaffected (s d : Schema) (path : String) : Prop :=
  d.onFixed = true → ∀ e ∈ s.definitions, ∀ m, e.name? = some m → d ∈ e.shownIn → path ≠ filePath m

/-- Where a definition was moved out, the files but for one are those of before. -/
theorem mem_filesOf_outlined (h : Outlined d n s t) (hd : DefinitionOf n d)
    (hv : ∀ m ∈ s.definedNames, m.Valid) (ha : Unaffected s d a.path) :
    a ∈ filesOf config (d.definitions ++ t.definitions) ↔ a ∈ filesOf config s.definitions := by
  obtain ⟨rest, hp, hr⟩ := h.definitions
  have hv' : ∀ m ∈ (d.definitions ++ t.definitions).filterMap name?, m.Valid := fun m hm => by
    rw [List.filterMap_append] at hm
    exact hv m (h.definedNames.mem_iff.mpr hm)
  have hsame : ∀ e ∈ rest, ∀ e', Redrawn d n e e' → ∀ m, e.name? = some m → a.path = filePath m →
      emit config .empty m e = emit config .empty m e' := fun e he e' hee' m hm hpath =>
    emit_redrawn hee' hd fun hf hshown =>
      ha hf e (hp.mem_iff.mpr (List.mem_append_right _ he)) m hm hshown hpath
  rw [mem_filesOf hv', mem_filesOf hv]
  constructor
  · rintro ⟨e', he', m, hm, rfl⟩
    rcases List.mem_append.mp he' with he' | he'
    · exact ⟨e', hp.mem_iff.mpr (List.mem_append_left _ he'), m, hm, rfl⟩
    · obtain ⟨e, he, hee'⟩ := exists_mem_left hr.flip he'
      have hm' := hee'.name?.trans hm
      exact ⟨e, hp.mem_iff.mpr (List.mem_append_right _ he), m, hm',
        (hsame e he e' hee' m hm' rfl).symm⟩
  · rintro ⟨e, he, m, hm, rfl⟩
    rcases List.mem_append.mp (hp.mem_iff.mp he) with he | he
    · exact ⟨e, List.mem_append_left _ he, m, hm, rfl⟩
    · obtain ⟨e', he', hee'⟩ := exists_mem_left hr he
      exact ⟨e', List.mem_append_right _ he', m, hee'.name?.symm.trans hm,
        hsame e he e' hee' m hm rfl⟩

/-- It makes no difference to the files whether a definition stands in a document or is parsed
before it, but for a decimal on a fixed type: the record in whose own fields it stands then shows
the fixed type, and a union may refuse its name. -/
theorem generate_outlined {text part rest : String} {N M : Namespace} {n : FullName} {s d : Schema}
    (h : MovedOut text part rest N M n s d) :
    ((d.onFixed = true → ¬ Crowded d n s.nodes) → ∃ t, (parse rest M).1 = .ok t) ∧
      ∀ t, (parse rest M).1 = .ok t → ∀ config, ∃ as bs, generate config [s] .empty = .ok as ∧
        generate config [d, t] .empty = .ok bs ∧
        (bs.map Artifact.path).Perm (as.map Artifact.path) ∧
        ∀ a : Artifact, Unaffected s d a.path → (a ∈ bs ↔ a ∈ as) := by
  have hreads := parse_reads (Prod.ext h.whole rfl : parse text N = (.ok s, (parse text N).2))
  have hw := hreads.2
  have hwd := (parse_reads h.alone).2
  obtain ⟨t, hout, hok, hunique⟩ := h.parse
  refine ⟨fun hc => ⟨t, hok fun hcrowded => hc (hcrowded.onFixed hw h.definition) hcrowded⟩, ?_⟩
  intro t' ht' config
  obtain rfl := hunique t' ht'
  have hv : ∀ m ∈ s.definedNames, m.Valid := fun m hm => by
    obtain ⟨e, he, hm⟩ := List.mem_filterMap.mp hm
    exact hw.valid_of_mem he hm
  have hnames : s.definedNames.Perm ((d.definitions ++ t'.definitions).filterMap name?) := by
    rw [List.filterMap_append]
    exact hout.definedNames
  have hv' : ∀ m ∈ (d.definitions ++ t'.definitions).filterMap name?, m.Valid := fun m hm =>
    hv m (hnames.mem_iff.mpr hm)
  refine ⟨filesOf config s.definitions, filesOf config (d.definitions ++ t'.definitions), ?_, ?_,
    ?_, fun a ha => mem_filesOf_outlined hout h.definition hv ha⟩
  · exact generate_filesOf (by simp) hv hreads.1.nodup
  · exact generate_filesOf (by simp) hv' (hnames.nodup_iff.mp hreads.1.nodup)
  · rw [map_path_filesOf hv, map_path_filesOf hv']
    exact (hnames.map filePath).symm

/-! ## A fixed type and a record -/

def idText : String := "\x7b\"type\":\"fixed\",\"name\":\"b.Id\",\"size\":16\x7d"

/-- The same fixed type with a decimal laid over it. -/
def decimalText : String :=
  "\x7b\"type\":\"fixed\",\"name\":\"b.Id\",\"size\":16,\"logicalType\":\"decimal\"," ++
    "\"precision\":9\x7d"

/-- A record with one field, before and after the type of the field. -/
def userFront : String :=
  "\x7b\"type\":\"record\",\"name\":\"a.User\",\"fields\":[\x7b\"name\":\"id\",\"type\":"

def userBack : String := "\x7d]\x7d"

def idMembers : Json.Members :=
  [("name", .string "b.Id"), ("size", .number (.int 16)), ("type", .string "fixed")]

def decimalMembers : Json.Members :=
  [("logicalType", .string "decimal"), ("name", .string "b.Id"), ("precision", .number (.int 9)),
    ("size", .number (.int 16)), ("type", .string "fixed")]

def userField (type : Json.Value) : Json.Members := [("name", .string "id"), ("type", type)]

def userMembers (type : Json.Value) : Json.Members :=
  [("fields", .array [.object (userField type)]), ("name", .string "a.User"),
    ("type", .string "record")]

def idName : FullName := ⟨some "b", "Id"⟩

def idFixed : Schema := .fixed ⟨idName, [], 16⟩

def decimalFixed : Schema := .logical (.decimal 9 0) idFixed

def user (id : Schema) : Schema := .record ⟨⟨some "a", "User"⟩, none, []⟩ [⟨"id", none, id, none⟩]

theorem qualified_fixed {ms : Json.Members} (ht : ms.get? "type" = some (.string "fixed"))
    (hn : ms.get? "name" = some (.string "b.Id")) : Qualified (.object ms) := by
  refine .object (fun type name _ _ h => ?_) fun v hv => ?_
  · cases hn.symm.trans h
    decide
  · cases hv with
    | name h other =>
      cases ht.symm.trans h
      exact absurd (by decide) other
    | field h record =>
      cases ht.symm.trans h
      simp at record
    | object h | array h | items h | values h => simp [ht] at h

theorem qualified_user {type : Json.Value} (h : Qualified type) :
    Qualified (.object (userMembers type)) := by
  have ht : (userMembers type).get? "type" = some (.string "record") := rfl
  have hname : (userMembers type).get? "name" = some (.string "a.User") := rfl
  have hfields : (userMembers type).get? "fields" = some (.array [.object (userField type)]) := rfl
  have hfield : (userField type).get? "type" = some type := rfl
  refine .object (fun _ name _ _ hn => ?_) fun v hv => ?_
  · cases hname.symm.trans hn
    decide
  · cases hv with
    | name h other =>
      cases ht.symm.trans h
      exact absurd (by decide) other
    | object h | array h | items h | values h => simp [ht] at h
    | field _ _ hvs hf hv =>
      cases hfields.symm.trans hvs
      cases List.mem_singleton.mp hf
      cases hfield.symm.trans hv
      exact h

theorem replaced_user {o : Json.Members} {text : String} {v v' : Json.Value}
    (h : Replaced o text v v') :
    Replaced o text (.object (userMembers v)) (.object (userMembers v')) := by
  have hfield : Replaced o text (.object (userMembers v)) (.object (Json.Members.put "fields"
      (.array ([] ++ .object (Json.Members.put "type" v' (userField v)) :: [])) (userMembers v))) :=
    .field rfl (.inl rfl) rfl rfl h
  exact hfield

theorem read_idText : Json.read idText.toList = .ok (.object idMembers) := by
  with_unfolding_all rfl

theorem read_decimalText : Json.read decimalText.toList = .ok (.object decimalMembers) := by
  with_unfolding_all rfl

theorem parse_idText : (parse idText .empty).1 = .ok idFixed := by
  rw [parse_of_json read_idText]
  with_unfolding_all rfl

theorem parse_decimalText : (parse decimalText .empty).1 = .ok decimalFixed := by
  rw [parse_of_json read_decimalText]
  with_unfolding_all rfl

set_option maxRecDepth 1000 in
/-- The fixed type may be null in the record. -/
theorem movedOut_id : MovedOut (userFront ++ "[\"null\"," ++ idText ++ "]" ++ userBack) idText
    (userFront ++ "[\"null\",\"b.Id\"]" ++ userBack) .empty (parse idText .empty).2 idName
    (user (.union [.primitive .null, idFixed])) idFixed := by
  have hread : Json.read (userFront ++ "[\"null\"," ++ idText ++ "]" ++ userBack).toList =
      .ok (.object (userMembers (.array [.string "null", .object idMembers]))) := by
    simp only [String.toList_append]
    with_unfolding_all rfl
  have hrest : Json.read (userFront ++ "[\"null\",\"b.Id\"]" ++ userBack).toList =
      .ok (.object (userMembers (.array [.string "null", .string "b.Id"]))) := by
    simp only [String.toList_append]
    with_unfolding_all rfl
  refine ⟨⟨_, _, _, hread, read_idText, hrest, qualified_user (.array fun v hv => ?_),
    replaced_user (.branch [.string "null"] [] .here)⟩, ?_, Prod.ext parse_idText rfl, .plain rfl⟩
  · rcases List.mem_cons.mp hv with rfl | hv
    · exact .string (.inl (by decide))
    · cases List.mem_singleton.mp hv
      exact qualified_fixed rfl rfl
  · rw [parse_of_json hread]
    with_unfolding_all rfl

/-- The files are the same whether the fixed type stands in the record or is parsed before it. -/
theorem generate_outlined_user : ∃ t as bs,
    (parse (userFront ++ "[\"null\",\"b.Id\"]" ++ userBack) (parse idText .empty).2).1 = .ok t ∧
      generate .default [user (.union [.primitive .null, idFixed])] .empty = .ok as ∧
      generate .default [idFixed, t] .empty = .ok bs ∧ ∀ a, a ∈ bs ↔ a ∈ as := by
  obtain ⟨hok, hfiles⟩ := generate_outlined movedOut_id
  obtain ⟨t, ht⟩ := hok fun h => by cases h
  obtain ⟨as, bs, has, hbs, -, hsame⟩ := hfiles t ht .default
  exact ⟨t, as, bs, ht, has, hbs, fun a => hsame a fun h => by cases h⟩

set_option maxRecDepth 1000 in
/-- With a decimal laid over it the fixed type is the field of the record. -/
theorem movedOut_decimal : MovedOut (userFront ++ decimalText ++ userBack) decimalText
    (userFront ++ "\"b.Id\"" ++ userBack) .empty (parse decimalText .empty).2 idName
    (user decimalFixed) decimalFixed := by
  have hread : Json.read (userFront ++ decimalText ++ userBack).toList =
      .ok (.object (userMembers (.object decimalMembers))) := by
    simp only [String.toList_append]
    with_unfolding_all rfl
  have hrest : Json.read (userFront ++ "\"b.Id\"" ++ userBack).toList =
      .ok (.object (userMembers (.string "b.Id"))) := by
    simp only [String.toList_append]
    with_unfolding_all rfl
  refine ⟨⟨_, _, _, hread, read_decimalText, hrest, qualified_user (qualified_fixed rfl rfl),
    replaced_user .here⟩, ?_, Prod.ext parse_decimalText rfl, .onFixed _ rfl⟩
  rw [parse_of_json hread]
  with_unfolding_all rfl

/-- It is a branch beside its own name. -/
theorem movedOut_crowded : MovedOut ("[" ++ decimalText ++ ",\"b.Id\"]") decimalText
    "[\"b.Id\",\"b.Id\"]" .empty (parse decimalText .empty).2 idName
    (.union [decimalFixed, .ref idName]) decimalFixed := by
  have hread : Json.read ("[" ++ decimalText ++ ",\"b.Id\"]").toList =
      .ok (.array [.object decimalMembers, .string "b.Id"]) := by
    simp only [String.toList_append]
    with_unfolding_all rfl
  have hrest : Json.read "[\"b.Id\",\"b.Id\"]".toList =
      .ok (.array [.string "b.Id", .string "b.Id"]) := by
    with_unfolding_all rfl
  refine ⟨⟨_, _, _, hread, read_decimalText, hrest, .array fun v hv => ?_,
    .branch [] [.string "b.Id"] .here⟩, ?_, Prod.ext parse_decimalText rfl, .onFixed _ rfl⟩
  · rcases List.mem_cons.mp hv with rfl | hv
    · exact qualified_fixed rfl rfl
    · cases List.mem_singleton.mp hv
      exact .string (.inr (by decide))
  · rw [parse_of_json hread]
    with_unfolding_all rfl

def shownFile : Artifact := ⟨"a/User.ts", "export interface User \x7b\n  id: string;\n\x7d\n"⟩

/-- A decimal on a fixed type makes a difference: the record shows the decimal where the type is
defined in it and the name of the fixed type where it is referred to, and a union that holds the
name already is refused. -/
theorem generate_decimal_moved :
    (∃ text rest M s d t as bs, MovedOut text decimalText rest .empty M idName s d ∧
      (parse rest M).1 = .ok t ∧ generate .default [s] .empty = .ok as ∧
      generate .default [d, t] .empty = .ok bs ∧ ∃ a ∈ as, a ∉ bs) ∧
    ∃ text rest M s d, MovedOut text decimalText rest .empty M idName s d ∧
      ¬ ∃ t, (parse rest M).1 = .ok t := by
  constructor
  · have hshown : (generate .default [user decimalFixed] .empty).toOption.map
        (fun as => decide (shownFile ∈ as)) = some true := by decide +kernel
    have hnamed : (generate .default [decimalFixed, user (.ref idName)] .empty).toOption.map
        (fun bs => decide (shownFile ∉ bs)) = some true := by decide +kernel
    obtain ⟨as, has, hmem⟩ := Option.map_eq_some_iff.mp hshown
    obtain ⟨bs, hbs, hnot⟩ := Option.map_eq_some_iff.mp hnamed
    exact ⟨_, _, _, _, _, user (.ref idName), as, bs, movedOut_decimal, by with_unfolding_all rfl, ok_of_toOption has,
      ok_of_toOption hbs, shownFile, of_decide_eq_true hmem, of_decide_eq_true hnot⟩
  · refine ⟨_, _, _, _, _, movedOut_crowded, ?_⟩
    have hnone : (parse "[\"b.Id\",\"b.Id\"]" (parse decimalText .empty).2).1.toOption.isNone := by
      with_unfolding_all rfl
    rintro ⟨t, ht⟩
    rw [ht] at hnone
    cases hnone

end TypeScript

end AvroLink
