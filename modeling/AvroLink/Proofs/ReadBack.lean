import AvroLink.Proofs.Nodes
import AvroLink.Proofs.Spelling

/-!
# Reading back what a schema spells

A schema is `WellFormedIn N` when it could have been read on top of the namespace `N`: every node
follows its rules, and every name stands at a place where it may be defined or referred to
(`Placed`). The walk over what such a schema spells returns exactly that schema.
-/

namespace AvroLink.Schema

variable {locate : Locate} {ms : Json.Members} {enclosing : Option String}

/-! ## Names at their places -/

def definedNames (s : Schema) : List FullName := s.definitions.filterMap name?

mutual

/-- Where the types `known` are complete and the records `opened` are open, every definition in a
schema has a name that is not in use at its start, and every reference a name that is. -/
def Placed (known opened : List FullName) : Schema → Prop
  | primitive _ => True
  | logical _ base => Placed known opened base
  | array items => Placed known opened items
  | map values => Placed known opened values
  | union branches => BranchesPlaced known opened branches
  | record h fields =>
    (h.name ∉ known ∧ h.name ∉ opened) ∧ FieldsPlaced known (h.name :: opened) fields
  | enum e => e.name ∉ known ∧ e.name ∉ opened
  | fixed f => f.name ∉ known ∧ f.name ∉ opened
  | ref n => n ∈ known ∨ n ∈ opened

/-- A branch counts as complete for those after it. -/
def BranchesPlaced (known opened : List FullName) : List Schema → Prop
  | [] => True
  | s :: ss => Placed known opened s ∧ BranchesPlaced (known ++ s.definedNames) opened ss

def FieldsPlaced (known opened : List FullName) : List (FieldOf Schema) → Prop
  | [] => True
  | ⟨_, _, s, _⟩ :: fs => Placed known opened s ∧ FieldsPlaced (known ++ s.definedNames) opened fs

end

/-- Schemas that may be read on top of a namespace. -/
structure WellFormedIn (N : Namespace) (s : Schema) : Prop where
  lawful : ∀ t ∈ s.nodes, t.Lawful
  sizes : ∀ f, .fixed f ∈ s.nodes → f.size < UInt64.size
  placed : s.Placed N.names []

/-- Names known to a scope. -/
structure Knows (sc : Scope) (known opened : List FullName) : Prop where
  types : ∀ n, n ∈ known ↔ n ∈ sc.types
  opened : sc.opened = opened

theorem Knows.visible {sc : Scope} {known opened : List FullName} (h : Knows sc known opened)
    (n : FullName) : sc.Visible n ↔ n ∈ known ∨ n ∈ opened := by
  rw [Scope.Visible, h.types, h.opened]

theorem Knows.enter {sc : Scope} {known opened : List FullName} (h : Knows sc known opened)
    (name : FullName) : Knows (sc.enter name) known (name :: opened) :=
  ⟨h.types, by rw [← h.opened]; rfl⟩

theorem Knows.reads {sc sc' : Scope} {known opened : List FullName} {s : Schema}
    (h : Knows sc known opened) (hr : Reads sc sc' s.definitions s.refs) :
    Knows sc' (known ++ s.definedNames) opened := by
  obtain ⟨new, hg, hperm, -⟩ := hr
  refine ⟨fun n => ?_, hg.opened.trans h.opened⟩
  have hnew : n ∈ new.map Prod.fst ↔ n ∈ s.definedNames := by
    rw [definedNames, ← (hperm.filterMap name?).mem_iff]
    have hnames : (new.map Prod.snd).filterMap name? = new.map Prod.fst := by
      rw [List.filterMap_map, ← List.filterMap_eq_map]
      refine List.filterMap_congr fun e he => ?_
      exact sc'.types.named e (by rw [hg.entries]; exact List.mem_append_right _ he)
    rw [hnames]
  rw [List.mem_append, h.types, hg.mem_types, hnew]

/-! ## Attributes -/

theorem requiredString_eq {what key s : String} (h : ms.get? key = some (.string s)) :
    requiredString ms what key = pure s := by
  simp [requiredString, required, h, Json.Value.string?]

theorem resolveName_dotted {n : FullName} (h : n.Valid) :
    resolveName locate n.dotted enclosing = pure n := resolveName_ok (h.resolve_dotted enclosing)

theorem definedName_dotted {n : FullName} (hn : n.Valid)
    (hname : ms.get? "name" = some (.string n.dotted)) (hspace : ms.get? "namespace" = none) :
    definedName locate ms enclosing = pure n := by
  simp [definedName, requiredString_eq hname, namespaceOf, hspace, resolveName_dotted hn]

theorem aliasList_dotted {names : List FullName} (hv : ∀ a ∈ names, a.Valid)
    (space : Option String) :
    aliasList locate space (names.map fun n => .string n.dotted) = pure names := by
  induction names with
  | nil => rfl
  | cons n names ih =>
    obtain ⟨hn, hnames⟩ := List.forall_mem_cons.mp hv
    simp [aliasList, Json.Value.string?, resolveName_dotted hn, ih hnames]

theorem aliases_spelled {names : List FullName} (hv : ∀ a ∈ names, a.Valid)
    (h : ms.get? "aliases" = if names = [] then none else some (spellNames names))
    (space : Option String) : aliases locate ms space = pure names := by
  unfold aliases
  split at h
  · next hnil => simp [h, hnil]
  · simp [h, spellNames, aliasList_dotted hv]

theorem symbolList_spelled (name : FullName) {symbols : List String} {seen : List String}
    (hv : ∀ s ∈ symbols, isValidName s = true) (hd : (seen ++ symbols).Nodup) :
    symbolList locate name seen (symbols.map .string) = pure (seen ++ symbols) := by
  induction symbols generalizing seen with
  | nil => simp [symbolList]
  | cons s symbols ih =>
    obtain ⟨hs, hsymbols⟩ := List.forall_mem_cons.mp hv
    have hfresh : s ∉ seen := fun hm =>
      (List.nodup_append.mp hd).2.2 s hm s List.mem_cons_self rfl
    have hd' : ((seen ++ [s]) ++ symbols).Nodup := by simpa using hd
    simp [symbolList, Json.Value.string?, hs, hfresh, ih hsymbols hd']

theorem defaultSymbol_spelled (name : FullName) {symbols : List String} {default : Option String}
    (hd : ∀ d ∈ default, d ∈ symbols) (h : ms.get? "default" = default.map .string) :
    defaultSymbol ms name symbols = pure default := by
  cases default with
  | none => simp [defaultSymbol, h]
  | some d => simp [defaultSymbol, h, Json.Value.string?, hd d rfl]

theorem docOf_eq {doc : Option String} (h : ms.get? "doc" = doc.map .string) :
    docOf ms = doc := by
  cases doc <;> simp [docOf, stringAttribute, h, Json.Value.string?]

theorem nat?_spellNat (n : Nat) : (spellNat n).nat? = some n := by
  simp [spellNat, Json.Value.nat?]

/-! ## Logical types -/

/-- The members that lay a logical type over the schema of an object. -/
structure Lays (ms : Json.Members) (l : LogicalType) : Prop where
  keyword : ms.get? "logicalType" = some (.string l.keyword)
  decimal : ∀ precision scale, l = .decimal precision scale →
    ms.get? "precision" = some (spellNat precision) ∧ ms.get? "scale" = some (spellNat scale)

theorem decimalType?_spelled {precision scale : Nat} (h : Lays ms (.decimal precision scale))
    (hp : 0 < precision ∧ precision < UInt32.size ∧ scale ≤ precision) :
    decimalType? ms = some (.decimal precision scale) := by
  obtain ⟨hprecision, hscale⟩ := h.decimal precision scale rfl
  simp [decimalType?, hprecision, hscale, nat?_spellNat, hp]

theorem logicalType?_spelled {l : LogicalType} {base : Schema} (h : Lays ms l)
    (hfits : l.Fits base) : logicalType? ms l.keyword base = some l := by
  cases l with
  | decimal precision scale =>
    cases base with
    | primitive p =>
      obtain ⟨rfl, hp⟩ := hfits
      simpa [logicalType?, LogicalType.keyword] using decimalType?_spelled h hp
    | fixed f => simpa [logicalType?, LogicalType.keyword] using decimalType?_spelled h hfits
    | _ => exact hfits.elim
  | _ =>
    cases base with
    | primitive p =>
      cases hfits
      rfl
    | _ => exact hfits.elim

theorem withLogical_spelled {l : LogicalType} {base : Schema} (h : Lays ms l)
    (hfits : l.Fits base) : withLogical ms base = .logical l base := by
  simp [withLogical, stringAttribute, h.keyword, Json.Value.string?, logicalType?_spelled h hfits]

theorem withLogical_none (h : ms.get? "logicalType" = none) (base : Schema) :
    withLogical ms base = base := by
  simp [withLogical, stringAttribute, h]

/-! ## Definitions and references -/

/-- `m` returns `a` from the scope `sc`. -/
def Returns {α : Type} (m : Walk α) (sc : Scope) (a : α) : Prop := ∃ sc', m sc = (.ok a, sc')

theorem Returns.bind {α β : Type} {m : Walk α} {k : α → Walk β} {sc sc' : Scope} {a : α} {b : β}
    (hm : m sc = (.ok a, sc')) (hk : Returns (k a) sc' b) : Returns (m >>= k) sc b := by
  obtain ⟨sc'', hk⟩ := hk
  exact ⟨sc'', (Walk.bind_ok hm).trans hk⟩

theorem Returns.map {α β : Type} {m : Walk α} {sc : Scope} {a : α} (hm : Returns m sc a)
    (f : α → β) : Returns (do return f (← m)) sc (f a) := by
  obtain ⟨sc', hm⟩ := hm
  exact .bind hm ⟨sc', rfl⟩

theorem Returns.pure {α : Type} (sc : Scope) (a : α) : Returns (Pure.pure a) sc a := ⟨sc, rfl⟩

theorem ofKeyword?_keyword (p : Primitive) : Primitive.ofKeyword? p.keyword = some p := by
  cases p <;> decide

theorem typeName_keyword (p : Primitive) :
    typeName locate p.keyword enclosing = pure (.primitive p) := by
  rw [typeName, ofKeyword?_keyword]

theorem ofKeyword?_dotted (n : FullName) : Primitive.ofKeyword? n.dotted = none := by
  refine List.find?_eq_none.mpr fun p _ => ?_
  simp only [decide_eq_true_eq]
  intro he
  have hm := n.dot_mem_dotted
  rw [← he] at hm
  exact dot_not_mem_kind (.primitive p) hm

theorem reference_dotted {n : FullName} {sc : Scope} (hn : n.Valid) (hv : sc.Visible n) :
    reference locate n.dotted enclosing sc = (.ok (.ref n), sc) := by
  have hc : candidates n.dotted enclosing n = [n] := by
    simp [candidates, n.dot_mem_dotted]
  rw [reference, resolveName_dotted hn, pure_bind, Walk.get_bind, hc]
  simp [hv]
  rfl

theorem register_returns {s : Schema} {n : FullName} {sc : Scope} (hs : s.name? = some n)
    (fresh : n ∉ sc.types) : Returns (register locate s) sc s := by
  obtain ⟨types, hreg, -⟩ := register_fresh locate hs fresh
  exact ⟨_, hreg⟩

theorem Knows.fresh {sc : Scope} {known opened : List FullName} (h : Knows sc known opened)
    {n : FullName} (hn : n ∉ known ∧ n ∉ opened) : ¬ sc.Visible n := by
  rw [h.visible]
  exact not_or.mpr hn

theorem fixedType_spelled {f : FixedType} {sc : Scope} (hf : f.WellFormed)
    (hfree : ¬ sc.Visible f.name) (hname : ms.get? "name" = some (.string f.name.dotted))
    (hspace : ms.get? "namespace" = none) (hsize : ms.get? "size" = some (spellNat f.size))
    (haliases : ms.get? "aliases" = if f.aliases = [] then none else some (spellNames f.aliases)) :
    Returns (fixedType locate ms enclosing) sc (.fixed f) := by
  rw [fixedType, definedName_dotted hf.name hname hspace, pure_bind]
  refine .bind (checkFresh_free hfree) ?_
  simp only [hsize, Option.bind_some, nat?_spellNat]
  rw [aliases_spelled hf.aliases haliases, pure_bind]
  exact register_returns rfl fun hm => hfree (.inl hm)

theorem enumType_spelled {e : EnumType} {sc : Scope} (he : e.WellFormed)
    (hfree : ¬ sc.Visible e.name) (hname : ms.get? "name" = some (.string e.name.dotted))
    (hspace : ms.get? "namespace" = none)
    (hsymbols : ms.get? "symbols" = some (.array (e.symbols.map .string)))
    (hdefault : ms.get? "default" = e.default.map .string)
    (hdoc : ms.get? "doc" = e.doc.map .string)
    (haliases : ms.get? "aliases" = if e.aliases = [] then none else some (spellNames e.aliases)) :
    Returns (enumType locate ms enclosing) sc (.enum e) := by
  have hlist : symbolList locate e.name [] (e.symbols.map .string) = pure e.symbols :=
    symbolList_spelled e.name he.symbols he.distinct
  rw [enumType, definedName_dotted he.name hname hspace, pure_bind]
  refine .bind (checkFresh_free hfree) ?_
  simp only [hsymbols, hlist, pure_bind, docOf_eq hdoc,
    defaultSymbol_spelled e.name he.default hdefault, aliases_spelled he.aliases haliases]
  exact register_returns rfl fun hm => hfree (.inl hm)

/-! ## Objects -/

section Objects

variable {type : String} {v : Json.Value} {sc : Scope}

theorem walkObject_string (ht : ms.get? "type" = some (.string type)) :
    walkObject locate ms enclosing =
      if type = "record" ∨ type = "error" then do
        let name ← definedName locate ms enclosing
        checkFresh locate name
        match ms.get? "fields" with
        | some (.array vs) => do
          let fields ← opening name (walkFields locate vs name.space [])
          let as ← aliases locate ms name.space
          register locate (.record ⟨name, docOf ms, as⟩ fields)
        | _ => invalidAt (.noFields name) (locate name.name)
      else if type = "enum" then enumType locate ms enclosing
      else if type = "fixed" then do return withLogical ms (← fixedType locate ms enclosing)
      else if type = "array" then
        match ms.get? "items" with
        | none => invalid (.missing "array" "items")
        | some items => do return .array (← walk locate items enclosing)
      else if type = "map" then
        match ms.get? "values" with
        | none => invalid (.missing "map" "values")
        | some values => do return .map (← walk locate values enclosing)
      else do return withLogical ms (← typeName locate type enclosing) := by
  rw [walkObject]
  split
  case h_4 h =>
    cases ht.symm.trans h
    -- the two sides look up the same members, one of them with a proof that they are smaller
    repeat' split
    all_goals grind
  all_goals simp_all

theorem walkObject_array (v : Json.Value) (ht : ms.get? "type" = some (.string "array"))
    (hv : ms.get? "items" = some v) :
    walkObject locate ms enclosing = do return .array (← walk locate v enclosing) := by
  simp [walkObject_string ht, hv]

theorem walkObject_map (v : Json.Value) (ht : ms.get? "type" = some (.string "map"))
    (hv : ms.get? "values" = some v) :
    walkObject locate ms enclosing = do return .map (← walk locate v enclosing) := by
  simp [walkObject_string ht, hv]

theorem walkObject_primitive {p : Primitive} (ht : ms.get? "type" = some (.string p.keyword))
    (sc : Scope) : Returns (walkObject locate ms enclosing) sc (withLogical ms (.primitive p)) := by
  have hrest : walkObject locate ms enclosing = pure (withLogical ms (.primitive p)) := by
    rw [walkObject_string ht, typeName_keyword]
    cases p <;> simp [Primitive.keyword]
  rw [hrest]
  exact .pure sc _

end Objects

theorem Lays.of_spell {l : LogicalType} {base : Schema} (h : l.Fits base) :
    Lays (.ofList (typeMembers (spell base) ++ logicalMembers l)) l := by
  cases base with
  | primitive p => cases l <;> constructor <;> simp [spell, typeMembers, logicalMembers]
  | fixed f =>
    cases l <;> constructor <;>
      simp [spell, typeMembers, logicalMembers, fixedMembers, aliasesMember]
  | _ => cases l <;> exact h.elim

/-- The members that a fixed type needs may stand among others. -/
theorem walkObject_fixedType {f : FixedType} {sc : Scope} (hf : f.WellFormed)
    (hfree : ¬ sc.Visible f.name) (hms : ∀ key, key ≠ "logicalType" → key ≠ "precision" →
      key ≠ "scale" → ms.get? key = Json.Members.get? (fixedMembers f) key) :
    Returns (walkObject locate ms enclosing) sc (withLogical ms (.fixed f)) := by
  have ht : ms.get? "type" = some (.string "fixed") := by simp [hms, fixedMembers]
  simp only [walkObject_string ht, String.reduceEq, or_self, if_false, if_true]
  refine (fixedType_spelled hf hfree ?_ ?_ ?_ ?_).map _ <;>
    simp [hms, fixedMembers, aliasesMember]

theorem walkObject_record {h : RecordHead} {vs : List Json.Value} {fields : List Field}
    {sc : Scope} (hh : h.WellFormed) (hfree : ¬ sc.Visible h.name)
    (hfields : Returns (walkFields locate vs h.name.space []) (sc.enter h.name) fields) :
    Returns (walkObject locate (.ofList (recordMembers h vs)) enclosing) sc (.record h fields) := by
  obtain ⟨sc', hread⟩ := hfields
  -- nothing in the fields has taken the name of the record
  obtain ⟨⟨new, hg, -⟩, -⟩ := (walkFields_sound vs h.name.space [] (sc.enter h.name)).ok hread
  obtain ⟨hg, apart⟩ := hg.close
  have hfresh : h.name ∉ sc'.close.types := hg.not_mem_types hfree apart
  generalize hms : Json.Members.ofList (recordMembers h vs) = ms
  have hget : ∀ key, ms.get? key = Json.Members.get? (recordMembers h vs) key := by simp [← hms]
  have ht : ms.get? "type" = some (.string "record") := by simp [hget, recordMembers]
  have hname : ms.get? "name" = some (.string h.name.dotted) := by simp [hget, recordMembers]
  have hvs : ms.get? "fields" = some (.array vs) := by simp [hget, recordMembers]
  have hspace : ms.get? "namespace" = none := by
    simp [hget, recordMembers, docMember, aliasesMember]
  have hdoc : ms.get? "doc" = h.doc.map .string := by
    simp [hget, recordMembers, docMember, aliasesMember]
  have haliases : ms.get? "aliases" =
      if h.aliases = [] then none else some (spellNames h.aliases) := by
    simp [hget, recordMembers, docMember, aliasesMember]
  simp only [walkObject_string ht, true_or, if_true, definedName_dotted hh.name hname hspace,
    pure_bind, hvs]
  refine .bind (checkFresh_free hfree) (.bind (Walk.opening_apply .. |>.trans (by rw [hread])) ?_)
  rw [aliases_spelled hh.aliases haliases, pure_bind, docOf_eq hdoc]
  exact register_returns rfl hfresh

/-! ## The walk -/

theorem Knows.after {v : Json.Value} {s : Schema} {sc sc' : Scope} {known opened : List FullName}
    (h : Knows sc known opened) (hs : walk locate v enclosing sc = (.ok s, sc')) :
    Knows sc' (known ++ s.definedNames) opened :=
  h.reads ((walk_sound v enclosing sc).ok hs).1

mutual

theorem walk_returns : ∀ (s : Schema) {known opened : List FullName} {sc : Scope},
    s.WellFormed → s.Placed known opened → Knows sc known opened → ∀ enclosing : Option String,
    Returns (walk locate (spell s) enclosing) sc s
  | primitive p, _, _, sc, _, _, _, enclosing => by
    rw [spell, walk, typeName_keyword]
    exact .pure sc _
  | logical l base, _, _, sc, ⟨hfits, hbase⟩, hp, hk, enclosing => by
    have hlays := Lays.of_spell hfits
    rw [spell, walk, ← withLogical_spelled hlays hfits]
    cases base with
    | primitive p => exact walkObject_primitive (by simp [spell, typeMembers]) sc
    | fixed f =>
      refine walkObject_fixedType hbase (hk.fresh hp) fun key h h' h'' => ?_
      cases l <;> simp [spell, typeMembers, logicalMembers, h, h', h'']
    | _ => cases l <;> exact hfits.elim
  | array items, _, _, sc, hw, hp, hk, enclosing => by
    rw [spell, walk, walkObject_array (spell items) (by simp) (by simp)]
    exact (walk_returns items hw hp hk enclosing).map _
  | map values, _, _, sc, hw, hp, hk, enclosing => by
    rw [spell, walk, walkObject_map (spell values) (by simp) (by simp)]
    exact (walk_returns values hw hp hk enclosing).map _
  | union branches, _, _, sc, ⟨hne, hkeys, hw⟩, hp, hk, enclosing => by
    have hspell : (spellBranches branches).isEmpty = false := by
      cases branches with
      | nil => exact absurd rfl hne
      | cons s ss => rfl
    rw [spell, walk, hspell]
    exact (walkBranches_returns branches ⟨hw, hkeys, by simp⟩ hp hk enclosing).map _
  | record h fields, _, _, sc, ⟨hh, hnames, hw⟩, ⟨hfree, hp⟩, hk, enclosing => by
    rw [spell, walk]
    exact walkObject_record hh (hk.fresh hfree)
      (walkFields_returns fields ⟨hw, hnames, by simp⟩ hp (hk.enter h.name) h.name.space)
  | enum e, _, _, sc, hw, hp, hk, enclosing => by
    rw [spell, walk]
    have ht : Json.Members.get? (.ofList (enumMembers e)) "type" = some (.string "enum") := by
      simp [enumMembers]
    simp only [walkObject_string ht, String.reduceEq, or_self, if_false, if_true]
    refine enumType_spelled hw (hk.fresh hp) ?_ ?_ ?_ ?_ ?_ ?_ <;>
      simp [enumMembers, docMember, aliasesMember]
  | fixed f, _, _, sc, hw, hp, hk, enclosing => by
    have hplain : Json.Members.get? (.ofList (fixedMembers f)) "logicalType" = none := by
      simp [fixedMembers, aliasesMember]
    have hread : Returns (walkObject locate (.ofList (fixedMembers f)) enclosing) sc
        (withLogical (.ofList (fixedMembers f)) (fixed f)) :=
      walkObject_fixedType hw (hk.fresh hp) (by simp)
    rw [withLogical_none hplain] at hread
    rw [spell, walk]
    exact hread
  | ref n, _, _, sc, hw, hp, hk, enclosing => by
    rw [spell, walk, typeName, ofKeyword?_dotted]
    exact ⟨sc, reference_dotted hw ((hk.visible n).mpr hp)⟩

theorem walkBranches_returns : ∀ (ss : List Schema) {known opened : List FullName} {sc : Scope}
    {seen : List String}, NewBranches seen ss → BranchesPlaced known opened ss →
    Knows sc known opened → ∀ enclosing : Option String,
    Returns (walkBranches locate (spellBranches ss) enclosing seen) sc ss
  | [], _, _, sc, _, _, _, _, enclosing => by
    rw [spellBranches, walkBranches]
    exact .pure sc _
  | s :: ss, _, _, sc, seen, ⟨⟨hu, hw, hws⟩, hkeys, hseen⟩, ⟨hp, hps⟩, hk, enclosing => by
    obtain ⟨sc', hs⟩ := walk_returns s hw hp hk enclosing
    rw [spellBranches, walkBranches]
    refine .bind hs ?_
    have hnext : NewBranches (seen ++ [s.unionKey]) ss := ⟨hws, keys_tail hkeys hseen⟩
    simp only [hu, hseen s List.mem_cons_self, Bool.false_eq_true, if_false]
    exact (walkBranches_returns ss hnext hps (hk.after hs) enclosing).map _

theorem walkFields_returns : ∀ (fs : List Field) {known opened : List FullName} {sc : Scope}
    {seen : List String}, NewFields seen fs → FieldsPlaced known opened fs →
    Knows sc known opened → ∀ space : Option String,
    Returns (walkFields locate (spellFields fs) space seen) sc fs
  | [], _, _, sc, _, _, _, _, space => by
    rw [spellFields, walkFields]
    exact .pure sc _
  | ⟨name, doc, s, default⟩ :: fs, _, _, sc, seen, ⟨⟨hv, hw, hws⟩, hnames, hseen⟩, ⟨hp, hps⟩, hk,
      space => by
    obtain ⟨sc', hs⟩ := walk_returns s hw hp hk space
    rw [spellFields]
    generalize hms : Json.Members.ofList (fieldMembers ⟨name, doc, s, default⟩ (spell s)) = ms
    have hget : ∀ key, ms.get? key =
        Json.Members.get? (fieldMembers ⟨name, doc, s, default⟩ (spell s)) key := by simp [← hms]
    have hname : ms.get? "name" = some (.string name) := by simp [hget, fieldMembers]
    have htype : ms.get? "type" = some (spell s) := by simp [hget, fieldMembers]
    have hdoc : ms.get? "doc" = doc.map .string := by simp [hget, fieldMembers, docMember]
    have hdefault : ms.get? "default" = default := by simp [hget, fieldMembers, docMember]
    rw [walkFields, requiredString_eq hname, pure_bind]
    have hnext : NewFields (seen ++ [name]) fs := ⟨hws, keys_tail hnames hseen⟩
    simp only [hv, hseen _ List.mem_cons_self, Bool.not_true, Bool.false_eq_true, if_false]
    split
    · next hno => rw [htype] at hno; cases hno
    · next v hv =>
      rw [htype] at hv
      cases hv
      refine .bind hs ?_
      rw [docOf_eq hdoc, hdefault]
      exact (walkFields_returns fs hnext hps (hk.after hs) space).map _

end

/-- The walk over what a well-formed schema spells returns that schema, in every namespace. -/
theorem walk_spell (locate : Locate) {N : Namespace} {s : Schema} (h : s.WellFormedIn N)
    (enclosing : Option String) :
    ∃ M, walk locate (spell s) enclosing ⟨N, []⟩ = (.ok s, ⟨M, []⟩) := by
  have hk : Knows ⟨N, []⟩ N.names [] := ⟨fun _ => Iff.rfl, rfl⟩
  have hreturns : Returns (walk locate (spell s) enclosing) ⟨N, []⟩ s :=
    walk_returns s (s.wellFormed_iff.mpr h.lawful) h.placed hk enclosing
  obtain ⟨⟨M, opened⟩, hs⟩ := hreturns
  cases (hk.after hs).opened
  exact ⟨M, hs⟩

/-- A record that refers to itself and to a type with the name of a primitive one, which is defined
in its first field. -/
def parcel : Schema :=
  .record ⟨⟨some "shop", "Parcel"⟩, some "A parcel", [⟨none, "Packet"⟩]⟩
    [⟨"weight", none, .logical (.decimal 9 2) (.fixed ⟨⟨none, "int"⟩, [], 4⟩), none⟩,
      ⟨"next", none, .union [.primitive .null, .ref ⟨some "shop", "Parcel"⟩], some .null⟩,
      ⟨"tare", none, .ref ⟨none, "int"⟩, none⟩]

theorem parcel_wellFormedIn : parcel.WellFormedIn .empty where
  lawful := by
    have hshop : FullName.Valid ⟨some "shop", "Parcel"⟩ := ⟨by decide, by simp; decide⟩
    have hpacket : FullName.Valid ⟨none, "Packet"⟩ := ⟨by decide, by simp⟩
    have hint : FullName.Valid ⟨none, "int"⟩ := ⟨by decide, by simp⟩
    have hhead : RecordHead.WellFormed
        ⟨⟨some "shop", "Parcel"⟩, some "A parcel", [⟨none, "Packet"⟩]⟩ :=
      ⟨hshop, by simpa using hpacket⟩
    have hweight : WellFormed (.logical (.decimal 9 2) (.fixed ⟨⟨none, "int"⟩, [], 4⟩)) :=
      ⟨⟨by decide, by decide, by decide⟩, hint, by simp⟩
    have hnext : WellFormed (.union [.primitive .null, .ref ⟨some "shop", "Parcel"⟩]) :=
      ⟨by simp, by decide, rfl, trivial, rfl, hshop, trivial⟩
    exact parcel.wellFormed_iff.mp
      ⟨hhead, by decide, by decide, hweight, by decide, hnext, by decide, hint, trivial⟩
  sizes := by simp [parcel, nodes, fieldNodes, branchNodes, UInt64.size]
  placed := by
    simp [parcel, Placed, FieldsPlaced, BranchesPlaced, definedNames, definitions,
      branchDefinitions, name?]

/-- A parcel is read back, also inside a namespace in which simple names would mean other types. -/
theorem walk_spell_parcel :
    (spell parcel).text =
      "\x7b\"aliases\":[\".Packet\"],\"doc\":\"A parcel\",\"fields\":[" ++
        "\x7b\"name\":\"weight\",\"type\":\x7b\"logicalType\":\"decimal\",\"name\":\".int\"," ++
        "\"precision\":9,\"scale\":2,\"size\":4,\"type\":\"fixed\"\x7d\x7d," ++
        "\x7b\"default\":null,\"name\":\"next\",\"type\":[\"null\",\"shop.Parcel\"]\x7d," ++
        "\x7b\"name\":\"tare\",\"type\":\".int\"\x7d]," ++
        "\"name\":\"shop.Parcel\",\"type\":\"record\"\x7d" ∧
      parcel.WellFormedIn .empty ∧ ∃ M,
        walk (fun _ => none) (spell parcel) (some "post") ⟨.empty, []⟩ = (.ok parcel, ⟨M, []⟩) :=
  ⟨by decide +kernel, parcel_wellFormedIn, walk_spell _ parcel_wellFormedIn _⟩

end AvroLink.Schema
