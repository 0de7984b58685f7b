import AvroLink.TypeScript.Emitter

/-!
# Renaming is done once

`Schema.mapNames` renames the types of a schema wherever they are defined or referred to. A table of
renamings decides how types are called and nothing else: the files of a batch with a table are those
of the renamed batch without one.
-/

namespace AvroLink

namespace Schema

section

variable (f : FullName → FullName)

mutual

/-- Rename the types that a schema defines or refers to, at any depth. Aliases stay. -/
def mapNames : Schema → Schema
  | primitive p => primitive p
  | logical l base => logical l (mapNames base)
  | array items => array (mapNames items)
  | map values => map (mapNames values)
  | union branches => union (mapBranchNames branches)
  | record h fields => record { h with name := f h.name } (mapFieldNames fields)
  | enum e => enum { e with name := f e.name }
  | fixed t => fixed { t with name := f t.name }
  | ref n => ref (f n)

def mapBranchNames : List Schema → List Schema
  | [] => []
  | s :: ss => mapNames s :: mapBranchNames ss

def mapFieldNames : List (FieldOf Schema) → List (FieldOf Schema)
  | [] => []
  | ⟨n, d, s, v⟩ :: fs => ⟨n, d, mapNames s, v⟩ :: mapFieldNames fs

end

end

variable {f : FullName → FullName}

@[simp] theorem name?_mapNames (s : Schema) : (s.mapNames f).name? = s.name?.map f := by
  cases s <;> rfl

theorem mapBranchNames_eq (ss : List Schema) : mapBranchNames f ss = ss.map (mapNames f) := by
  induction ss with
  | nil => rfl
  | cons s ss ih => rw [mapBranchNames, ih, List.map_cons]

theorem mapNames_eq_primitive {s : Schema} {p : Primitive} :
    s.mapNames f = primitive p ↔ s = primitive p := by
  cases s <;> simp [mapNames]

theorem mapNames_eq_union {s : Schema} {ts : List Schema} (h : s.mapNames f = union ts) :
    ∃ ss, s = union ss ∧ ss.map (mapNames f) = ts := by
  cases s with
  | union ss => exact ⟨ss, rfl, by simpa [mapNames, mapBranchNames_eq] using h⟩
  | _ => cases h

theorem nullable?_mapNames (s : Schema) :
    (s.mapNames f).nullable? = s.nullable?.map (mapNames f) := by
  fun_cases nullable? s with
  | case1 s => rfl
  | case2 s hs =>
    have hnull : s.mapNames f = primitive .null → False := fun h => hs (mapNames_eq_primitive.mp h)
    exact nullable?.eq_2 (s.mapNames f) hnull
  | case3 s hfront hback =>
    rw [nullable?, Option.map_none]
    · intro t h
      obtain ⟨ss, rfl, hss⟩ := mapNames_eq_union h
      obtain ⟨a, ss, rfl, ha, hss⟩ := List.map_eq_cons_iff.mp hss
      obtain ⟨b, rfl, -⟩ := List.map_eq_singleton_iff.mp hss
      exact hfront b (mapNames_eq_primitive.mp ha ▸ rfl)
    · intro t h
      obtain ⟨ss, rfl, hss⟩ := mapNames_eq_union h
      obtain ⟨a, ss, rfl, -, hss⟩ := List.map_eq_cons_iff.mp hss
      obtain ⟨b, rfl, hb⟩ := List.map_eq_singleton_iff.mp hss
      exact hback a (mapNames_eq_primitive.mp hb ▸ rfl)

mutual

theorem definitions_mapNames : ∀ s : Schema,
    (s.mapNames f).definitions = s.definitions.map (mapNames f)
  | primitive _ => rfl
  | logical _ base => definitions_mapNames base
  | array items => definitions_mapNames items
  | map values => definitions_mapNames values
  | union branches => branchDefinitions_mapNames branches
  | record h fields => by
    simp only [mapNames, definitions, List.map_cons, fieldDefinitions_mapNames fields]
  | enum _ => rfl
  | fixed _ => rfl
  | ref _ => rfl

theorem branchDefinitions_mapNames : ∀ ss : List Schema,
    branchDefinitions (mapBranchNames f ss) = (branchDefinitions ss).map (mapNames f)
  | [] => rfl
  | s :: ss => by
    simp only [mapBranchNames, branchDefinitions, List.map_append, definitions_mapNames s,
      branchDefinitions_mapNames ss]

theorem fieldDefinitions_mapNames : ∀ fs : List (FieldOf Schema),
    fieldDefinitions (mapFieldNames f fs) = (fieldDefinitions fs).map (mapNames f)
  | [] => rfl
  | ⟨_, _, s, _⟩ :: fs => by
    simp only [mapFieldNames, fieldDefinitions, List.map_append, definitions_mapNames s,
      fieldDefinitions_mapNames fs]

end

end Schema

namespace Remap

theorem empty_applyName_withSpace (n : FullName) (space : Option String) :
    empty.applyName (n.withSpace space) = n.withSpace space := by
  have happly : ∀ ns, empty.apply ns = ns := fun _ => rfl
  unfold FullName.withSpace
  fun_cases FullName.spaceOf space with
  | case1 => rfl
  | case2 space hne =>
    cases space with
    | none => rfl
    | some ns =>
      simp only [applyName, happly, FullName.withSpace]
      rw [FullName.spaceOf]
      exact hne

theorem empty_applyName_applyName (r : Remap) (n : FullName) :
    empty.applyName (r.applyName n) = r.applyName n := by
  rw [applyName.eq_def r]
  split
  · exact empty_applyName_withSpace n _
  · rename_i hn
    rw [applyName, hn]

end Remap

namespace TypeScript

variable (config : Config) (remap : Remap)

theorem refer_applyName (n : FullName) : refer .empty (remap.applyName n) = refer remap n := by
  funext sc
  rw [refer, refer, Remap.empty_applyName_applyName]

mutual

theorem typeOf_mapNames : ∀ s : Schema,
    typeOf .empty (s.mapNames remap.applyName) = typeOf remap s
  | .primitive _ => rfl
  | .logical _ _ => rfl
  | .array items => by
    simp only [Schema.mapNames, typeOf, typeOf_mapNames items]
  | .map values => by
    simp only [Schema.mapNames, typeOf, typeOf_mapNames values]
  | .union branches => by
    simp only [Schema.mapNames, typeOf, typesOf_mapBranchNames branches]
  | .record h _ => by
    simp only [Schema.mapNames, typeOf, refer_applyName]
  | .enum e => by
    simp only [Schema.mapNames, typeOf, refer_applyName]
  | .fixed t => by
    simp only [Schema.mapNames, typeOf, refer_applyName]
  | .ref n => by
    simp only [Schema.mapNames, typeOf, refer_applyName]

theorem typesOf_mapBranchNames : ∀ ss : List Schema,
    typesOf .empty (Schema.mapBranchNames remap.applyName ss) = typesOf remap ss
  | [] => rfl
  | s :: ss => by
    simp only [Schema.mapBranchNames, typesOf, typeOf_mapNames s, typesOf_mapBranchNames ss]

end

theorem fieldLine_mapNames (n : String) (d : Option String) (s : Schema) (v : Option Json.Value) :
    fieldLine config .empty ⟨n, d, s.mapNames remap.applyName, v⟩ =
      fieldLine config remap ⟨n, d, s, v⟩ := by
  simp only [fieldLine, Schema.nullable?_mapNames]
  cases s.nullable? with
  | none => simp only [Option.map_none, typeOf_mapNames]
  | some t => cases config.optional <;> simp only [Option.map_some, typeOf_mapNames]

theorem fieldTexts_mapFieldNames : ∀ fs : List Field,
    fieldTexts config .empty (Schema.mapFieldNames remap.applyName fs) = fieldTexts config remap fs
  | [] => rfl
  | ⟨n, d, s, v⟩ :: fs => by
    simp only [Schema.mapFieldNames, fieldTexts, fieldLine_mapNames, fieldDocs,
      fieldTexts_mapFieldNames fs]

theorem declaration_mapNames (s : Schema) :
    declaration config .empty (s.mapNames remap.applyName) = declaration config remap s := by
  cases s with
  | record h fields =>
    simp only [Schema.mapNames, declaration, fieldTexts_mapFieldNames]
  | _ => rfl

theorem emit_mapNames (self : FullName) (s : Schema) :
    emit config .empty self (s.mapNames remap.applyName) = emit config remap self s := by
  rw [emit, emit, declaration_mapNames]

/-! ## A batch -/

/-- A type collected under its name, with the names in it renamed. -/
def renameEntry (e : FullName × Schema) : FullName × Schema :=
  (e.1, e.2.mapNames remap.applyName)

theorem collectFrom_mapNames (done : List (FullName × Schema)) (ss : List Schema) :
    Artifact.collectFrom .empty (done.map (renameEntry remap))
        (ss.map (Schema.mapNames remap.applyName)) =
      (Artifact.collectFrom remap done ss).map (List.map (renameEntry remap)) := by
  induction ss generalizing done with
  | nil => rfl
  | cons s ss ih =>
    have hkeys : (done.map (renameEntry remap)).map Prod.fst = done.map Prod.fst := by
      rw [List.map_map]
      rfl
    simp only [List.map_cons, Artifact.collectFrom, Schema.name?_mapNames]
    cases s.name? with
    | none => exact ih done
    | some n =>
      simp only [Option.map_some, Remap.empty_applyName_applyName, hkeys]
      split
      · rfl
      · rw [← ih, List.map_append]
        rfl

theorem collectNamed_mapNames (types : List Schema) :
    Artifact.collectNamed (types.map (Schema.mapNames remap.applyName)) .empty =
      (Artifact.collectNamed types remap).map (List.map (renameEntry remap)) := by
  have hdefs : (types.map (Schema.mapNames remap.applyName)).flatMap Schema.definitions =
      (types.flatMap Schema.definitions).map (Schema.mapNames remap.applyName) := by
    rw [List.flatMap_map, List.map_flatMap]
    simp only [Schema.definitions_mapNames]
  rw [Artifact.collectNamed, hdefs, Artifact.collectNamed, ← collectFrom_mapNames]
  rfl

theorem generate_eq (types : List Schema) :
    generate config types remap =
      (Artifact.collectNamed types remap).map (List.map fun e => emit config remap e.1 e.2) := by
  unfold generate
  cases Artifact.collectNamed types remap <;> rfl

theorem map_emit (named : List (FullName × Schema)) :
    (named.map (renameEntry remap)).map (fun e => emit config .empty e.1 e.2) =
      named.map fun e => emit config remap e.1 e.2 := by
  rw [List.map_map]
  exact List.map_congr_left fun e _ => emit_mapNames config remap e.1 e.2

/-- The files of a batch with a table of renamings are those of the renamed batch without one, or
the same name is a duplicate in both. -/
theorem generate_mapNames (types : List Schema) :
    generate config (types.map (Schema.mapNames remap.applyName)) .empty =
      generate config types remap := by
  rw [generate_eq, generate_eq, collectNamed_mapNames]
  cases Artifact.collectNamed types remap with
  | error e => simp only [Except.map]
  | ok named => exact congrArg Except.ok (map_emit config remap named)

/-- The rules of a table do not follow one another: what is moved from `a` to `b` stays there. -/
example :
    (generate .default [.fixed ⟨⟨some "a", "Id"⟩, [], 1⟩] ⟨[("a", "b"), ("b", "c")]⟩).toOption.map
      (List.map Artifact.path) = some ["b/Id.ts"] := by decide +kernel

end TypeScript

end AvroLink
