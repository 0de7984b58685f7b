import AvroLink.Proofs.ReadBack

/-!
# Registering a definition that was being read

The name of a definition is checked when its reading begins and taken when it ends. In between the
fields of a record may define types of their own, at any depth; while the record is open none of
them can have its name. So no registration fails (`Settles`), and the records that are open after a
walk are the ones that were open before it.
-/

namespace AvroLink.Schema

variable {locate : Locate} {ms : Json.Members} {enclosing : Option String}

/-! ## Definitions up to their registration -/

/-- A record, all but its registration. -/
def recordBody (locate : Locate) (ms : Json.Members) (enclosing : Option String) : Walk Schema := do
  let name ← definedName locate ms enclosing
  checkFresh locate name
  match ms.get? "fields" with
  | some (.array vs) =>
    let fields ← opening name (walkFields locate vs name.space [])
    let as ← aliases locate ms name.space
    return .record ⟨name, docOf ms, as⟩ fields
  | _ => invalidAt (.noFields name) (locate name.name)

/-- An enum, all but its registration. -/
def enumBody (locate : Locate) (ms : Json.Members) (enclosing : Option String) : Walk Schema := do
  let name ← definedName locate ms enclosing
  checkFresh locate name
  match ms.get? "symbols" with
  | some (.array vs) =>
    let symbols ← symbolList locate name [] vs
    let default ← defaultSymbol ms name symbols
    let as ← aliases locate ms name.space
    return .enum ⟨name, docOf ms, as, symbols, default⟩
  | _ => invalidAt (.noSymbols name) (locate name.name)

/-- A fixed type, all but its registration. -/
def fixedBody (locate : Locate) (ms : Json.Members) (enclosing : Option String) : Walk Schema := do
  let name ← definedName locate ms enclosing
  checkFresh locate name
  match (ms.get? "size").bind Json.Value.nat? with
  | some size =>
    let as ← aliases locate ms name.space
    return .fixed ⟨name, as, size⟩
  | none => invalidAt (.noSize name) (locate name.name)

/-- What comes after the checks of a name may be cut off at its end. -/
theorem checked_bind {k k' : FullName → Walk Schema} {m : Schema → Walk Schema}
    (h : ∀ name, k name = k' name >>= m) :
    (do
      let name ← definedName locate ms enclosing
      checkFresh locate name
      k name) = (do
      let name ← definedName locate ms enclosing
      checkFresh locate name
      k' name) >>= m := by
  simp only [h, bind_assoc]

theorem walkObject_eq_recordBody {type : String} (ht : ms.get? "type" = some (.string type))
    (hrecord : type = "record" ∨ type = "error") :
    walkObject locate ms enclosing = recordBody locate ms enclosing >>= register locate := by
  rw [walkObject_string ht, if_pos hrecord]
  refine checked_bind fun name => ?_
  cases ms.get? "fields" with
  | none => rfl
  | some v =>
    cases v with
    | array vs => simp only [bind_assoc, pure_bind]
    | _ => rfl

theorem enumType_eq_enumBody :
    enumType locate ms enclosing = enumBody locate ms enclosing >>= register locate := by
  refine checked_bind fun name => ?_
  cases ms.get? "symbols" with
  | none => rfl
  | some v =>
    cases v with
    | array vs => simp only [bind_assoc, pure_bind]
    | _ => rfl

theorem fixedType_eq_fixedBody :
    fixedType locate ms enclosing = fixedBody locate ms enclosing >>= register locate := by
  refine checked_bind fun name => ?_
  cases (ms.get? "size").bind Json.Value.nat? with
  | none => rfl
  | some size => simp only [bind_assoc, pure_bind]

/-! ## Names that stay free -/

/-- A step that ends with a definition whose name nothing has taken. -/
def EndsFree (m : Walk Schema) : Prop :=
  ∀ sc, Ends m sc (fun s sc' => ∃ n, s.name? = some n ∧ n ∉ sc'.types) fun _ => Leaves sc

theorem recordBody_endsFree : EndsFree (recordBody locate ms enclosing) := by
  intro sc
  refine fresh_andThen fun name _ fresh => ?_
  split
  · rename_i vs _
    refine .bind (.opening ((walkFields_sound vs name.space [] _).mono ?_ ?_))
    · rintro fields sc' ⟨⟨new, hg, -⟩, -⟩
      -- what the fields have registered was read while `name` was open
      obtain ⟨hg, apart⟩ := hg.close
      exact (aliases_quiet name.space).andThen (fun _ => ⟨new, hg⟩) fun as _ =>
        .pure ⟨name, rfl, hg.not_mem_types fresh apart⟩
    · rintro _ sc' ⟨new, hg⟩
      exact ⟨new, hg.close.1⟩
  · exact .fail (.refl sc)

theorem enumBody_endsFree : EndsFree (enumBody locate ms enclosing) := by
  intro sc
  refine fresh_andThen fun name _ fresh => ?_
  split
  · rename_i vs _
    refine (symbolList_quiet name vs [] (by simp) List.nodup_nil).andThen (fun _ => .refl _) ?_
    intro symbols _
    refine (defaultSymbol_quiet name symbols).andThen (fun _ => .refl _) fun default _ => ?_
    exact (aliases_quiet name.space).andThen (fun _ => .refl _) fun as _ =>
      .pure ⟨name, rfl, fun h => fresh (.inl h)⟩
  · exact .fail (.refl sc)

theorem fixedBody_endsFree : EndsFree (fixedBody locate ms enclosing) := by
  intro sc
  refine fresh_andThen fun name _ fresh => ?_
  split
  · exact (aliases_quiet name.space).andThen (fun _ => .refl _) fun as _ =>
      .pure ⟨name, rfl, fun h => fresh (.inl h)⟩
  · exact .fail (.refl sc)

/-! ## Registration -/

/-- What the step `m` has read is registered without fail: the namespace accepts it, and the walk
goes on with it and with the same records open. -/
def Settles (locate : Locate) (m : Walk Schema) : Prop :=
  ∀ sc s sc', m sc = (.ok s, sc') → ∃ types, sc'.types.register s = .ok types ∧
    register locate s sc' = (.ok s, ⟨types, sc'.opened⟩)

theorem EndsFree.settles {m : Walk Schema} (h : EndsFree m) : Settles locate m := by
  intro sc s sc' hm
  obtain ⟨n, hs, hn⟩ := (h sc).ok hm
  refine ⟨sc'.types.insert n s hn hs, ?_, ?_⟩
  · rw [Namespace.register_eq hs, dif_neg hn]
  · rw [register, Walk.get_bind, Namespace.register_eq hs, dif_neg hn]
    rfl

theorem walk_opened (v : Json.Value) (sc : Scope) :
    (walk locate v enclosing sc).2.opened = sc.opened := by
  have h : Sound definitions refs WellFormed (walk locate v enclosing) := walk_sound v enclosing
  specialize h sc
  unfold Ends at h
  split at h
  · next hw =>
    obtain ⟨⟨_, hg, -⟩, -⟩ := h
    rw [hw, hg.opened]
  · next hw =>
    obtain ⟨_, hg⟩ := h
    rw [hw, hg.opened]

/-- Records, enums and fixed types are registered at the end of their definitions, which never
fails, whatever the scope they are read in. Every walk closes the records that it opens, also when
it fails. -/
theorem definitions_settle (locate : Locate) (ms : Json.Members) (enclosing : Option String) :
    (∀ type, ms.get? "type" = some (.string type) → type = "record" ∨ type = "error" →
      walkObject locate ms enclosing = recordBody locate ms enclosing >>= register locate) ∧
    enumType locate ms enclosing = enumBody locate ms enclosing >>= register locate ∧
    fixedType locate ms enclosing = fixedBody locate ms enclosing >>= register locate ∧
    (∀ body ∈ [recordBody, enumBody, fixedBody], Settles locate (body locate ms enclosing)) ∧
    ∀ v sc, (walk locate v enclosing sc).2.opened = sc.opened := by
  refine ⟨fun _ => walkObject_eq_recordBody, enumType_eq_enumBody, fixedType_eq_fixedBody, ?_,
    walk_opened⟩
  simp only [List.forall_mem_cons]
  exact ⟨recordBody_endsFree.settles, enumBody_endsFree.settles, fixedBody_endsFree.settles,
    by simp⟩

/-- A record `R` with a record in its field, called `inner`, in whose field a fixed type is
defined. -/
def nested (inner : String) : Json.Members :=
  [("fields", .array [.object [("name", .string "a"), ("type", .object
      [("fields", .array [.object [("name", .string "b"), ("type", .object
          [("name", .string "F"), ("size", .number (.int 2)), ("type", .string "fixed")])]]),
        ("name", .string inner), ("type", .string "record")])]]),
    ("name", .string "R"), ("type", .string "record")]

/-- Two types are registered before `R`, which can be registered all the same. If the inner record
asks for its name, the walk fails with both records closed. -/
theorem definitions_settle_nested :
    (∃ s sc' types, recordBody (fun _ => none) (nested "S") none ⟨.empty, []⟩ = (.ok s, sc') ∧
      sc'.types.names = [⟨none, "F"⟩, ⟨none, "S"⟩] ∧ sc'.types.register s = .ok types ∧
      walkObject (fun _ => none) (nested "S") none ⟨.empty, []⟩ = (.ok s, ⟨types, []⟩)) ∧
    (walk (fun _ => none) (.object (nested "R")) none ⟨.empty, []⟩).1.isOk = false ∧
    (walk (fun _ => none) (.object (nested "R")) none ⟨.empty, []⟩).2.opened = [] := by
  obtain ⟨hrecord, -, -, hsettles, hopened⟩ := definitions_settle (fun _ => none) (nested "S") none
  refine ⟨?_, by decide +kernel, hopened _ _⟩
  have hwalk := hrecord "record" rfl (.inl rfl)
  have hok : (recordBody (fun _ => none) (nested "S") none ⟨.empty, []⟩).1.isOk = true := by
    decide +kernel
  have hnames : (recordBody (fun _ => none) (nested "S") none ⟨.empty, []⟩).2.types.names =
      [⟨none, "F"⟩, ⟨none, "S"⟩] := by decide +kernel
  have hstack : (recordBody (fun _ => none) (nested "S") none ⟨.empty, []⟩).2.opened = [] := by
    decide +kernel
  rcases hb : recordBody (fun _ => none) (nested "S") none ⟨.empty, []⟩ with ⟨_ | s, sc'⟩ <;>
    rw [hb] at hok hnames hstack
  · cases hok
  · obtain ⟨types, hreg, hs⟩ := hsettles recordBody (by simp) _ _ _ hb
    refine ⟨s, sc', types, rfl, hnames, hreg, ?_⟩
    rw [hwalk, Walk.bind_ok hb, hs, show sc'.opened = [] from hstack]

end AvroLink.Schema
