import Mathlib.Data.List.Nodup
import AvroLink.Proofs.Identifiers
import AvroLink.Proofs.ImportPath
import AvroLink.Proofs.Renaming
import AvroLink.Proofs.WellFormed

/-!
# What a file imports

`Schema.mentions` lists the named types that occur where a schema is used. `Mentioned sc seen` is
the invariant of the names in use after the types `seen` were mentioned: one local name and one
`Import` for each of them but the declared type. `Refers m targets good` says that the step
`m` mentions `targets` and keeps the invariant.
-/

namespace AvroLink

namespace Schema

mutual

/-- Names of the types that occur in a schema, defined there or referred to; a logical type hides
them, and a definition what is inside it. -/
def mentions : Schema → List FullName
  | primitive _ => []
  | logical _ _ => []
  | array items => mentions items
  | map values => mentions values
  | union branches => branchMentions branches
  | record h _ => [h.name]
  | enum e => [e.name]
  | fixed f => [f.name]
  | ref n => [n]

def branchMentions : List Schema → List FullName
  | [] => []
  | s :: ss => mentions s ++ branchMentions ss

end

/-- Names of the types that occur in the fields of a record. -/
def fieldMentions : Schema → List FullName
  | record _ fields => fields.flatMap fun f => f.schema.mentions
  | _ => []

theorem mentions_of_nullable? {s t : Schema} (h : s.nullable? = some t) :
    t.mentions = s.mentions := by
  unfold nullable? at h
  split at h
  · cases h
    simp [mentions, branchMentions]
  · cases h
    simp [mentions, branchMentions]
  · cases h

end Schema

namespace TypeScript

variable {sc : Scope} {seen targets targets' : List FullName} {target : FullName}

theorem put_perm {i : Import} {js : List Import} (h : ∀ j ∈ js, i.path ≠ j.path) :
    (i.put js).Perm (i :: js) := by
  induction js with
  | nil => exact .refl _
  | cons j js ih =>
    rw [Import.put]
    split
    · exact .refl _
    · rw [if_neg (h j List.mem_cons_self)]
      exact ((ih fun k hk => h k (List.mem_cons_of_mem _ hk)).cons j).trans (.swap i j js)

def importOf (self : FullName) (link : FullName × String) : Import :=
  ⟨importPath self link.1, declaredIdentifier link.1, link.2⟩

theorem Scope.mention_cases (sc : Scope) (t : FullName) :
    (t = sc.self ∧ sc.mention t = (declaredIdentifier sc.self, sc)) ∨
    (∃ l, (t, l) ∈ sc.locals ∧ sc.mention t = (l, sc)) ∨
    (t ≠ sc.self ∧ t ∉ sc.locals.map Prod.fst ∧ sc.mention t = (sc.choose t,
      ⟨sc.self, sc.locals ++ [(t, sc.choose t)],
        (importOf sc.self (t, sc.choose t)).put sc.imports⟩)) := by
  unfold Scope.mention
  split
  · next hself => exact .inl ⟨hself, rfl⟩
  · next hself =>
    split
    · next l hl =>
      obtain ⟨before, after, hlocals, -⟩ := List.lookup_eq_some_iff.mp hl
      exact .inr (.inl ⟨l, by simp [hlocals], rfl⟩)
    · next hl =>
      refine .inr (.inr ⟨hself, fun hm => ?_, rfl⟩)
      obtain ⟨e, he, rfl⟩ := List.mem_map.mp hm
      simpa using List.lookup_eq_none_iff.mp hl e he

/-- The names in use after the types `seen` were mentioned, by their renamed names. -/
structure Mentioned (sc : Scope) (seen : List FullName) : Prop where
  self : sc.self.Valid
  valid : ∀ t ∈ seen, t.Valid
  known : ∀ t, t ∈ sc.locals.map Prod.fst ↔ t ∈ seen ∧ t ≠ sc.self
  distinct : (sc.locals.map Prod.fst).Nodup
  words : ∀ l ∈ sc.locals, Word l.2
  imports : sc.imports.Perm (sc.locals.map (importOf sc.self))

theorem Mentioned.empty {self : FullName} (h : self.Valid) : Mentioned (Scope.empty self) [] :=
  ⟨h, by simp, by simp [Scope.empty], by simp [Scope.empty], by simp [Scope.empty], .refl _⟩

theorem word_choose (sc : Scope) (h : target.Valid) : Word (sc.choose target) := by
  unfold Scope.choose
  refine word_firstFree fun k => word_numbered ?_ (by decide) k
  split
  · exact word_qualifiedIdentifier h
  · exact word_declaredIdentifier h

namespace Mentioned

/-- Mentioning a type that needs no import, or has one, changes nothing. -/
theorem again (h : Mentioned sc seen) (ht : target.Valid)
    (hknown : target = sc.self ∨ target ∈ seen) : Mentioned sc (seen ++ [target]) where
  self := h.self
  valid t hm := by
    rcases List.mem_append.mp hm with hm | hm
    · exact h.valid t hm
    · exact List.mem_singleton.mp hm ▸ ht
  known t := by
    rw [h.known, List.mem_append, List.mem_singleton]
    grind
  distinct := h.distinct
  words := h.words
  imports := h.imports

/-- A new type gets an import of its own: no other type has its path. -/
theorem add (h : Mentioned sc seen) (ht : target.Valid) (hself : target ≠ sc.self)
    (hnew : target ∉ sc.locals.map Prod.fst) {l : String} (hl : Word l) :
    Mentioned ⟨sc.self, sc.locals ++ [(target, l)],
      (importOf sc.self (target, l)).put sc.imports⟩ (seen ++ [target]) where
  self := h.self
  valid t hm := by
    rcases List.mem_append.mp hm with hm | hm
    · exact h.valid t hm
    · exact List.mem_singleton.mp hm ▸ ht
  known t := by
    simp only [List.map_append, List.mem_append, h.known, List.map_cons, List.map_nil,
      List.mem_singleton]
    grind
  distinct := by simpa using h.distinct.concat hnew
  words e he := by
    rcases List.mem_append.mp he with he | he
    · exact h.words e he
    · exact List.mem_singleton.mp he ▸ hl
  imports := by
    have hpath : ∀ j ∈ sc.imports, (importOf sc.self (target, l)).path ≠ j.path := by
      intro j hj hpath
      obtain ⟨e, he, rfl⟩ := List.mem_map.mp (h.imports.mem_iff.mp hj)
      have hm : e.1 ∈ sc.locals.map Prod.fst := List.mem_map_of_mem he
      exact hnew (importPath_inj ht (h.valid _ ((h.known _).mp hm).1) hpath ▸ hm)
    rw [List.map_append]
    exact (put_perm hpath).trans ((h.imports.cons _).trans (List.perm_append_singleton _ _).symm)

theorem mention (h : Mentioned sc seen) (ht : target.Valid) :
    Mentioned (sc.mention target).2 (seen ++ [target]) ∧ (sc.mention target).2.self = sc.self ∧
      Word (sc.mention target).1 := by
  rcases sc.mention_cases target with ⟨hself, hm⟩ | ⟨l, hl, hm⟩ | ⟨hself, hnew, hm⟩ <;> rw [hm]
  · exact ⟨h.again ht (.inl hself), rfl, word_declaredIdentifier h.self⟩
  · have hseen := ((h.known target).mp (List.mem_map_of_mem hl)).1
    exact ⟨h.again ht (.inr hseen), rfl, h.words _ hl⟩
  · have hword := word_choose sc ht
    exact ⟨h.add ht hself hnew hword, rfl, hword⟩

end Mentioned

/-! ## Steps that mention types -/

/-- A step that mentions `targets`, by their renamed names, and gives something `good`. -/
def Refers {α : Type} (m : StateM Scope α) (targets : List FullName) (good : α → Prop) : Prop :=
  ∀ sc seen, Mentioned sc seen →
    Mentioned (m sc).2 (seen ++ targets) ∧ (m sc).2.self = sc.self ∧ good (m sc).1

namespace Refers

variable {α β : Type} {good : α → Prop} {good' : β → Prop}

theorem pure {a : α} (h : good a) : Refers (Pure.pure a) [] good :=
  fun sc seen hsc => ⟨by rw [List.append_nil]; exact hsc, rfl, h⟩

theorem bind {m : StateM Scope α} {k : α → StateM Scope β} (hm : Refers m targets good)
    (hk : ∀ a, good a → Refers (k a) targets' good') :
    Refers (m >>= k) (targets ++ targets') good' := by
  intro sc seen hsc
  obtain ⟨h, hself, ha⟩ := hm sc seen hsc
  obtain ⟨h', hself', hb⟩ := hk _ ha _ _ h
  rw [List.append_assoc] at h'
  exact ⟨h', hself'.trans hself, hb⟩

theorem map {m : StateM Scope α} {f : α → β} (hm : Refers m targets good)
    (hf : ∀ a, good a → good' (f a)) : Refers (do return f (← m)) targets good' := by
  have hpure : ∀ a, good a → Refers (Pure.pure (f a)) [] good' := fun a ha => pure (hf a ha)
  simpa using hm.bind hpure

end Refers

section

variable {remap : Remap}

theorem refer_refers (hr : remap.Valid) {n : FullName} (hn : n.Valid) :
    Refers (refer remap n) [remap.applyName n] Word :=
  fun _ _ hsc => hsc.mention (Remap.applyName_valid hr hn)

theorem oneLine_primitiveType (p : Primitive) : Text.OneLine (primitiveType p).text := by
  cases p <;> simp only [primitiveType, TypeExpr.text] <;> decide

theorem oneLine_logicalType (l : LogicalType) : Text.OneLine (logicalType l).text := by
  cases l <;> simp only [logicalType, TypeExpr.text] <;> decide

theorem texts_eq (ts : List TypeExpr) : TypeExpr.texts ts = ts.map TypeExpr.text := by
  induction ts with
  | nil => rfl
  | cons t ts ih => rw [TypeExpr.texts, ih, List.map_cons]

mutual

theorem typeOf_refers (hr : remap.Valid) : ∀ s : Schema, s.WellFormed →
    Refers (typeOf remap s) (s.mentions.map remap.applyName) fun t => Text.OneLine t.text
  | .primitive p, _ => by
    rw [typeOf]
    exact .pure (oneLine_primitiveType p)
  | .logical l _, _ => by
    rw [typeOf]
    exact .pure (oneLine_logicalType l)
  | .array items, h => by
    rw [typeOf, Schema.mentions]
    refine (typeOf_refers hr items h).map fun t ht => ?_
    simp only [TypeExpr.text]
    split <;> simp only [Text.oneLine_append, ht] <;> decide
  | .map values, h => by
    rw [typeOf, Schema.mentions]
    refine (typeOf_refers hr values h).map fun t ht => ?_
    simp only [TypeExpr.text, Text.oneLine_append, ht]
    decide
  | .union branches, h => by
    rw [typeOf, Schema.mentions]
    refine (typesOf_refers hr branches h.2.2).map fun ts hts => ?_
    rw [TypeExpr.text, texts_eq]
    refine Text.oneLine_joinWith (by decide) fun s hs => ?_
    obtain ⟨t, ht, rfl⟩ := List.mem_map.mp hs
    exact hts t ht
  | .record h _, hw => by
    rw [typeOf]
    exact (refer_refers hr hw.1.name).map fun _ hl => hl.oneLine
  | .enum e, hw => by
    rw [typeOf]
    exact (refer_refers hr (show e.WellFormed from hw).name).map fun _ hl => hl.oneLine
  | .fixed f, hw => by
    rw [typeOf]
    exact (refer_refers hr (show f.WellFormed from hw).name).map fun _ hl => hl.oneLine
  | .ref n, hw => by
    rw [typeOf]
    exact (refer_refers hr hw).map fun _ hl => hl.oneLine

theorem typesOf_refers (hr : remap.Valid) : ∀ ss : List Schema, Schema.BranchesWellFormed ss →
    Refers (typesOf remap ss) ((Schema.branchMentions ss).map remap.applyName)
      fun ts => ∀ t ∈ ts, Text.OneLine t.text
  | [], _ => by
    rw [typesOf]
    exact .pure (by simp)
  | s :: ss, h => by
    rw [typesOf, Schema.branchMentions, List.map_append]
    refine (typeOf_refers hr s h.2.1).bind fun t ht => ?_
    exact (typesOf_refers hr ss h.2.2).map fun ts hts => by simpa using ⟨ht, hts⟩

end

end

end TypeScript

end AvroLink
