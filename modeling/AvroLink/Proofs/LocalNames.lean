import AvroLink.Proofs.Fresh
import AvroLink.Proofs.Mentions

/-!
# Identifiers of one file

`Unambiguous` is the invariant of the names in use in a file: different types have different
identifiers, none of which is that of the declared type or a global one. One call of `refer` keeps it
(`Unambiguous.mention`), and so does a sequence of calls (`refer_mapM`). What a declaration does to
the names in use is a sequence of calls, one for each type that occurs in its fields
(`declaration_asks`).
-/

namespace AvroLink.TypeScript

variable {sc sc' sc'' : Scope} {t u : FullName} {l m : String}
  {links : List (FullName × String)}

/-! ## One type -/

theorem Import.mem_put {i j : Import} {js : List Import} (h : i ∈ j.put js) : i = j ∨ i ∈ js := by
  induction js with
  | nil => exact .inl (List.mem_singleton.mp h)
  | cons k js ih =>
    rw [Import.put] at h
    split at h
    · exact List.mem_cons.mp h
    · split at h
      · exact (List.mem_cons.mp h).imp_right (List.mem_cons_of_mem _)
      · rcases List.mem_cons.mp h with rfl | h
        · exact .inr List.mem_cons_self
        · exact (ih h).imp_right (List.mem_cons_of_mem _)

/-- An identifier that a type may be mentioned under: the one it is declared under, or its qualified
name, numbered if need be. -/
def Spells (t : FullName) (l : String) : Prop :=
  l = declaredIdentifier t ∨ ∃ k, l = numbered (qualifiedIdentifier t) "" k

namespace Scope

/-- What the identifiers for a type not mentioned before are made of. -/
def base (sc : Scope) (t : FullName) : String :=
  if declaredIdentifier t ∈ sc.taken then qualifiedIdentifier t else declaredIdentifier t

/-- The search for an identifier ends at the first one that is free. -/
theorem choose_spec (sc : Scope) (t : FullName) :
    ∃ k, sc.choose t = numbered (sc.base t) "" k ∧
      IsFirstFree sc.taken (numbered (sc.base t) "") k :=
  firstFree_spec sc.taken (numbered_injective _ _)

theorem choose_not_mem (sc : Scope) (t : FullName) : sc.choose t ∉ sc.taken := by
  obtain ⟨k, hk, h⟩ := sc.choose_spec t
  exact hk ▸ h.free

theorem choose_eq_declaredIdentifier (h : declaredIdentifier t ∉ sc.taken) :
    sc.choose t = declaredIdentifier t := by
  obtain ⟨k, hk, hfirst⟩ := sc.choose_spec t
  rw [base, if_neg h] at hk hfirst
  -- the search ends where it starts
  cases k with
  | zero => exact hk
  | succ k => exact absurd (hfirst.first 0 (Nat.succ_pos k)) h

theorem spells_choose (sc : Scope) (t : FullName) : Spells t (sc.choose t) := by
  by_cases ht : declaredIdentifier t ∈ sc.taken
  · obtain ⟨k, hk, -⟩ := sc.choose_spec t
    rw [base, if_pos ht] at hk
    exact .inr ⟨k, hk⟩
  · exact .inl (choose_eq_declaredIdentifier ht)

/-- The identifier `l` stands for the type `t`. -/
def Calls (sc : Scope) (t : FullName) (l : String) : Prop :=
  t = sc.self ∧ l = declaredIdentifier sc.self ∨ (t, l) ∈ sc.locals

/-- Different types have different identifiers, and these differ from the global ones. -/
structure Unambiguous (sc : Scope) : Prop where
  others : ∀ e ∈ sc.locals, e.1 ≠ sc.self
  types : (sc.locals.map Prod.fst).Nodup
  idents : (declaredIdentifier sc.self :: sc.locals.map Prod.snd).Nodup
  free : ∀ e ∈ sc.locals, e.2 ∉ globals
  spells : ∀ e ∈ sc.locals, Spells e.1 e.2
  imports : ∀ i ∈ sc.imports, ∃ e ∈ sc.locals, i = importOf sc.self e

theorem Unambiguous.empty (self : FullName) : (Scope.empty self).Unambiguous := by
  constructor <;> simp [Scope.empty]

theorem Unambiguous.eq_iff (h : sc.Unambiguous) (ht : sc.Calls t l) (hu : sc.Calls u m) :
    l = m ↔ t = u := by
  have hdeclared : ∀ e ∈ sc.locals, declaredIdentifier sc.self ≠ e.2 := fun e he heq =>
    (List.nodup_cons.mp h.idents).1 (heq ▸ List.mem_map_of_mem he)
  rcases ht with ⟨rfl, rfl⟩ | ht
  · rcases hu with ⟨rfl, rfl⟩ | hu
    · exact iff_of_true rfl rfl
    · exact iff_of_false (hdeclared _ hu) (h.others _ hu).symm
  · rcases hu with ⟨rfl, rfl⟩ | hu
    · exact iff_of_false (hdeclared _ ht).symm (h.others _ ht)
    · constructor
      · intro hl
        exact congrArg Prod.fst
          (List.inj_on_of_nodup_map (List.nodup_cons.mp h.idents).2 ht hu hl)
      · intro hn
        exact congrArg Prod.snd (List.inj_on_of_nodup_map h.types ht hu hn)

/-- What becomes of the names in use when types, by their renamed names, are given identifiers. -/
structure Links (sc sc' : Scope) (links : List (FullName × String)) : Prop where
  self : sc'.self = sc.self
  kept : ∀ e ∈ sc.locals, e ∈ sc'.locals
  calls : ∀ a ∈ links, sc'.Calls a.1 a.2
  new : ∀ e ∈ sc'.locals, e ∈ sc.locals ∨ e ∈ links

theorem Links.nil (sc : Scope) : Links sc sc [] :=
  ⟨rfl, fun _ he => he, by simp, fun _ he => .inl he⟩

theorem Links.cons {a : FullName × String} (h : Links sc sc' [a]) (h' : Links sc' sc'' links) :
    Links sc sc'' (a :: links) where
  self := h'.self.trans h.self
  kept e he := h'.kept e (h.kept e he)
  calls b hb := by
    rcases List.mem_cons.mp hb with rfl | hb
    · rcases h.calls b List.mem_cons_self with ⟨ht, hl⟩ | hm
      · exact .inl ⟨ht.trans h'.self.symm, by rw [hl, h'.self]⟩
      · exact .inr (h'.kept _ hm)
    · exact h'.calls b hb
  new e he := by
    rcases h'.new e he with he | he
    · exact (h.new e he).imp_right fun he => by
        rw [List.mem_singleton.mp he]
        exact List.mem_cons_self
    · exact .inr (List.mem_cons_of_mem _ he)

theorem Unambiguous.add (h : sc.Unambiguous) (hself : t ≠ sc.self)
    (hnew : t ∉ sc.locals.map Prod.fst) (hl : l ∉ sc.taken) (hs : Spells t l) :
    Unambiguous ⟨sc.self, sc.locals ++ [(t, l)],
      (importOf sc.self (t, l)).put sc.imports⟩ := by
  have hmem : ∀ e, e ∈ sc.locals ++ [(t, l)] → e ∈ sc.locals ∨ e = (t, l) := fun e he => by
    simpa using he
  simp only [taken, List.cons_append, List.mem_cons, List.mem_append, not_or] at hl
  obtain ⟨hdeclared, hglobal, hident⟩ := hl
  constructor
  · intro e he
    rcases hmem e he with he | rfl
    · exact h.others e he
    · exact hself
  · simpa using h.types.concat hnew
  · have hfresh : l ∉ declaredIdentifier sc.self :: sc.locals.map Prod.snd :=
      fun hm => (List.mem_cons.mp hm).elim hdeclared hident
    simpa using h.idents.concat hfresh
  · intro e he
    rcases hmem e he with he | rfl
    · exact h.free e he
    · exact hglobal
  · intro e he
    rcases hmem e he with he | rfl
    · exact h.spells e he
    · exact hs
  · intro i hi
    rcases Import.mem_put hi with rfl | hi
    · exact ⟨(t, l), by simp, rfl⟩
    · obtain ⟨e, he, rfl⟩ := h.imports i hi
      exact ⟨e, List.mem_append_left _ he, rfl⟩

theorem Links.again (h : sc.Calls t l) : Links sc sc [(t, l)] :=
  ⟨rfl, fun _ he => he, by simpa using h, fun _ he => .inl he⟩

/-- One call keeps different types apart. -/
theorem Unambiguous.mention (h : sc.Unambiguous) (t : FullName) :
    (sc.mention t).2.Unambiguous ∧ Links sc (sc.mention t).2 [(t, (sc.mention t).1)] := by
  rcases sc.mention_cases t with ⟨hself, hm⟩ | ⟨l, hl, hm⟩ | ⟨hself, hnew, hm⟩ <;> rw [hm]
  · exact ⟨h, .again (.inl ⟨hself, rfl⟩)⟩
  · exact ⟨h, .again (.inr hl)⟩
  · refine ⟨h.add hself hnew (sc.choose_not_mem t) (sc.spells_choose t), rfl, ?_, ?_, ?_⟩
    · exact fun e he => List.mem_append_left _ he
    · simpa using .inr (by simp)
    · exact fun e he => List.mem_append.mp he

end Scope

/-! ## Sequences of calls -/

open Scope

variable {remap : Remap}

/-- A sequence of calls keeps different types apart. -/
theorem refer_mapM (remap : Remap) (h : sc.Unambiguous) (targets : List FullName) :
    ∃ ids sc', targets.mapM (refer remap) sc = (ids, sc') ∧ ids.length = targets.length ∧
      sc'.Unambiguous ∧ Links sc sc' ((targets.map remap.applyName).zip ids) := by
  induction targets generalizing sc with
  | nil => exact ⟨[], sc, rfl, rfl, h, .nil sc⟩
  | cons t targets ih =>
    obtain ⟨h', hlink⟩ := h.mention (remap.applyName t)
    obtain ⟨ids, sc', hrun, hlen, hsc, hlinks⟩ := ih h'
    refine ⟨(sc.mention (remap.applyName t)).1 :: ids, sc', ?_, by simp [hlen], hsc,
      hlink.cons hlinks⟩
    rw [List.mapM_cons]
    change ((sc.mention (remap.applyName t)).1 ::
      (targets.mapM (refer remap) (sc.mention (remap.applyName t)).2).1,
      (targets.mapM (refer remap) (sc.mention (remap.applyName t)).2).2) = _
    rw [hrun]

theorem importOf_of_mem {self : FullName} (h : sc.Unambiguous) (hl : Links (.empty self) sc links)
    {i : Import} (hi : i ∈ sc.imports) : ∃ a ∈ links, a ∈ sc.locals ∧ i = importOf self a := by
  obtain ⟨e, he, rfl⟩ := h.imports i hi
  refine ⟨e, (hl.new e he).resolve_left (by simp [Scope.empty]), he, by rw [hl.self]; rfl⟩

/-! ## Declarations -/

/-- What the step `m` does to the names in use is what calls for the types `targets` do. -/
def Asks (remap : Remap) {α : Type} (m : StateM Scope α) (targets : List FullName) : Prop :=
  ∀ sc, (m sc).2 = (targets.mapM (refer remap) sc).2

namespace Asks

variable {α β : Type} {targets targets' : List FullName}

theorem pure (a : α) : Asks remap (Pure.pure a) [] := fun _ => rfl

theorem refer (t : FullName) : Asks remap (refer remap t) [t] := fun _ => rfl

theorem bind {m : StateM Scope α} {k : α → StateM Scope β} (hm : Asks remap m targets)
    (hk : ∀ a, Asks remap (k a) targets') : Asks remap (m >>= k) (targets ++ targets') := by
  intro sc
  rw [List.mapM_append]
  change (k (m sc).1 (m sc).2).2 =
    (targets'.mapM (TypeScript.refer remap) (targets.mapM (TypeScript.refer remap) sc).2).2
  rw [hk, hm]

theorem map {m : StateM Scope α} (hm : Asks remap m targets) (f : α → β) :
    Asks remap (do return f (← m)) targets := hm

end Asks

mutual

theorem typeOf_asks (remap : Remap) : ∀ s : Schema, Asks remap (typeOf remap s) s.mentions
  | .primitive p => .pure (primitiveType p)
  | .logical l _ => .pure (logicalType l)
  | .array items => by
    rw [typeOf, Schema.mentions]
    exact (typeOf_asks remap items).map _
  | .map values => by
    rw [typeOf, Schema.mentions]
    exact (typeOf_asks remap values).map _
  | .union branches => by
    rw [typeOf, Schema.mentions]
    exact (typesOf_asks remap branches).map _
  | .record h _ => (Asks.refer h.name).map _
  | .enum e => (Asks.refer e.name).map _
  | .fixed f => (Asks.refer f.name).map _
  | .ref n => (Asks.refer n).map _

theorem typesOf_asks (remap : Remap) : ∀ ss : List Schema,
    Asks remap (typesOf remap ss) (Schema.branchMentions ss)
  | [] => .pure []
  | s :: ss => by
    rw [typesOf, Schema.branchMentions]
    exact (typeOf_asks remap s).bind fun _ => (typesOf_asks remap ss).map _

end

theorem fieldLine_asks (config : Config) (remap : Remap) (f : Field) :
    Asks remap (fieldLine config remap f) f.schema.mentions := by
  unfold fieldLine
  split
  · next s hs _ =>
    rw [← Schema.mentions_of_nullable? hs]
    exact (typeOf_asks remap s).map _
  · next s hs _ =>
    rw [← Schema.mentions_of_nullable? hs]
    exact (typeOf_asks remap s).map _
  · exact (typeOf_asks remap f.schema).map _

theorem fieldTexts_asks (config : Config) (remap : Remap) (fs : List Field) :
    Asks remap (fieldTexts config remap fs) (fs.flatMap fun f => f.schema.mentions) := by
  induction fs with
  | nil => exact .pure ""
  | cons f fs ih =>
    rw [fieldTexts, List.flatMap_cons]
    exact (fieldLine_asks config remap f).bind fun _ => ih.map _

/-- The calls that are made while a declaration is rendered. -/
theorem declaration_asks (config : Config) (remap : Remap) (s : Schema) :
    Asks remap (declaration config remap s) s.fieldMentions := by
  intro sc
  cases s with
  | record h fields => exact fieldTexts_asks config remap fields sc
  | _ => rfl

/-- In a file, whatever types are mentioned in it, the search for an identifier always ends; two
types have the same identifier exactly when they have the same renamed name, a type has the
identifier of the declared one exactly when it is that type, and no imported one is that of a global
type. The types mentioned in a declaration are such a sequence. -/
theorem refer_unambiguous (config : Config) (remap : Remap) (self : FullName) (s : Schema)
    (targets : List FullName) :
    (∀ sc t, ∃ k, Scope.choose sc t = numbered (sc.base t) "" k ∧
      IsFirstFree sc.taken (numbered (sc.base t) "") k) ∧
    (declaration config remap s (Scope.empty self)).2 =
      (s.fieldMentions.mapM (refer remap) (Scope.empty self)).2 ∧
    ∃ ids sc, targets.mapM (refer remap) (Scope.empty self) = (ids, sc) ∧
      ids.length = targets.length ∧
      (∀ a ∈ targets.zip ids, ∀ b ∈ targets.zip ids,
        a.2 = b.2 ↔ remap.applyName a.1 = remap.applyName b.1) ∧
      (∀ a ∈ targets.zip ids, a.2 = declaredIdentifier self ↔ remap.applyName a.1 = self) ∧
      ∀ i ∈ sc.imports, i.localName ∈ ids ∧ i.localName ∉ globals := by
  refine ⟨Scope.choose_spec, declaration_asks config remap s _, ?_⟩
  obtain ⟨ids, sc, hrun, hlen, hsc, hlinks⟩ := refer_mapM remap (.empty self) targets
  have hcalls : ∀ a ∈ targets.zip ids, sc.Calls (remap.applyName a.1) a.2 := by
    intro a ha
    refine hlinks.calls (remap.applyName a.1, a.2) ?_
    rw [List.zip_map_left]
    exact List.mem_map_of_mem (f := Prod.map remap.applyName id) ha
  have hself : sc.Calls self (declaredIdentifier self) :=
    .inl ⟨hlinks.self.symm, by rw [hlinks.self]; rfl⟩
  refine ⟨ids, sc, hrun, hlen, fun a ha b hb => hsc.eq_iff (hcalls a ha) (hcalls b hb),
    fun a ha => hsc.eq_iff (hcalls a ha) hself, fun i hi => ?_⟩
  obtain ⟨e, hlink, he, rfl⟩ := importOf_of_mem hsc hlinks hi
  exact ⟨(List.of_mem_zip hlink).2, hsc.free e he⟩

end AvroLink.TypeScript
