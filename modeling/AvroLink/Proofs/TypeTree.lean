import AvroLink.Proofs.Document
import AvroLink.Proofs.LocalNames
import AvroLink.Proofs.TypeGrammar

/-!
# The type of a schema

`Schema.typeTree` is the type that a schema stands for, given the identifiers of the named types.
The identifiers of a file are those that its names in use end up with (`Scope.identifier`): what was
mentioned before keeps its identifier (`Kept`). `Settles m good` says that what the step `m` gives
is `good` for them. The text of a schema is read as the type that the schema stands for.
-/

namespace AvroLink

/-- The word that a primitive type is written with. -/
def Primitive.typeWord : Primitive → String
  | .int | .long | .float | .double => "number"
  | .bytes => "Uint8Array"
  | p => p.keyword

/-- The word that a logical type is written with, whatever it is laid over. -/
def LogicalType.typeWord : LogicalType → String
  | .uuid | .decimal _ _ => "string"
  | _ => "number"

namespace Schema

open TypeScript

mutual

/-- The type that a schema stands for where named types have the identifiers `ident`. -/
def typeTree (ident : FullName → String) : Schema → TypeExpr
  | primitive p => .name p.typeWord
  | logical l _ => .name l.typeWord
  | array items => .array (typeTree ident items)
  | map values => .dictionary (typeTree ident values)
  | union branches => oneOf (branchTypes ident branches)
  | record h _ => .name (ident h.name)
  | enum e => .name (ident e.name)
  | fixed f => .name (ident f.name)
  | ref n => .name (ident n)

def branchTypes (ident : FullName → String) : List Schema → List TypeExpr
  | [] => []
  | s :: ss => typeTree ident s :: branchTypes ident ss

end

end Schema

namespace TypeScript

variable {sc sc' sc'' : Scope} {t n : FullName} {l : String} {remap : Remap}

/-! ## Identifiers -/

theorem Spells.plain (ht : t.Valid) (h : Spells t l) : (TypeExpr.name l).Plain := by
  rcases h with rfl | ⟨k, rfl⟩
  · exact ⟨declaredIdentifier_ne_empty ht, word_declaredIdentifier ht⟩
  · refine ⟨fun he => ?_, word_numbered (word_qualifiedIdentifier ht) (by decide) k⟩
    cases k with
    | zero => exact qualifiedIdentifier_ne_empty ht he
    | succ k =>
      exact qualifiedIdentifier_ne_empty ht
        (String.append_eq_empty_iff.mp (String.append_eq_empty_iff.mp he).1).1

namespace Scope

/-- The identifier under which a type is mentioned, by its renamed name. -/
def identifier (sc : Scope) (t : FullName) : String := (sc.mention t).1

/-- What was mentioned before has kept its identifier. -/
structure Kept (sc sc' : Scope) : Prop where
  self : sc'.self = sc.self
  locals : ∀ e ∈ sc.locals, e ∈ sc'.locals

theorem Kept.refl (sc : Scope) : Kept sc sc := ⟨rfl, fun _ h => h⟩

theorem Kept.trans (h : Kept sc sc') (h' : Kept sc' sc'') : Kept sc sc'' :=
  ⟨h'.self.trans h.self, fun e he => h'.locals e (h.locals e he)⟩

theorem Links.isKept {links : List (FullName × String)} (h : Links sc sc' links) : Kept sc sc' :=
  ⟨h.self, h.kept⟩

theorem Calls.kept (h : sc.Calls t l) (hk : Kept sc sc') : sc'.Calls t l := by
  rcases h with ⟨hself, hl⟩ | h
  · exact .inl ⟨hself.trans hk.self.symm, by rw [hl, hk.self]⟩
  · exact .inr (hk.locals _ h)

theorem Unambiguous.identifier_eq (h : sc.Unambiguous) (hc : sc.Calls t l) :
    sc.identifier t = l := by
  obtain ⟨hmention, hlinks⟩ := h.mention t
  exact (hmention.eq_iff (hlinks.calls _ List.mem_cons_self) (hc.kept hlinks.isKept)).mpr rfl

theorem Unambiguous.spells_of_calls (h : sc.Unambiguous) (hc : sc.Calls t l) : Spells t l := by
  rcases hc with ⟨rfl, rfl⟩ | hc
  · exact .inl rfl
  · exact h.spells _ hc

end Scope

open Scope

/-! ## Steps -/

/-- What the step `m` gives is `good` for the identifiers that the names in use end up with. -/
def Settles {α : Type} (m : StateM Scope α) (good : (FullName → String) → α → Prop) : Prop :=
  ∀ sc, sc.Unambiguous → (m sc).2.Unambiguous ∧ Kept sc (m sc).2 ∧
    ∀ last : Scope, last.Unambiguous → Kept (m sc).2 last → good last.identifier (m sc).1

namespace Settles

variable {α β : Type} {good : (FullName → String) → α → Prop}
  {good' : (FullName → String) → β → Prop}

theorem pure {a : α} (h : ∀ ident, good ident a) : Settles (Pure.pure a) good :=
  fun sc hsc => ⟨hsc, .refl sc, fun last _ _ => h last.identifier⟩

theorem bind {m : StateM Scope α} {k : α → StateM Scope β}
    {next : α → (FullName → String) → β → Prop} (hm : Settles m good) (hk : ∀ a, Settles (k a) (next a))
    (h : ∀ ident a b, good ident a → next a ident b → good' ident b) : Settles (m >>= k) good' := by
  intro sc hsc
  obtain ⟨hsc', hkept, ha⟩ := hm sc hsc
  obtain ⟨hsc'', hkept', hb⟩ := hk _ _ hsc'
  exact ⟨hsc'', hkept.trans hkept', fun last hlast hl =>
    h _ _ _ (ha last hlast (hkept'.trans hl)) (hb last hlast hl)⟩

theorem map {m : StateM Scope α} {f : α → β} (hm : Settles m good)
    (h : ∀ ident a, good ident a → good' ident (f a)) : Settles (do return f (← m)) good' :=
  have hk (a : α) : Settles (Pure.pure (f a) : StateM Scope β) fun _ b => b = f a :=
    pure fun _ => rfl
  hm.bind hk fun ident a _ ha hb => hb ▸ h ident a ha

end Settles

theorem refer_settles (hr : remap.Valid) (hn : n.Valid) :
    Settles (refer remap n) fun ident l =>
      l = ident (remap.applyName n) ∧ (TypeExpr.name l).Plain := by
  intro sc hsc
  obtain ⟨hsc', hlinks⟩ := hsc.mention (remap.applyName n)
  refine ⟨hsc', hlinks.isKept, fun last hlast hkept => ?_⟩
  have hcalls := (hlinks.calls _ List.mem_cons_self).kept hkept
  exact ⟨(hlast.identifier_eq hcalls).symm,
    (hlast.spells_of_calls hcalls).plain (Remap.applyName_valid hr hn)⟩

/-- What the type of the schema `s` is like: it stands for what the schema does. -/
structure TypeOf (remap : Remap) (s : Schema) (ident : FullName → String) (t : TypeExpr) :
    Prop where
  plain : t.Plain
  tree : t.tree = s.typeTree fun n => ident (remap.applyName n)
  flat : s.isUnion = false → t.isUnion = false

/-- What the types of the branches `ss` are like. -/
structure TypesOf (remap : Remap) (ss : List Schema) (ident : FullName → String)
    (ts : List TypeExpr) : Prop where
  plain : TypeExpr.PlainBranches ts
  trees : TypeExpr.trees ts = Schema.branchTypes (fun n => ident (remap.applyName n)) ss

theorem plain_primitiveType (p : Primitive) : (primitiveType p).Plain := by
  cases p <;> exact ⟨by decide, by decide⟩

theorem plain_logicalType (l : LogicalType) : (logicalType l).Plain := by
  cases l <;> exact ⟨by decide, by decide⟩

theorem name_settles (hr : remap.Valid) (hn : n.Valid) {s : Schema}
    (hs : ∀ ident, s.typeTree ident = .name (ident n)) :
    Settles (do return TypeExpr.name (← refer remap n)) (TypeOf remap s) :=
  (refer_settles hr hn).map fun ident l hl =>
    ⟨hl.2, by rw [hs, hl.1]; rfl, fun _ => rfl⟩

mutual

theorem typeOf_settles (hr : remap.Valid) : ∀ s : Schema, s.WellFormed →
    Settles (typeOf remap s) (TypeOf remap s)
  | .primitive p, _ =>
    .pure fun _ => ⟨plain_primitiveType p, by cases p <;> rfl, fun _ => by cases p <;> rfl⟩
  | .logical l _, _ =>
    .pure fun _ => ⟨plain_logicalType l, by cases l <;> rfl, fun _ => by cases l <;> rfl⟩
  | .array items, h =>
    (typeOf_settles hr items h).map fun _ _ ht =>
      ⟨ht.plain, congrArg TypeExpr.array ht.tree, fun _ => rfl⟩
  | .map values, h =>
    (typeOf_settles hr values h).map fun _ _ ht =>
      ⟨ht.plain, congrArg TypeExpr.dictionary ht.tree, fun _ => rfl⟩
  | .union branches, h =>
    (typesOf_settles hr branches h.2.2).map fun ident ts hts => by
      refine ⟨⟨?_, hts.plain⟩, congrArg oneOf hts.trees, fun hu => by cases hu⟩
      rintro rfl
      cases branches with
      | nil => exact h.1 rfl
      | cons => exact absurd hts.trees (by simp [TypeExpr.trees, Schema.branchTypes])
  | .record h _, hw => name_settles hr hw.1.name fun _ => rfl
  | .enum e, hw => name_settles hr (show e.WellFormed from hw).name fun _ => rfl
  | .fixed f, hw => name_settles hr (show f.WellFormed from hw).name fun _ => rfl
  | .ref _, hw => name_settles hr hw fun _ => rfl

theorem typesOf_settles (hr : remap.Valid) : ∀ ss : List Schema, Schema.BranchesWellFormed ss →
    Settles (typesOf remap ss) (TypesOf remap ss)
  | [], _ => .pure fun _ => ⟨trivial, rfl⟩
  | s :: ss, h =>
    have hss (t : TypeExpr) : Settles (do return t :: (← typesOf remap ss)) fun ident ts =>
        ∃ us, ts = t :: us ∧ TypesOf remap ss ident us :=
      (typesOf_settles hr ss h.2.2).map fun _ us hus => ⟨us, rfl, hus⟩
    (typeOf_settles hr s h.2.1).bind hss fun ident t ts ht hts => by
      obtain ⟨us, rfl, hus⟩ := hts
      exact ⟨⟨ht.flat h.1, ht.plain, hus.plain⟩, congrArg₂ List.cons ht.tree hus.trees⟩

end

/-- The type of a schema that a parse returns, in a file where types were mentioned before, is read
as what the schema stands for and as nothing else. -/
theorem typeOf_readsAs {text : String} {N : Namespace} {s : Schema}
    (h : (Schema.parse text N).1 = .ok s) (hr : remap.Valid) (self : FullName)
    (targets : List FullName) :
    ∃ t sc, typeOf remap s (targets.mapM (refer remap) (.empty self)).2 = (t, sc) ∧
      ∀ tree, ReadsAs t.text tree ↔
        tree = s.typeTree fun n => sc.identifier (remap.applyName n) := by
  have hw : s.WellFormed := by
    have hp : Schema.parse text N = (.ok s, (Schema.parse text N).2) := by rw [← h]
    exact (Schema.parse_reads hp).2
  obtain ⟨ids, sc, hrun, -, hsc, -⟩ := refer_mapM remap (.empty self) targets
  obtain ⟨hlast, -, ht⟩ := typeOf_settles hr s hw sc hsc
  rw [hrun]
  refine ⟨_, _, rfl, fun tree => ?_⟩
  have ht := ht _ hlast (.refl _)
  rw [TypeExpr.readsAs_text ht.plain, ht.tree]

/-- A list of unions, in one of which there is a union inside a map. -/
def hands : String :=
  "\x7b\"type\":\"array\",\"items\":[\"null\",\x7b\"type\":\"map\",\"values\":[\"int\"," ++
    "\x7b\"type\":\"enum\",\"name\":\"a.Suit\",\"symbols\":[\"HEARTS\"]\x7d]\x7d]\x7d"

def handsTree : TypeExpr :=
  .array (.union [.name "null", .dictionary (.union [.name "number", .name "Suit"])])

theorem handsTree_plain : handsTree.Plain := by
  have hnull := plain_primitiveType .null
  have hnumber := plain_primitiveType .int
  have hsuit : (TypeExpr.name "Suit").Plain := ⟨by decide, .of_isValidName (by decide)⟩
  exact ⟨by simp, rfl, hnull, rfl, ⟨by simp, rfl, hnumber, rfl, hsuit, trivial⟩, trivial⟩

/-- Both unions are grouped, the outer one by parentheses. -/
theorem typeOf_readsAs_hands : ∃ s, (Schema.parse hands .empty).1 = .ok s ∧
    (typeOf .empty s (.empty ⟨some "a", "Hand"⟩)).1.text =
      "(null | Record<string, number | Suit>)[]" ∧
    ∀ tree, ReadsAs "(null | Record<string, number | Suit>)[]" tree ↔ tree = handsTree := by
  have heval : (Schema.parse hands .empty).1.toOption.map (fun s =>
      (typeOf .empty s (.empty ⟨some "a", "Hand"⟩)).1.text) =
      some "(null | Record<string, number | Suit>)[]" := by
    decide +kernel
  have hr : Remap.empty.Valid := by decide
  obtain ⟨s, hs, htext⟩ := Option.map_eq_some_iff.mp heval
  have hs := ok_of_toOption hs
  obtain ⟨t, sc, hrun, hreads⟩ := typeOf_readsAs hs hr ⟨some "a", "Hand"⟩ []
  have hrun : typeOf .empty s (.empty ⟨some "a", "Hand"⟩) = (t, sc) := hrun
  rw [hrun] at htext
  rw [htext] at hreads
  have htree : ReadsAs "(null | Record<string, number | Suit>)[]" handsTree :=
    (TypeExpr.readsAs_text handsTree_plain).mpr rfl
  refine ⟨s, hs, by rw [hrun, htext], fun tree => ?_⟩
  rw [hreads tree, ← (hreads handsTree).mp htree]

end TypeScript

end AvroLink
