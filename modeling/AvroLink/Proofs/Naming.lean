import AvroLink.Proofs.Batch
import AvroLink.Proofs.Branches
import AvroLink.Proofs.ReadBack
import AvroLink.Proofs.StringText

/-!
# Documents that are a name

A document that is one JSON string spells a primitive type or refers to a registered one. Keywords
come first, so a type of the null namespace that is called like a primitive type is not what its own
text means. The dotted text means it, as it means every registered type.
-/

namespace AvroLink

namespace Schema

variable {f : FullName} {N : Namespace} {text : String}

theorem ofKeyword?_text : Primitive.ofKeyword? f.text = none ↔
    ∀ p : Primitive, f ≠ ⟨none, p.keyword⟩ := by
  have hall : ∀ p : Primitive, p ∈ Primitive.all := fun p => by cases p <;> decide
  simp only [Primitive.ofKeyword?, List.find?_eq_none, decide_eq_true_eq]
  refine ⟨fun h p hf => h p (hall p) ?_, fun h p _ hp => h p ?_⟩
  · rw [hf]
    rfl
  · exact (text_eq_iff (dot_not_mem_kind (.primitive p))).mp hp.symm

theorem parse_string (text : String) (N : Namespace) : ∃ locate,
    parse (Json.Value.string text).text N =
      ((typeName locate text none ⟨N, []⟩).1, (typeName locate text none ⟨N, []⟩).2.types) := by
  rw [parse_eq, reading, Json.read_text_string]
  simp only [walk]
  exact ⟨_, rfl⟩

theorem parse_keyword (p : Primitive) (N : Namespace) :
    parse (Json.Value.string p.keyword).text N = (.ok (.primitive p), N) := by
  obtain ⟨locate, h⟩ := parse_string p.keyword N
  rw [h, typeName_keyword]
  rfl

/-- A text that is no keyword refers to the registered type that it denotes. -/
theorem parse_reference (hk : Primitive.ofKeyword? text = none) (hf : FullName.parse text = .ok f)
    (hN : f ∈ N) : parse (Json.Value.string text).text N = (.ok (.ref f), N) := by
  obtain ⟨locate, h⟩ := parse_string text N
  have hvisible : Scope.Visible ⟨N, []⟩ f := .inl hN
  have hread : typeName locate text none ⟨N, []⟩ = (.ok (.ref f), ⟨N, []⟩) := by
    rw [typeName, hk]
    simp only
    rw [reference, resolveName_ok hf, pure_bind, Walk.get_bind]
    simp [candidates, hvisible]
    rfl
  rw [h, hread]

end Schema

namespace Resolve

open Json

/-- Every type that successful parses have registered is what its text refers to, unless this is
the keyword of a primitive type. The dotted text refers to it in any case. -/
theorem InTurn.parse_name {ds : List Definition} {ss : List Schema} {N : Namespace} {f : FullName}
    (h : InTurn Schema.parse .empty ds ss N) (hf : f ∈ N) :
    ((∀ p : Primitive, f ≠ ⟨none, p.keyword⟩) →
      Schema.parse (Value.string f.text).text N = (.ok (.ref f), N)) ∧
    (∀ p : Primitive, f = ⟨none, p.keyword⟩ →
      Schema.parse (Value.string f.text).text N = (.ok (.primitive p), N)) ∧
    Schema.parse (Value.string f.dotted).text N = (.ok (.ref f), N) := by
  have hvalid := h.valid hf
  refine ⟨fun hk => ?_, fun p hp => ?_, ?_⟩
  · exact Schema.parse_reference (Schema.ofKeyword?_text.mpr hk) hvalid.parse_text hf
  · have htext : f.text = p.keyword := by rw [hp]; rfl
    rw [htext]
    exact Schema.parse_keyword p N
  · exact Schema.parse_reference (Schema.ofKeyword?_dotted f) (hvalid.resolve_dotted none) hf

/-- A type of the null namespace that is called `int`, and one of that name in the namespace `a`. -/
def intTypes : List Definition :=
  [⟨"bare", "\x7b\"type\":\"fixed\",\"name\":\"int\",\"size\":4\x7d"⟩,
    ⟨"spaced", "\x7b\"type\":\"record\",\"name\":\"a.R\",\"fields\":[\x7b\"name\":\"f\",\"type\":" ++
      "\x7b\"type\":\"fixed\",\"name\":\"int\",\"size\":2\x7d\x7d]\x7d"⟩]

theorem intTypes_inTurn : ∃ ss N, InTurn Schema.parse .empty intTypes ss N ∧
    ⟨none, "int"⟩ ∈ N ∧ ⟨some "a", "int"⟩ ∈ N := by
  have h : (parseInTurn Schema.parse .empty intTypes).map
      (fun o => decide (⟨none, "int"⟩ ∈ o.2 ∧ ⟨some "a", "int"⟩ ∈ o.2)) = some true := by
    decide +kernel
  obtain ⟨⟨ss, N⟩, ho, hmem⟩ := Option.map_eq_some_iff.mp h
  exact ⟨ss, N, parseInTurn_eq_some.mp ho, of_decide_eq_true hmem⟩

theorem parse_name_int : ∃ ss N, InTurn Schema.parse .empty intTypes ss N ∧
    ⟨none, "int"⟩ ∈ N ∧ ⟨some "a", "int"⟩ ∈ N ∧
    Schema.parse (Value.string "a.int").text N = (.ok (.ref ⟨some "a", "int"⟩), N) ∧
    Schema.parse (Value.string ".int").text N = (.ok (.ref ⟨none, "int"⟩), N) := by
  obtain ⟨ss, N, h, hbare, hspaced⟩ := intTypes_inTurn
  exact ⟨ss, N, h, hbare, hspaced, (h.parse_name hspaced).1 (by simp), (h.parse_name hbare).2.2⟩

/-- The text of a registered type does not refer to it when it is a keyword. -/
theorem parse_name_keyword : ∃ ss N f, InTurn Schema.parse .empty intTypes ss N ∧ f ∈ N ∧
    (Schema.parse (Value.string f.text).text N).1 = .ok (.primitive .int) := by
  obtain ⟨ss, N, h, hbare, -⟩ := intTypes_inTurn
  exact ⟨ss, N, ⟨none, "int"⟩, h, hbare, congrArg Prod.fst (Schema.parse_keyword .int N)⟩

end Resolve

end AvroLink
