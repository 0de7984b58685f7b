import AvroLink.Proofs.Spelling

/-!
# Which texts are names

`Cut enclosing text space simple` says how a text is taken inside a namespace: the last dot ends a
namespace of its own, and a text without a dot is a simple name of the namespace around it. A text
denotes a name exactly when both parts follow the rules. The name is read back from its text, and a
text that is read as a name is the text of that name, but for a dot in front of a name of the null
namespace.
-/

namespace AvroLink

namespace Text

variable {sep : Char} {cs a b : List Char}

theorem cutLast_eq_some_iff : cutLast sep cs = some (a, b) ↔ cs = a ++ sep :: b ∧ sep ∉ b := by
  constructor
  · intro h
    induction cs generalizing a with
    | nil => cases h
    | cons c cs ih =>
      rw [cutLast] at h
      split at h
      · next hcs =>
        cases h
        obtain ⟨rfl, hb⟩ := ih hcs
        exact ⟨rfl, hb⟩
      · next hcs =>
        split at h
        · next hc =>
          cases h
          exact ⟨by rw [hc, List.nil_append], cutLast_eq_none.mp hcs⟩
        · cases h
  · rintro ⟨rfl, hb⟩
    exact cutLast_append hb

end Text

namespace FullName

variable {enclosing space : Option String} {text simple : String} {n : FullName}

/-- How a text is taken inside the namespace `enclosing`: as which namespace and which simple
name. -/
inductive Cut (enclosing : Option String) : String → Option String → String → Prop
  | dotted {ns simple : String} (h : '.' ∉ simple.toList) :
    Cut enclosing (ns ++ "." ++ simple) (some ns) simple
  | plain {simple : String} (h : '.' ∉ simple.toList) : Cut enclosing simple enclosing simple

/-- Every text is taken in one way only. -/
theorem cut_iff : Cut enclosing text space simple ↔ parts text enclosing = (space, simple) := by
  unfold parts
  constructor
  · rintro (@⟨ns, _, h⟩ | h)
    · have hcut : Text.cutLast '.' (ns ++ "." ++ simple).toList = some (ns.toList, simple.toList) :=
        Text.cutLast_eq_some_iff.mpr ⟨by simp, h⟩
      simp only [hcut, String.ofList_toList]
    · simp only [Text.cutLast_eq_none.mpr h]
  · intro h
    split at h
    · next a b hcut =>
      cases h
      obtain ⟨htext, hb⟩ := Text.cutLast_eq_some_iff.mp hcut
      have hdotted : text = String.ofList a ++ "." ++ String.ofList b :=
        String.toList_inj.mp (by simp [htext])
      rw [hdotted]
      exact .dotted (by simpa using hb)
    · next hcut =>
      cases h
      exact .plain (Text.cutLast_eq_none.mp hcut)

/-- An empty namespace counts as none, and any other one has to be valid. -/
def SpaceAllowed (space : Option String) : Prop :=
  ∀ ns, space = some ns → ns = "" ∨ isValidNamespace ns = true

theorem spaceOf_cases (space : Option String) :
    (spaceOf space = none ∧ (space = none ∨ space = some "")) ∨
      ∃ ns, ns ≠ "" ∧ space = some ns ∧ spaceOf space = some ns := by
  match space with
  | none => exact .inl ⟨rfl, .inl rfl⟩
  | some ns =>
    by_cases h : ns = ""
    · subst h
      exact .inl ⟨rfl, .inr rfl⟩
    · refine .inr ⟨ns, h, rfl, ?_⟩
      unfold spaceOf
      split
      · next he => exact absurd (Option.some.inj he) h
      · rfl

theorem spaceAllowed_iff :
    SpaceAllowed space ↔ ∀ ns, spaceOf space = some ns → isValidNamespace ns = true := by
  rcases spaceOf_cases space with ⟨hnone, rfl | rfl⟩ | ⟨ns, hne, rfl, hsome⟩
  · simp [SpaceAllowed, hnone]
  · simp [SpaceAllowed, hnone]
  · simp [SpaceAllowed, hsome, hne]

theorem resolve_eq_ok_iff : resolve text enclosing = .ok n ↔
    ∃ space simple, Cut enclosing text space simple ∧ isValidName simple = true ∧
      SpaceAllowed space ∧ n = ⟨spaceOf space, simple⟩ := by
  constructor
  · intro h
    obtain ⟨hv, hn⟩ := resolve_ok h
    refine ⟨_, _, cut_iff.mpr rfl, ?_, ?_, hn⟩
    · rw [hn] at hv
      exact hv.name
    · rw [hn] at hv
      exact spaceAllowed_iff.mpr hv.space
  · rintro ⟨space, simple, hcut, hname, hspace, rfl⟩
    have hparts := cut_iff.mp hcut
    have hvalid : Valid ⟨spaceOf space, simple⟩ := ⟨hname, spaceAllowed_iff.mp hspace⟩
    refine hvalid.resolve_parts ?_ (by rw [hparts]) (by rw [hparts])
    rintro rfl
    cases hparts
    cases hname

/-- A text that is read as a name is its text, or that text with a dot in front. -/
theorem text_of_parse (h : parse text = .ok n) :
    text = n.text ∨ text = "." ++ n.text ∧ n.space = none := by
  obtain ⟨space, simple, hcut, -, -, rfl⟩ := resolve_eq_ok_iff.mp h
  cases hcut with
  | plain => exact .inl rfl
  | @dotted ns simple _ =>
    rcases spaceOf_cases (some ns) with ⟨hnone, hns | hns⟩ | ⟨ns', -, hns, hsome⟩
    · cases hns
    · cases hns
      exact .inr ⟨rfl, rfl⟩
    · cases hns
      exact .inl (by simp [FullName.text, hsome])

/-- Names and texts go together: which texts denote a name, that the name is read back from its
text and told from all others by it, and which texts are read as one name. -/
theorem resolve_round_trip (text : String) (enclosing : Option String) :
    ((∃ n, resolve text enclosing = .ok n) ↔
      ∃ space simple, Cut enclosing text space simple ∧ isValidName simple = true ∧
        SpaceAllowed space) ∧
    (∀ n, resolve text enclosing = .ok n → parse n.text = .ok n ∧
      ∀ text' enclosing' m, resolve text' enclosing' = .ok m → m.text = n.text → m = n) ∧
    ∀ n, parse text = .ok n → text = n.text ∨ text = "." ++ n.text ∧ n.space = none := by
  refine ⟨⟨?_, ?_⟩, fun n h => ?_, fun n => text_of_parse⟩
  · rintro ⟨n, h⟩
    obtain ⟨space, simple, hcut, hname, hspace, -⟩ := resolve_eq_ok_iff.mp h
    exact ⟨space, simple, hcut, hname, hspace⟩
  · rintro ⟨space, simple, hcut, hname, hspace⟩
    exact ⟨_, resolve_eq_ok_iff.mpr ⟨space, simple, hcut, hname, hspace, rfl⟩⟩
  · have hv := resolve_valid h
    exact ⟨hv.parse_text, fun _ _ m hm ht => text_inj (resolve_valid hm) hv ht⟩

/-- A dot in front leads out of the namespace around a name, and is not kept. -/
theorem resolve_round_trip_leading_dot : ∃ n m,
    resolve ".Foo" (some "a.b") = .ok n ∧ parse n.text = .ok n ∧ ".Foo" = "." ++ n.text ∧
      n.space = none ∧ resolve "Foo" (some "a.b") = .ok m ∧ parse m.text = .ok m ∧
      m.text = "a.b.Foo" := by
  have hbare : resolve ".Foo" (some "a.b") = .ok ⟨none, "Foo"⟩ := ok_of_toOption (by decide +kernel)
  have hread : parse ".Foo" = .ok ⟨none, "Foo"⟩ := ok_of_toOption (by decide +kernel)
  have hinner : resolve "Foo" (some "a.b") = .ok ⟨some "a.b", "Foo"⟩ :=
    ok_of_toOption (by decide +kernel)
  obtain ⟨-, hback, htext⟩ := resolve_round_trip ".Foo" (some "a.b")
  have hdot := (htext _ hread).resolve_left (by decide)
  exact ⟨_, _, hbare, (hback _ hbare).1, hdot.1, hdot.2, hinner,
    ((resolve_round_trip "Foo" (some "a.b")).2.1 _ hinner).1, rfl⟩

end FullName

end AvroLink
