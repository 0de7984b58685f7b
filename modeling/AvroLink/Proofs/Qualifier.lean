import AvroLink.Proofs.LocalNames

/-!
# What stands before a qualified name

A qualified identifier is the namespace in Pascal case and the simple name behind it. Pascal case
drops underscores: the identifier starts with the first letter or digit of the namespace (`lead?`),
if there is one, and otherwise is the simple name alone. So a namespace of underscores does not keep
a declared type from shadowing a global one, and one whose first letter or digit is a digit makes an
identifier that is none.
-/

namespace AvroLink

namespace Text

theorem head?_capitalize (cs : List Char) :
    (capitalize true cs).head? = (cs.find? fun c => !isWordSeparator c).map Char.toUpper := by
  induction cs with
  | nil => rfl
  | cons c cs ih =>
    rw [capitalize]
    by_cases hc : isWordSeparator c = true
    · rw [if_pos hc, ih, List.find?_cons_of_neg (by simp [hc])]
    · rw [if_neg hc, List.find?_cons_of_pos (by simpa using hc)]
      rfl

theorem head?_pascal (s : String) :
    (pascal s).toList.head? = (s.toList.find? fun c => !isWordSeparator c).map Char.toUpper := by
  rw [pascal, String.toList_ofList, pascalChars]
  split
  · next h =>
    cases hs : s.toList with
    | nil => rfl
    | cons c cs =>
      rw [hs] at h
      simp only [isPascal, Bool.and_eq_true] at h
      obtain ⟨⟨hu, -⟩, hsep⟩ := h
      have hc : isWordSeparator c = false := by simp at hsep; exact hsep.1
      rw [List.find?_cons_of_pos (by simp [hc]), List.head?_cons, Option.map_some,
        toUpper_eq_self (isLower_of_isUpper hu)]
  · exact head?_capitalize _

theorem head?_join_pascal (ss : List String) :
    (String.join (ss.map pascal)).toList.head? =
      ((ss.flatMap String.toList).find? fun c => !isWordSeparator c).map Char.toUpper := by
  induction ss with
  | nil => rfl
  | cons s ss ih =>
    rw [List.map_cons, String.join_cons, String.toList_append, List.head?_append, head?_pascal, ih,
      List.flatMap_cons, List.find?_append, Option.map_or]

end Text

theorem isValidName_iff {s : String} :
    isValidName s = true ↔ Word s ∧ s.toList.head?.any isNameStart = true := by
  unfold isValidName Word
  cases s.toList with
  | nil => simp [isNameText]
  | cons c cs =>
    simp only [isNameText, Bool.and_eq_true, List.all_eq_true, List.forall_mem_cons,
      List.head?_cons, Option.any_some]
    exact ⟨fun h => ⟨⟨isNameRest_of_isNameStart h.1, h.2⟩, h.1⟩, fun h => ⟨h.2, h.1.2⟩⟩

theorem isNameStart_toUpper {c : Char} (h : isNameRest c = true) (hc : c ≠ '_') :
    isNameStart c.toUpper = !c.isDigit :=
  of_isNameRest (P := fun c => c ≠ '_' → isNameStart c.toUpper = !c.isDigit) (by decide) h hc

namespace FullName

/-- The first letter or digit of the namespace. -/
def lead? (n : FullName) : Option Char :=
  (n.segments.flatMap String.toList).find? fun c => !Text.isWordSeparator c

theorem lead?_eq_none {n : FullName} :
    n.lead? = none ↔ ∀ s ∈ n.segments, ∀ c ∈ s.toList, Text.isWordSeparator c = true := by
  simp only [lead?, List.find?_eq_none, List.mem_flatMap]
  grind

theorem lead?_of_space {n : FullName} (h : n.space = none) : n.lead? = none := by
  rw [lead?, segments, h]
  rfl

theorem Valid.lead {n : FullName} (h : n.Valid) {c : Char} (hc : n.lead? = some c) :
    isNameRest c = true ∧ c ≠ '_' := by
  have hsep := List.find?_some hc
  obtain ⟨s, hs, hm⟩ := List.mem_flatMap.mp (List.mem_of_find?_eq_some hc)
  refine ⟨isNameRest_of_mem (h.segments s hs) hm, ?_⟩
  rintro rfl
  exact absurd hsep (by decide)

end FullName

namespace TypeScript

variable {n t : FullName} {l : String}

theorem head?_qualifiedIdentifier (n : FullName) : (qualifiedIdentifier n).toList.head? =
    (n.lead?.map Char.toUpper).or n.name.toList.head? := by
  rw [qualifiedIdentifier, String.toList_append, List.head?_append, Text.head?_join_pascal]
  rfl

/-- Without letters or digits the namespace leaves no trace. -/
theorem qualifier_eq_empty : String.join (n.segments.map Text.pascal) = "" ↔ n.lead? = none := by
  rw [← String.toList_inj, String.toList_empty, ← List.head?_eq_none_iff, Text.head?_join_pascal,
    Option.map_eq_none_iff]
  rfl

/-! ## Global types -/

/-- A qualified global name is global only when nothing stands before it. -/
theorem qualifiedIdentifier_mem_globals (h : n.name ∈ globals) :
    qualifiedIdentifier n ∈ globals ↔ n.lead? = none := by
  -- no global name ends in another one, so what stands before it would have to be empty
  have hsuffix : ∀ a ∈ globals, ∀ b ∈ globals, a.toList <:+ b.toList → a = b := by decide
  rw [← qualifier_eq_empty, qualifiedIdentifier]
  generalize String.join (n.segments.map Text.pascal) = qualifier
  constructor
  · intro hm
    have he := hsuffix _ h _ hm (by simp)
    simpa using congrArg String.toList he
  · rintro rfl
    simpa using h

/-- A type is declared under the name of a global one exactly when it has this name itself, in a
namespace without letters and digits. -/
theorem declaredIdentifier_mem_globals_iff : declaredIdentifier n ∈ globals ↔
    n.name ∈ globals ∧ n.space ≠ none ∧
      ∀ s ∈ n.segments, ∀ c ∈ s.toList, Text.isWordSeparator c = true := by
  rw [← FullName.lead?_eq_none]
  by_cases hn : n.name ∈ globals
  · rw [declaredIdentifier, if_pos hn]
    cases hs : n.space with
    | none =>
      have htype : ∀ a ∈ globals, a ++ "Type" ∉ globals := by decide
      simpa using htype _ hn
    | some ns => simpa [hn] using qualifiedIdentifier_mem_globals hn
  · rw [declaredIdentifier, if_neg hn]
    simp [hn]

/-- A record named `Record` in a namespace of underscores shadows the type that its map field is
given. -/
theorem emit_record_shadowed :
    isValidNamespace "_" = true ∧ declaredIdentifier ⟨some "_", "Record"⟩ = "Record" ∧
    (emit .default .empty ⟨some "_", "Record"⟩ (.record ⟨⟨some "_", "Record"⟩, none, []⟩
      [⟨"m", none, .map (.primitive .string), none⟩])).contents =
        "export interface Record \x7b\n  m: Record<string, string>;\n\x7d\n" := by
  decide +kernel

/-! ## Valid identifiers -/

theorem head?_numbered {base : String} (h : base ≠ "") (separator : String) (k : Nat) :
    (numbered base separator k).toList.head? = base.toList.head? := by
  cases k with
  | zero => rfl
  | succ k =>
    rw [toList_numbered_succ, List.head?_append]
    cases hb : base.toList with
    | nil => exact absurd (String.toList_eq_nil_iff.mp hb) h
    | cons c cs => rfl

/-- A qualified name, numbered or not, is valid unless the namespace leads with a digit. -/
theorem isValidName_numbered (hn : n.Valid) (k : Nat) :
    isValidName (numbered (qualifiedIdentifier n) "" k) = true ↔
      n.lead?.any Char.isDigit = false := by
  have hword : Word (numbered (qualifiedIdentifier n) "" k) :=
    word_numbered (word_qualifiedIdentifier hn) (by decide) k
  rw [isValidName_iff, head?_numbered (qualifiedIdentifier_ne_empty hn), head?_qualifiedIdentifier]
  cases hc : n.lead? with
  | none => simp [hword, (isValidName_iff.mp hn.name).2]
  | some c =>
    obtain ⟨hrest, hline⟩ := hn.lead hc
    simp [hword, isNameStart_toUpper hrest hline]

theorem isValidName_append {s t : String} (hs : isValidName s = true) (ht : Word t) :
    isValidName (s ++ t) = true := by
  obtain ⟨hword, hhead⟩ := isValidName_iff.mp hs
  refine isValidName_iff.mpr ⟨Word.append_iff.mpr ⟨hword, ht⟩, ?_⟩
  rw [String.toList_append, List.head?_append]
  cases hc : s.toList.head? with
  | none => simp [hc] at hhead
  | some c => simpa [hc] using hhead

/-- An identifier that a type may be mentioned under is valid unless it is a qualified name whose
namespace leads with a digit. -/
theorem Spells.isValidName_iff (ht : t.Valid) (h : Spells t l) :
    isValidName l = true ↔ l = t.name ∨ t.lead?.any Char.isDigit = false := by
  -- a qualified name may be the simple one, which is then valid and has no digit before it
  have hqualified : ∀ k, l = numbered (qualifiedIdentifier t) "" k →
      (isValidName l = true ↔ l = t.name ∨ t.lead?.any Char.isDigit = false) := by
    rintro k rfl
    rw [isValidName_numbered ht k]
    refine ⟨.inr, fun hor => hor.elim (fun he => ?_) id⟩
    exact (isValidName_numbered ht k).mp (he ▸ ht.name)
  rcases h with h | ⟨k, h⟩
  · unfold declaredIdentifier at h
    split at h
    · split at h
      · exact hqualified 0 h
      · next hspace =>
        rw [h]
        exact iff_of_true (isValidName_append ht.name (by decide))
          (.inr (by rw [FullName.lead?_of_space hspace]; rfl))
    · rw [h]
      exact iff_of_true ht.name (.inl rfl)
  · exact hqualified k h

/-- Of the identifiers in a file, that of the declared type and those of the types mentioned in it,
among which are the imported ones, exactly those are not valid that are qualified names whose
namespace leads with a digit. -/
theorem refer_isValidName_iff {remap : Remap} {self : FullName} {targets : List FullName}
    (hr : remap.Valid) (hself : self.Valid) (ht : ∀ t ∈ targets, t.Valid) :
    (isValidName (declaredIdentifier self) = true ↔
      declaredIdentifier self = self.name ∨ self.lead?.any Char.isDigit = false) ∧
    ∃ ids sc, targets.mapM (refer remap) (Scope.empty self) = (ids, sc) ∧
      ids.length = targets.length ∧
      (∀ a ∈ (targets.map remap.applyName).zip ids,
        (isValidName a.2 = true ↔ a.2 = a.1.name ∨ a.1.lead?.any Char.isDigit = false)) ∧
      ∀ i ∈ sc.imports, ∃ a ∈ (targets.map remap.applyName).zip ids, i.localName = a.2 := by
  refine ⟨Spells.isValidName_iff hself (.inl rfl), ?_⟩
  obtain ⟨ids, sc, hrun, hlen, hsc, hlinks⟩ := refer_mapM remap (.empty self) targets
  refine ⟨ids, sc, hrun, hlen, fun a ha => ?_, fun i hi => ?_⟩
  · have hvalid : a.1.Valid := by
      obtain ⟨t, hm, he⟩ := List.mem_map.mp (List.of_mem_zip ha).1
      exact he ▸ Remap.applyName_valid hr (ht t hm)
    refine Spells.isValidName_iff hvalid ?_
    rcases hlinks.calls a ha with ⟨hself, hl⟩ | hm
    · exact .inl (by rw [hl, hself])
    · exact hsc.spells _ hm
  · obtain ⟨a, ha, -, rfl⟩ := importOf_of_mem hsc hlinks hi
    exact ⟨a, ha, rfl⟩

/-- In the file of `a.Foo`, a type of another namespace that is called `Foo` is qualified. Its
identifier is not valid when the namespace leads with a digit. -/
theorem refer_isValidName_foo :
    ([⟨some "_1", "Foo"⟩, ⟨some "b", "Bar"⟩].mapM (refer ⟨[("b", "_2")]⟩)
      (.empty ⟨some "a", "Foo"⟩)).1 = ["1Foo", "Bar"] ∧
    isValidName "1Foo" = false ∧ isValidName "Bar" = true := by
  have hids : ([⟨some "_1", "Foo"⟩, ⟨some "b", "Bar"⟩].mapM (refer ⟨[("b", "_2")]⟩)
      (.empty ⟨some "a", "Foo"⟩)).1 = ["1Foo", "Bar"] := by decide +kernel
  have hremap : ([⟨some "_1", "Foo"⟩, ⟨some "b", "Bar"⟩] : List FullName).map
      (Remap.applyName ⟨[("b", "_2")]⟩) = [⟨some "_1", "Foo"⟩, ⟨some "_2", "Bar"⟩] := by
    decide +kernel
  obtain ⟨ids, sc, hrun, -, h, -⟩ := (@refer_isValidName_iff ⟨[("b", "_2")]⟩ ⟨some "a", "Foo"⟩
    [⟨some "_1", "Foo"⟩, ⟨some "b", "Bar"⟩] (by decide) (by decide) (by decide)).2
  obtain rfl : ids = ["1Foo", "Bar"] := by rw [← hids, hrun]
  rw [hremap] at h
  refine ⟨hids, ?_, (h (⟨some "_2", "Bar"⟩, "Bar") (by simp)).mpr (.inl rfl)⟩
  exact Bool.eq_false_iff.mpr fun hv =>
    absurd ((h (⟨some "_1", "Foo"⟩, "1Foo") (by simp)).mp hv) (by decide)

/-- In the namespace `_1` a global name is declared under an identifier that starts with a digit, and
a type whose simple name is taken is imported under such a one. -/
theorem refer_digit_first :
    isValidNamespace "_1" = true ∧
    declaredIdentifier ⟨some "_1", "Record"⟩ = "1Record" ∧ isValidName "1Record" = false ∧
    (refer .empty ⟨some "_1", "Foo"⟩ (.empty ⟨some "a", "Foo"⟩)).1 = "1Foo" ∧
      isValidName "1Foo" = false := by
  decide +kernel

end TypeScript

end AvroLink
