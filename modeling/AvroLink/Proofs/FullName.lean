import AvroLink.Name

/-!
# Full names and their texts

`FullName.Valid n` says that the simple name and the namespace of `n` follow the naming rules. Every
name that `resolve` gives is valid, and a valid name is determined by its text: the last dot ends
the namespace.
-/

namespace AvroLink

namespace Text

variable {sep : Char}

theorem cutLast_eq_none {cs : List Char} : cutLast sep cs = none ↔ sep ∉ cs := by
  induction cs with
  | nil => simp [cutLast]
  | cons c cs ih =>
    simp only [cutLast, List.mem_cons, not_or]
    cases h : cutLast sep cs with
    | some p =>
      have hm : sep ∈ cs := by simpa [h] using ih
      simp [hm]
    | none =>
      have hn := ih.mp h
      by_cases hc : c = sep
      · simp [hc]
      · simp [hc, hn, Ne.symm hc]

theorem cutLast_append {a b : List Char} (h : sep ∉ b) :
    cutLast sep (a ++ sep :: b) = some (a, b) := by
  induction a with
  | nil => simp [cutLast, cutLast_eq_none.mpr h]
  | cons c a ih => simp [cutLast, ih]

end Text

theorem isNameRest_of_isNameStart {c : Char} (h : isNameStart c = true) : isNameRest c = true := by
  simp only [isNameStart, isNameRest, Char.isAlphanum, Bool.or_eq_true] at h ⊢
  rcases h with h | h
  · exact .inl (.inl h)
  · exact .inr h

theorem isNameRest_of_mem {cs : List Char} (h : isNameText cs = true) {c : Char} (hc : c ∈ cs) :
    isNameRest c = true := by
  cases cs with
  | nil => cases hc
  | cons d cs =>
    simp only [isNameText, Bool.and_eq_true, List.all_eq_true] at h
    rcases List.mem_cons.mp hc with rfl | hc
    · exact isNameRest_of_isNameStart h.1
    · exact h.2 c hc

theorem not_mem_of_isNameText {cs : List Char} (h : isNameText cs = true) {c : Char}
    (hc : isNameRest c = false) : c ∉ cs := by
  intro hm
  rw [isNameRest_of_mem h hm] at hc
  cases hc

namespace FullName

/-- A name whose parts follow the naming rules. -/
structure Valid (n : FullName) : Prop where
  name : isValidName n.name = true
  space : ∀ ns, n.space = some ns → isValidNamespace ns = true

instance (n : FullName) : Decidable n.Valid :=
  decidable_of_iff (isValidName n.name = true ∧ ∀ ns ∈ n.space, isValidNamespace ns = true)
    ⟨fun h => ⟨h.1, h.2⟩, fun h => ⟨h.name, h.space⟩⟩

theorem Valid.dot_not_mem {n : FullName} (h : n.Valid) : '.' ∉ n.name.toList :=
  not_mem_of_isNameText h.name rfl

theorem Valid.name_ne_empty {n : FullName} (h : n.Valid) : n.name ≠ "" := by
  intro he
  have hv := h.name
  rw [he] at hv
  cases hv

theorem spaceOf_eq_some {s : Option String} {ns : String} (h : spaceOf s = some ns) :
    s = some ns := by
  unfold spaceOf at h
  split at h
  · cases h
  · exact h

/-- What a text is cut into before it is checked. -/
def parts (text : String) (enclosing : Option String) : Option String × String :=
  match Text.cutLast '.' text.toList with
  | some (ns, simple) => (some (String.ofList ns), String.ofList simple)
  | none => (enclosing, text)

theorem resolve_eq (text : String) (enclosing : Option String) :
    resolve text enclosing =
      if text = "" then .error .empty
      else if isValidName (parts text enclosing).2 then
        match spaceOf (parts text enclosing).1 with
        | none => .ok ⟨none, (parts text enclosing).2⟩
        | some ns =>
          if isValidNamespace ns then .ok ⟨some ns, (parts text enclosing).2⟩
          else .error (.invalidNamespace ns)
      else .error (.invalidName text) := rfl

theorem resolve_ok {text : String} {enclosing : Option String} {n : FullName}
    (h : resolve text enclosing = .ok n) :
    n.Valid ∧ n = ⟨spaceOf (parts text enclosing).1, (parts text enclosing).2⟩ := by
  rw [resolve_eq] at h
  generalize parts text enclosing = p at h ⊢
  split at h
  · cases h
  · split at h
    · rename_i hv
      split at h
      · rename_i hs
        cases h
        exact ⟨⟨hv, fun _ h => by cases h⟩, by rw [hs]⟩
      · rename_i ns hs
        split at h
        · rename_i hns
          cases h
          exact ⟨⟨hv, fun _ h => by cases h; exact hns⟩, by rw [hs]⟩
        · cases h
    · cases h

theorem resolve_valid {text : String} {enclosing : Option String} {n : FullName}
    (h : resolve text enclosing = .ok n) : n.Valid := (resolve_ok h).1

theorem resolve_simple {text : String} {enclosing : Option String} {n : FullName}
    (hd : '.' ∉ text.toList) (h : resolve text enclosing = .ok n) :
    n = ⟨spaceOf enclosing, text⟩ := by
  rw [(resolve_ok h).2, parts, Text.cutLast_eq_none.mpr hd]

theorem parse_simple {text : String} {enclosing : Option String} {n : FullName}
    (hd : '.' ∉ text.toList) (h : resolve text enclosing = .ok n) :
    parse text = .ok ⟨none, text⟩ := by
  have hv := (resolve_valid h).name
  rw [resolve_simple hd h] at hv
  have hc := Text.cutLast_eq_none.mpr hd
  have hne : text ≠ "" := by
    rintro rfl
    simp [isValidName, isNameText] at hv
  simp [parse, resolve, hc, hne, hv, spaceOf]

theorem toList_text (n : FullName) :
    n.text.toList = match n.space with
      | some ns => ns.toList ++ '.' :: n.name.toList
      | none => n.name.toList := by
  unfold text
  cases n.space <;> simp

/-- Names with different texts differ, and for valid ones the converse holds. -/
theorem text_inj {n m : FullName} (hn : n.Valid) (hm : m.Valid) (h : n.text = m.text) : n = m := by
  obtain ⟨a, x⟩ := n
  obtain ⟨b, y⟩ := m
  have hx : '.' ∉ x.toList := hn.dot_not_mem
  have hy : '.' ∉ y.toList := hm.dot_not_mem
  have hl := congrArg String.toList h
  rw [toList_text, toList_text] at hl
  have hcut := congrArg (Text.cutLast '.') hl
  cases a with
  | none =>
    cases b with
    | none =>
      simp only at hl
      rw [String.toList_inj.mp hl]
    | some b => simp [Text.cutLast_append hy, Text.cutLast_eq_none.mpr hx] at hcut
  | some a =>
    cases b with
    | none => simp [Text.cutLast_append hx, Text.cutLast_eq_none.mpr hy] at hcut
    | some b =>
      simp only [Text.cutLast_append hx, Text.cutLast_append hy, Option.some.injEq,
        Prod.mk.injEq] at hcut
      rw [String.toList_inj.mp hcut.1, String.toList_inj.mp hcut.2]

end FullName

end AvroLink
