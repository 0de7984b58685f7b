import AvroLink.Proofs.Pieces
import AvroLink.Remap

/-!
# Renamed names are valid

Both sides of every rule of a table that was read are namespaces (`Remap.Valid`), and what follows
the source of a rule in a namespace starts at a dot. So renaming a valid name gives a valid one.
-/

namespace AvroLink

theorem isNamespaceText_append {a b : List Char} :
    isNamespaceText (a ++ '.' :: b) = (isNamespaceText a && isNamespaceText b) := by
  simp [isNamespaceText, Text.pieces_append, List.all_append]

namespace Remap

/-- A table all of whose sources and targets are namespaces. -/
def Valid (r : Remap) : Prop :=
  ∀ rule ∈ r.rules, isValidNamespace rule.1 = true ∧ isValidNamespace rule.2 = true

instance (r : Remap) : Decidable r.Valid := List.decidableBAll _ r.rules

theorem mem_putRule {source target : String} {rules : List (String × String)}
    {rule : String × String} (h : rule ∈ putRule source target rules) :
    rule = (source, target) ∨ rule ∈ rules := by
  induction rules with
  | nil => exact .inl (List.mem_singleton.mp h)
  | cons r rules ih =>
    obtain ⟨s, t⟩ := r
    rw [putRule] at h
    split at h
    · rename_i hs
      rcases List.mem_cons.mp h with h | h
      · exact .inl (hs ▸ h)
      · exact .inr (List.mem_cons_of_mem _ h)
    · rcases List.mem_cons.mp h with h | h
      · exact .inr (h ▸ List.mem_cons_self)
      · exact (ih h).imp_right (List.mem_cons_of_mem _)

theorem sides_valid {entry source target : String} (h : sides entry = .ok (source, target)) :
    isValidNamespace source = true ∧ isValidNamespace target = true := by
  unfold sides at h
  split at h
  · simp only at h
    split at h
    · cases h
    · split at h
      · cases h
      · cases h
        exact ⟨by simpa using ‹¬(!isValidNamespace _) = true›, by simp_all⟩
  · cases h

theorem addEntries_valid {r r' : Remap} {entries : List String} (hr : r.Valid)
    (h : addEntries r entries = .ok r') : r'.Valid := by
  induction entries generalizing r with
  | nil =>
    cases h
    exact hr
  | cons e es ih =>
    rw [addEntries] at h
    cases hs : sides e with
    | error _ => rw [hs] at h; cases h
    | ok p =>
      obtain ⟨source, target⟩ := p
      rw [hs] at h
      refine ih (fun rule hrule => ?_) h
      rcases mem_putRule hrule with rfl | hrule
      · exact sides_valid hs
      · exact hr rule hrule

theorem parse_valid {entries : List String} {r : Remap} (h : parse entries = .ok r) : r.Valid :=
  addEntries_valid (by simp [Valid, empty]) h

theorem afterSegments_eq {front space rest : List Char}
    (h : afterSegments front space = some rest) :
    space = front ++ rest ∧ (rest = [] ∨ ∃ cs, rest = '.' :: cs) := by
  induction front generalizing space with
  | nil =>
    cases space with
    | nil => cases h; exact ⟨rfl, .inl rfl⟩
    | cons c cs =>
      simp only [afterSegments] at h
      split at h
      · rename_i hc
        cases h
        exact ⟨rfl, .inr ⟨cs, by rw [hc]⟩⟩
      · cases h
  | cons f front ih =>
    cases space with
    | nil => cases h
    | cons c cs =>
      simp only [afterSegments] at h
      split at h
      · rename_i hc
        obtain ⟨rfl, hrest⟩ := ih h
        exact ⟨by rw [hc]; rfl, hrest⟩
      · cases h

theorem best_mem {space : List Char} {rules : List (String × String)} {s t : String}
    {rest : List Char} (h : best space rules = some (s, t, rest)) :
    (s, t) ∈ rules ∧ afterSegments s.toList space = some rest := by
  induction rules generalizing s t rest with
  | nil => cases h
  | cons rule rules ih =>
    obtain ⟨s₀, t₀⟩ := rule
    rw [best] at h
    have hlater : ∀ {s t rest}, best space rules = some (s, t, rest) →
        (s, t) ∈ (s₀, t₀) :: rules ∧ afterSegments s.toList space = some rest := fun h =>
      ⟨List.mem_cons_of_mem _ (ih h).1, (ih h).2⟩
    split at h
    · exact hlater h
    · rename_i rest₀ hrest₀
      have hfirst : (s₀, t₀) ∈ (s₀, t₀) :: rules := List.mem_cons_self
      split at h
      · rename_i hb
        split at h
        · cases h
          exact ⟨hfirst, hrest₀⟩
        · cases h
          exact hlater hb
      · cases h
        exact ⟨hfirst, hrest₀⟩

theorem apply_valid {r : Remap} (hr : r.Valid) {space : String}
    (h : isValidNamespace space = true) : isValidNamespace (r.apply space) = true := by
  unfold apply
  split
  · rename_i s target rest hb
    obtain ⟨hmem, hafter⟩ := best_mem hb
    have ht := (hr _ hmem).2
    obtain ⟨hspace, rfl | ⟨cs, rfl⟩⟩ := afterSegments_eq hafter
    · simpa using ht
    · unfold isValidNamespace at h ht ⊢
      rw [hspace, isNamespaceText_append, Bool.and_eq_true] at h
      rw [String.toList_append, String.toList_ofList, isNamespaceText_append, ht, h.2]
      rfl
  · exact h

theorem applyName_name (r : Remap) (n : FullName) : (r.applyName n).name = n.name := by
  unfold applyName
  split <;> rfl

theorem applyName_valid {r : Remap} (hr : r.Valid) {n : FullName} (h : n.Valid) :
    (r.applyName n).Valid := by
  unfold applyName
  split
  · rename_i ns hns
    have hv := apply_valid hr (h.space ns hns)
    refine ⟨h.name, fun ns' hns' => ?_⟩
    cases FullName.spaceOf_eq_some hns'
    exact hv
  · exact h

end Remap

end AvroLink
