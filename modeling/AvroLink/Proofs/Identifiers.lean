import AvroLink.Proofs.Block
import AvroLink.Proofs.Casing
import AvroLink.TypeScript.Emitter

/-!
# The characters of identifiers

A `Word` is a text of letters, digits and underscores. Valid names are words, and so is every
identifier that is made of them: in Pascal case, qualified or numbered.
-/

namespace AvroLink

theorem isNameRest_ascii {c : Char} (h : isNameRest c = true) : c.toNat < 128 := by
  simp only [isNameRest, Char.isAlphanum, Text.isAlpha_eq, Bool.or_eq_true, beq_iff_eq] at h
  rcases h with ((h | h) | h) | rfl
  · exact Text.isUpper_ascii h
  · exact Text.isLower_ascii h
  · simp only [Char.isDigit, Bool.and_eq_true, decide_eq_true_eq] at h
    exact Nat.lt_of_le_of_lt h.2 (by decide)
  · decide

/-- What holds of the ASCII ones holds of all characters that names are made of. -/
theorem of_isNameRest {P : Char → Prop} (h : ∀ n : Fin 128, isNameRest (Char.ofNat n) = true →
    P (Char.ofNat n)) {c : Char} (hc : isNameRest c = true) : P c :=
  Text.of_ascii (P := fun c => isNameRest c = true → P c) h (isNameRest_ascii hc) hc

theorem isNameRest_toUpper {c : Char} (h : isNameRest c = true) : isNameRest c.toUpper = true :=
  of_isNameRest (P := fun c => isNameRest c.toUpper = true) (by decide) h

theorem isNameRest_toLower {c : Char} (h : isNameRest c = true) : isNameRest c.toLower = true :=
  of_isNameRest (P := fun c => isNameRest c.toLower = true) (by decide) h

/-- A text of letters, digits and underscores. -/
def Word (s : String) : Prop := ∀ c ∈ s.toList, isNameRest c = true

instance (s : String) : Decidable (Word s) := List.decidableBAll _ s.toList

namespace Word

variable {s t : String}

@[simp] theorem append_iff : Word (s ++ t) ↔ Word s ∧ Word t := by
  simp only [Word, String.toList_append, List.mem_append]
  exact ⟨fun h => ⟨fun c hc => h c (.inl hc), fun c hc => h c (.inr hc)⟩,
    fun h c hc => hc.elim (h.1 c) (h.2 c)⟩

theorem of_isValidName (h : isValidName s = true) : Word s := fun _ hc => isNameRest_of_mem h hc

theorem join {ss : List String} (h : ∀ s ∈ ss, Word s) : Word (String.join ss) := by
  induction ss with
  | nil => simp [Word]
  | cons s ss ih =>
    rw [String.join_cons, append_iff]
    exact ⟨h s List.mem_cons_self, ih fun t ht => h t (List.mem_cons_of_mem _ ht)⟩

theorem oneLine (h : Word s) : Text.OneLine s := Text.oneLine_of_isNameRest h

theorem space_not_mem (h : Word s) : ' ' ∉ s.toList := fun hm => absurd (h _ hm) (by decide)

theorem toString_nat (n : Nat) : Word (toString n) := by
  intro c hc
  have hd : c.isDigit = true :=
    Nat.isDigit_of_mem_toDigits (b := 10) (n := n) (by decide) (by decide) (by simpa using hc)
  simp [isNameRest, Char.isAlphanum, hd]

theorem capitalize {cs : List Char} (h : ∀ c ∈ cs, isNameRest c = true) {fresh : Bool} :
    ∀ c ∈ Text.capitalize fresh cs, isNameRest c = true := by
  induction cs generalizing fresh with
  | nil => simp [Text.capitalize]
  | cons d cs ih =>
    have hd := h d List.mem_cons_self
    have hcs := fun c hc => h c (List.mem_cons_of_mem d hc)
    rw [Text.capitalize]
    split
    · exact ih hcs
    · intro c hc
      rcases List.mem_cons.mp hc with rfl | hc
      · split
        · exact isNameRest_toUpper hd
        · exact isNameRest_toLower hd
      · exact ih hcs c hc

theorem pascal (h : Word s) : Word (Text.pascal s) := by
  unfold Text.pascal Text.pascalChars Word
  rw [String.toList_ofList]
  split
  · exact h
  · exact capitalize h

end Word

namespace TypeScript

variable {n : FullName}

theorem word_qualifiedIdentifier (h : n.Valid) : Word (qualifiedIdentifier n) := by
  rw [qualifiedIdentifier, Word.append_iff]
  refine ⟨.join fun s hs => ?_, .of_isValidName h.name⟩
  obtain ⟨t, ht, rfl⟩ := List.mem_map.mp hs
  exact (Word.of_isValidName (h.segments t ht)).pascal

theorem word_declaredIdentifier (h : n.Valid) : Word (declaredIdentifier n) := by
  have hname := Word.of_isValidName h.name
  unfold declaredIdentifier
  split
  · split
    · exact word_qualifiedIdentifier h
    · exact Word.append_iff.mpr ⟨hname, by decide⟩
  · exact hname

theorem qualifiedIdentifier_ne_empty (h : n.Valid) : qualifiedIdentifier n ≠ "" := fun he =>
  h.name_ne_empty (String.append_eq_empty_iff.mp he).2

theorem declaredIdentifier_ne_empty (h : n.Valid) : declaredIdentifier n ≠ "" := by
  unfold declaredIdentifier
  split
  · split
    · exact qualifiedIdentifier_ne_empty h
    · exact fun he => h.name_ne_empty (String.append_eq_empty_iff.mp he).1
  · exact h.name_ne_empty

theorem word_numbered {base sep : String} (hb : Word base) (hs : Word sep) (k : Nat) :
    Word (numbered base sep k) := by
  cases k with
  | zero => exact hb
  | succ k => simpa [numbered] using ⟨⟨hb, hs⟩, Word.toString_nat _⟩

theorem word_searchFree {taken : List String} {candidate : Nat → String}
    (h : ∀ k, Word (candidate k)) (fuel k : Nat) : Word (searchFree taken candidate fuel k) := by
  induction fuel generalizing k with
  | zero => exact h k
  | succ fuel ih =>
    rw [searchFree]
    split
    · exact ih (k + 1)
    · exact h k

theorem word_firstFree {taken : List String} {candidate : Nat → String}
    (h : ∀ k, Word (candidate k)) : Word (firstFree taken candidate) := word_searchFree h _ _

end TypeScript

end AvroLink
