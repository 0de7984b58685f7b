/-!
# Upper and lower case

Only the letters of ASCII change case. What holds of the characters of ASCII can be checked one by
one (`of_ascii`), and a character that is neither an upper-case nor a lower-case letter stays as it
is.
-/

namespace AvroLink.Text

variable {c : Char}

theorem of_ascii {P : Char → Prop} (h : ∀ n : Fin 128, P (Char.ofNat n)) (hc : c.toNat < 128) :
    P c := by
  have := h ⟨c.toNat, hc⟩
  rwa [Char.ofNat_toNat] at this

theorem isUpper_iff : c.isUpper = true ↔ 'A'.val ≤ c.val ∧ c.val ≤ 'Z'.val := decide_eq_true_iff

theorem isLower_iff : c.isLower = true ↔ 'a'.val ≤ c.val ∧ c.val ≤ 'z'.val := by
  change (decide ('a'.val ≤ c.val) && decide (c.val ≤ 'z'.val)) = true ↔ _
  rw [Bool.and_eq_true, decide_eq_true_iff, decide_eq_true_iff]

theorem isAlpha_eq (c : Char) : c.isAlpha = (c.isUpper || c.isLower) := rfl

theorem isUpper_ascii (h : c.isUpper = true) : c.toNat < 128 :=
  Nat.lt_of_le_of_lt (isUpper_iff.mp h).2 (by decide)

theorem isLower_ascii (h : c.isLower = true) : c.toNat < 128 :=
  Nat.lt_of_le_of_lt (isLower_iff.mp h).2 (by decide)

theorem isLower_of_isUpper (h : c.isUpper = true) : c.isLower = false :=
  of_ascii (P := fun c => c.isUpper = true → c.isLower = false) (by decide) (isUpper_ascii h) h

theorem toUpper_eq_self (h : c.isLower = false) : c.toUpper = c :=
  dif_neg fun hc => by
    rw [isLower_iff.mpr hc] at h
    cases h

theorem toLower_eq_self (h : c.isUpper = false) : c.toLower = c :=
  dif_neg fun hc => by
    rw [isUpper_iff.mpr hc] at h
    cases h

/-- What holds of ASCII and of the characters without case holds of all. -/
theorem of_cases {P : Char → Prop} (ascii : ∀ n : Fin 128, P (Char.ofNat n))
    (other : ∀ c : Char, c.isUpper = false → c.isLower = false → P c) (c : Char) : P c := by
  by_cases hu : c.isUpper = true
  · exact of_ascii ascii (isUpper_ascii hu)
  · by_cases hl : c.isLower = true
    · exact of_ascii ascii (isLower_ascii hl)
    · exact other c (by simpa using hu) (by simpa using hl)

@[simp] theorem isUpper_toUpper (c : Char) : c.toUpper.isUpper = c.isAlpha :=
  of_cases (P := fun c => c.toUpper.isUpper = c.isAlpha) (by decide)
    (fun c hu hl => by rw [toUpper_eq_self hl, isAlpha_eq, hu, hl]; rfl) c

@[simp] theorem isLower_toUpper (c : Char) : c.toUpper.isLower = false :=
  of_cases (P := fun c => c.toUpper.isLower = false) (by decide)
    (fun c _ hl => by rw [toUpper_eq_self hl, hl]) c

@[simp] theorem isUpper_toLower (c : Char) : c.toLower.isUpper = false :=
  of_cases (P := fun c => c.toLower.isUpper = false) (by decide)
    (fun c hu _ => by rw [toLower_eq_self hu, hu]) c

@[simp] theorem isLower_toLower (c : Char) : c.toLower.isLower = c.isAlpha :=
  of_cases (P := fun c => c.toLower.isLower = c.isAlpha) (by decide)
    (fun c hu hl => by rw [toLower_eq_self hu, isAlpha_eq, hu, hl]; rfl) c

@[simp] theorem isAlpha_toUpper (c : Char) : c.toUpper.isAlpha = c.isAlpha := by
  rw [isAlpha_eq, isUpper_toUpper, isLower_toUpper, Bool.or_false]

@[simp] theorem isAlpha_toLower (c : Char) : c.toLower.isAlpha = c.isAlpha := by
  rw [isAlpha_eq, isUpper_toLower, isLower_toLower, Bool.false_or]

end AvroLink.Text
