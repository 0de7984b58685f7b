import Mathlib.Logic.Basic
import AvroLink.Proofs.Casing
import AvroLink.Text.Pascal

/-!
# Pascal case of a text that has it

Pascal case puts the `words` of a text together, each with a capital at its front. What comes out
has no separators, so a second time it is a single word: either it counts as Pascal case and stays,
or all its letters but the first go to lower case. So the second time changes nothing unless there
are capitals behind the first character in a text that does not start with a letter or has no
lower-case ones (`pascal_pascal_iff`), and the third time never does.
-/

namespace AvroLink.Text

/-- The words of a text: what stands between its separators. -/
def words (cs : List Char) : List (List Char) :=
  (cs.splitOnP isWordSeparator).filter (· ≠ [])

/-- A word with a capital at its front, and in lower case behind it. -/
def capitalizeWord : List Char → List Char
  | [] => []
  | c :: cs => c.toUpper :: cs.map Char.toLower

def beginsWithLetter (w : List Char) : Bool := w.head?.any Char.isAlpha

/-! ## Words -/

theorem splitOnP_cons_eq (c : Char) (cs : List Char) :
    ∃ w ws, cs.splitOnP isWordSeparator = w :: ws ∧
      (c :: cs).splitOnP isWordSeparator =
        if isWordSeparator c then [] :: w :: ws else (c :: w) :: ws := by
  rw [List.splitOnP_cons_eq_if_modifyHead]
  cases h : cs.splitOnP isWordSeparator with
  | nil => exact absurd h (List.splitOnP_ne_nil _ _)
  | cons w ws => exact ⟨w, ws, rfl, rfl⟩

/-- Capitalising goes word by word, and on in lower case when the first one has begun already. -/
theorem capitalize_eq (cs : List Char) : ∃ w ws, cs.splitOnP isWordSeparator = w :: ws ∧
    capitalize true cs = capitalizeWord w ++ ws.flatMap capitalizeWord ∧
    capitalize false cs = w.map Char.toLower ++ ws.flatMap capitalizeWord := by
  induction cs with
  | nil => exact ⟨[], [], rfl, rfl, rfl⟩
  | cons c cs ih =>
    obtain ⟨w, ws, hsplit, hcons⟩ := splitOnP_cons_eq c cs
    obtain ⟨w', ws', hsplit', htrue, hfalse⟩ := ih
    obtain ⟨rfl, rfl⟩ := List.cons.inj (hsplit.symm.trans hsplit')
    rw [hcons]
    by_cases hc : isWordSeparator c = true
    · refine ⟨[], w :: ws, if_pos hc, ?_, ?_⟩ <;>
        simp [capitalize, hc, htrue, capitalizeWord]
    · refine ⟨c :: w, ws, if_neg hc, ?_, ?_⟩ <;>
        simp [capitalize, hc, hfalse, capitalizeWord]

theorem flatMap_capitalizeWord_filter (ws : List (List Char)) :
    (ws.filter (· ≠ [])).flatMap capitalizeWord = ws.flatMap capitalizeWord := by
  induction ws with
  | nil => rfl
  | cons w ws ih => cases w <;> simp_all [capitalizeWord]

theorem capitalize_words (cs : List Char) :
    capitalize true cs = (words cs).flatMap capitalizeWord := by
  obtain ⟨w, ws, hsplit, htrue, -⟩ := capitalize_eq cs
  rw [words, flatMap_capitalizeWord_filter, hsplit, htrue, List.flatMap_cons]

theorem words_of_no_separator {cs : List Char} (h : ∀ c ∈ cs, isWordSeparator c = false) :
    words cs = [cs].filter (· ≠ []) := by
  rw [words, List.splitOnP_eq_singleton h]

theorem tail_words_of_no_separator {cs : List Char} (h : ∀ c ∈ cs, isWordSeparator c = false) :
    (words cs).tail = [] := by
  rw [words_of_no_separator h]
  cases cs <;> rfl

theorem ne_nil_of_mem_words {cs w : List Char} (h : w ∈ words cs) : w ≠ [] := by
  simpa using (List.mem_filter.mp h).2

/-! ## Characters of a text in Pascal case -/

theorem isWordSeparator_of_isAlpha {c : Char} (h : c.isAlpha = true) :
    isWordSeparator c = false := by
  rw [← Bool.not_eq_true]
  intro hs
  simp only [isWordSeparator, Bool.or_eq_true, beq_iff_eq] at hs
  rcases hs with (rfl | rfl) | rfl <;> exact absurd h (by decide)

theorem isWordSeparator_toUpper (c : Char) : isWordSeparator c.toUpper = isWordSeparator c := by
  by_cases h : c.isLower = true
  · have ha : c.isAlpha = true := by simp [isAlpha_eq, h]
    rw [isWordSeparator_of_isAlpha ha, isWordSeparator_of_isAlpha (by simpa using ha)]
  · rw [toUpper_eq_self (by simpa using h)]

theorem isWordSeparator_toLower (c : Char) : isWordSeparator c.toLower = isWordSeparator c := by
  by_cases h : c.isUpper = true
  · have ha : c.isAlpha = true := by simp [isAlpha_eq, h]
    rw [isWordSeparator_of_isAlpha ha, isWordSeparator_of_isAlpha (by simpa using ha)]
  · rw [toLower_eq_self (by simpa using h)]

theorem capitalize_no_separator (fresh : Bool) (cs : List Char) :
    ∀ c ∈ capitalize fresh cs, isWordSeparator c = false := by
  induction cs generalizing fresh with
  | nil => simp [capitalize]
  | cons d cs ih =>
    rw [capitalize]
    split
    · exact ih true
    · next hd =>
      refine List.forall_mem_cons.mpr ⟨?_, ih false⟩
      split
      · rw [isWordSeparator_toUpper]
        simpa using hd
      · rw [isWordSeparator_toLower]
        simpa using hd

theorem pascalChars_no_separator (cs : List Char) :
    ∀ c ∈ pascalChars cs, isWordSeparator c = false := by
  unfold pascalChars
  split
  · next h =>
    unfold isPascal at h
    split at h
    · cases h
    · simp only [Bool.and_eq_true, Bool.not_eq_true', List.any_eq_false] at h
      simpa using h.2
  · exact capitalize_no_separator true cs

/-! ## The second time -/

theorem pascalChars_of_no_separator {cs : List Char} (h : ∀ c ∈ cs, isWordSeparator c = false) :
    pascalChars cs = if isPascal cs then cs else capitalizeWord cs := by
  rw [pascalChars, capitalize_words, words_of_no_separator h]
  cases cs <;> simp [capitalizeWord]

theorem isPascal_cons {c : Char} {cs : List Char} (h : ∀ d ∈ c :: cs, isWordSeparator d = false) :
    isPascal (c :: cs) = true ↔ c.isUpper = true ∧ ∃ d ∈ c :: cs, d.isLower = true := by
  have hsep : (c :: cs).any isWordSeparator = false := by simpa using h
  rw [isPascal, hsep]
  simp

theorem capitalizeWord_eq_self {c : Char} {cs : List Char} (hc : c.isLower = false) :
    capitalizeWord (c :: cs) = c :: cs ↔ ∀ d ∈ cs, d.isUpper = false := by
  rw [capitalizeWord, toUpper_eq_self hc, List.cons_inj_right]
  constructor
  · intro h d hd
    rw [← h] at hd
    obtain ⟨e, -, rfl⟩ := List.mem_map.mp hd
    exact isUpper_toLower e
  · intro h
    refine (List.map_congr_left fun d hd => ?_).trans (List.map_id cs)
    exact toLower_eq_self (h d hd)

theorem capitalizeWord_no_upper (w : List Char) :
    (∀ c ∈ capitalizeWord w, c.isUpper = false) ↔ beginsWithLetter w = false := by
  cases w <;> simp [capitalizeWord, beginsWithLetter]

theorem capitalizeWord_lower (w : List Char) :
    (∃ c ∈ capitalizeWord w, c.isLower = true) ↔ ∃ c ∈ w.tail, c.isAlpha = true := by
  cases w <;> simp [capitalizeWord]

/-- Words that are put together count as Pascal case when the first one begins with a letter and
one of them goes on with a letter. -/
theorem isPascal_flatMap {w : List Char} {ws : List (List Char)} (hw : w ≠ [])
    (h : ∀ c ∈ (w :: ws).flatMap capitalizeWord, isWordSeparator c = false) :
    isPascal ((w :: ws).flatMap capitalizeWord) = true ↔
      beginsWithLetter w = true ∧ ∃ v ∈ w :: ws, ∃ c ∈ v.tail, c.isAlpha = true := by
  obtain ⟨c, cs, rfl⟩ := List.exists_cons_of_ne_nil hw
  have hlower : (∃ d ∈ ((c :: cs) :: ws).flatMap capitalizeWord, d.isLower = true) ↔
      ∃ v ∈ (c :: cs) :: ws, ∃ d ∈ v.tail, d.isAlpha = true := by
    simp only [← capitalizeWord_lower, List.mem_flatMap]
    grind
  rw [← hlower]
  rw [List.flatMap_cons, capitalizeWord, List.cons_append] at h ⊢
  rw [isPascal_cons h]
  simp [beginsWithLetter]

/-- Words that are put together are the capitalisation of a single word when no later one begins
with a letter. -/
theorem capitalizeWord_flatMap {w : List Char} {ws : List (List Char)} (hw : w ≠ []) :
    capitalizeWord ((w :: ws).flatMap capitalizeWord) = (w :: ws).flatMap capitalizeWord ↔
      ∀ v ∈ ws, beginsWithLetter v = false := by
  obtain ⟨c, cs, rfl⟩ := List.exists_cons_of_ne_nil hw
  rw [List.flatMap_cons, capitalizeWord, List.cons_append, capitalizeWord_eq_self (by simp)]
  simp only [← capitalizeWord_no_upper, List.mem_append, List.mem_flatMap]
  constructor
  · exact fun h v hv d hd => h d (.inr ⟨v, hv, hd⟩)
  · rintro h d (hd | ⟨v, hv, hd⟩)
    · obtain ⟨e, -, rfl⟩ := List.mem_map.mp hd
      exact isUpper_toLower e
    · exact h v hv d hd

theorem pascalChars_pascalChars_iff (cs : List Char) :
    pascalChars (pascalChars cs) = pascalChars cs ↔
      (∀ w ∈ (words cs).tail, beginsWithLetter w = false) ∨
      (words cs).head?.any beginsWithLetter = true ∧
        ∃ w ∈ words cs, ∃ c ∈ w.tail, c.isAlpha = true := by
  have hsep := pascalChars_no_separator cs
  by_cases hcs : isPascal cs = true
  · -- a text that stays is a single word
    have hstays : pascalChars cs = cs := if_pos hcs
    rw [hstays] at hsep ⊢
    exact iff_of_true hstays (.inl (by simp [tail_words_of_no_separator hsep]))
  · rw [pascalChars_of_no_separator hsep]
    rw [pascalChars, if_neg hcs, capitalize_words] at hsep ⊢
    cases hwords : words cs with
    | nil => simp [capitalizeWord]
    | cons w ws =>
      have hw : w ≠ [] := by
        have hmem : w ∈ words cs := by simp [hwords]
        exact ne_nil_of_mem_words hmem
      rw [hwords] at hsep
      rw [List.tail_cons, List.head?_cons, Option.any_some, ← isPascal_flatMap hw hsep]
      split
      · next h => exact iff_of_true rfl (.inr h)
      · next h =>
        rw [capitalizeWord_flatMap hw]
        exact (or_iff_left h).symm

/-- Pascal case of a text that has it is the same text exactly when no word but the first begins
with a letter, or the first word begins with a letter and some word goes on with one. The third
time never changes anything. -/
theorem pascal_pascal_iff (s : String) :
    (pascal (pascal s) = pascal s ↔
      (∀ w ∈ (words s.toList).tail, beginsWithLetter w = false) ∨
      (words s.toList).head?.any beginsWithLetter = true ∧
        ∃ w ∈ words s.toList, ∃ c ∈ w.tail, c.isAlpha = true) ∧
    pascal (pascal (pascal s)) = pascal (pascal s) := by
  have hagain : ∀ t : String, (pascal t).toList = pascalChars t.toList := fun t =>
    String.toList_ofList
  refine ⟨?_, ?_⟩
  · rw [← pascalChars_pascalChars_iff, ← String.toList_inj, hagain, hagain]
  · rw [← String.toList_inj, hagain, hagain, hagain, pascalChars_pascalChars_iff]
    exact .inl (by simp [tail_words_of_no_separator (pascalChars_no_separator _)])

/-- Two words of one letter make two capitals, which are taken for one word that is not in Pascal
case. -/
theorem pascal_two_letters : pascal "a_b" = "AB" ∧ pascal "AB" = "Ab" ∧
    pascal (pascal "a_b") ≠ pascal "a_b" := by
  decide

end AvroLink.Text
