import AvroLink.Proofs.LiteralValue
import AvroLink.Proofs.Pieces
import AvroLink.Text.Lines
import AvroLink.TypeScript.Comment

/-!
# Texts made of whole lines

`Block P s` says that `s` consists of lines that have the property `P`, each with its newline. Doc
comments are blocks whatever the texts in them are.
-/

namespace AvroLink

namespace Text

variable {P : List Char → Prop} {s t : String}

/-- A text without a newline. -/
def OneLine (s : String) : Prop := '\n' ∉ s.toList

instance (s : String) : Decidable (OneLine s) := inferInstanceAs (Decidable (_ ∉ _))

@[simp] theorem oneLine_append : OneLine (s ++ t) ↔ OneLine s ∧ OneLine t := by
  simp [OneLine]

theorem oneLine_joinWith {sep : String} {ss : List String} (hsep : OneLine sep)
    (h : ∀ s ∈ ss, OneLine s) : OneLine (joinWith sep ss) := by
  induction ss with
  | nil => simp [joinWith, OneLine]
  | cons s ss ih =>
    have hs := h s List.mem_cons_self
    have ht := ih fun t ht => h t (List.mem_cons_of_mem _ ht)
    cases ss with
    | nil => exact hs
    | cons t ss =>
      rw [joinWith_cons (by simp)]
      simp only [oneLine_append]
      exact ⟨⟨hs, hsep⟩, ht⟩

theorem oneLine_of_isNameRest (h : ∀ c ∈ s.toList, isNameRest c = true) : OneLine s :=
  fun hm => absurd (h _ hm) (by decide)

theorem oneLine_of_isValidName (h : isValidName s = true) : OneLine s :=
  oneLine_of_isNameRest fun _ hc => isNameRest_of_mem h hc

theorem oneLine_literal (s : String) : OneLine (literal s) := by
  simp [OneLine, literal, (lineEnd_not_mem_escape s.toList).1]

/-- Lines, each with its newline. -/
def ofLines (ls : List (List Char)) : List Char := ls.flatMap (· ++ ['\n'])

theorem pieces_ofLines {ls : List (List Char)} (h : ∀ l ∈ ls, '\n' ∉ l) (cs : List Char) :
    pieces '\n' (ofLines ls ++ cs) = ls ++ pieces '\n' cs := by
  induction ls with
  | nil => rfl
  | cons l ls ih =>
    have : ofLines (l :: ls) ++ cs = l ++ '\n' :: (ofLines ls ++ cs) := by simp [ofLines]
    rw [this, pieces_append, pieces_of_not_mem (h l List.mem_cons_self),
      ih fun m hm => h m (List.mem_cons_of_mem _ hm)]
    rfl

/-- A text that consists of whole lines with the property `P`. -/
def Block (P : List Char → Prop) (cs : List Char) : Prop :=
  ∃ ls, cs = ofLines ls ∧ ∀ l ∈ ls, '\n' ∉ l ∧ P l

namespace Block

variable {cs ds : List Char}

theorem nil : Block P [] := ⟨[], rfl, by simp⟩

theorem append (hc : Block P cs) (hd : Block P ds) : Block P (cs ++ ds) := by
  obtain ⟨ls, rfl, hl⟩ := hc
  obtain ⟨ms, rfl, hm⟩ := hd
  refine ⟨ls ++ ms, by simp [ofLines], fun l h => ?_⟩
  exact (List.mem_append.mp h).elim (hl l) (hm l)

theorem line (l : List Char) (h : cs = l ++ ['\n']) (hl : '\n' ∉ l) (hP : P l) : Block P cs :=
  ⟨[l], by simp [ofLines, h], by simpa using ⟨hl, hP⟩⟩

theorem flatMap {α : Type} {xs : List α} {f : α → List Char} (h : ∀ x ∈ xs, Block P (f x)) :
    Block P (xs.flatMap f) := by
  induction xs with
  | nil => exact nil
  | cons x xs ih =>
    exact (h x List.mem_cons_self).append (ih fun y hy => h y (List.mem_cons_of_mem _ hy))

end Block

theorem newline_not_mem_lines {cs l : List Char} (h : l ∈ lines cs) : '\n' ∉ l := by
  fun_induction lines cs generalizing l with
  | case1 => cases h
  | case2 cs ih | case3 cs ih =>
    rcases List.mem_cons.mp h with rfl | h
    · simp
    · exact ih h
  | case4 c cs hn hr ih =>
    have hc : c ≠ '\n' := fun hc => hn hc
    cases hl : lines cs with
    | nil =>
      rw [hl] at h
      cases List.mem_singleton.mp h
      simpa using hc.symm
    | cons m ms =>
      rw [hl] at h ih
      rcases List.mem_cons.mp h with rfl | h
      · simpa using ⟨hc.symm, ih List.mem_cons_self⟩
      · exact ih (List.mem_cons_of_mem _ h)

theorem mem_of_mem_trimEnd {cs : List Char} {c : Char} (h : c ∈ trimEnd cs) : c ∈ cs := by
  induction cs with
  | nil => cases h
  | cons d cs ih =>
    simp only [trimEnd] at h
    split at h
    · split at h
      · cases h
      · exact List.mem_singleton.mp h ▸ List.mem_cons_self
    · rename_i e t ht
      rw [ht] at ih
      rcases List.mem_cons.mp h with rfl | h
      · exact List.mem_cons_self
      · exact List.mem_cons_of_mem _ (ih h)

theorem trimEnd_append {cs bs : List Char} {c : Char} (hc : isSpace c = false)
    (hb : ∀ b ∈ bs, isSpace b = true) : trimEnd (cs ++ c :: bs) = cs ++ [c] := by
  induction cs with
  | nil =>
    have hbs : trimEnd bs = [] := by
      induction bs with
      | nil => rfl
      | cons b bs ih =>
        simp [trimEnd, ih fun d hd => hb d (List.mem_cons_of_mem _ hd), hb b List.mem_cons_self]
    simp [trimEnd, hbs, hc]
  | cons d cs ih =>
    simp only [List.cons_append, trimEnd, ih]
    cases cs <;> rfl

end Text

namespace TypeScript

open Text

/-- A line that neither imports nor declares anything: it is empty or starts as comments, members
and the end of a body do. -/
def Inert (l : List Char) : Prop := ∀ c ∈ l.head?, c = '/' ∨ c = ' ' ∨ c = '\x7d'

theorem newline_not_mem_escapeEnd {cs : List Char} (h : '\n' ∉ cs) : '\n' ∉ escapeEnd cs := by
  fun_induction escapeEnd cs <;> simp_all

theorem newline_not_mem_commentLines {docs : List String} {l : List Char}
    (h : l ∈ commentLines docs) : '\n' ∉ l := by
  obtain ⟨d, -, h⟩ := List.mem_flatMap.mp h
  obtain ⟨m, hm, rfl⟩ := List.mem_map.mp h
  exact newline_not_mem_escapeEnd fun hn => newline_not_mem_lines hm (mem_of_mem_trimEnd hn)

theorem Inert.indented {indent l : List Char} (hi : ∀ c ∈ indent, c = ' ') (h : Inert l) :
    Inert (indent ++ l) := by
  cases indent with
  | nil => exact h
  | cons d ds =>
    intro c hc
    cases hc
    exact .inr (.inl (hi d List.mem_cons_self))

theorem blockLine_block {indent l : List Char} (hi : ∀ c ∈ indent, c = ' ') (hl : '\n' ∉ l) :
    Block Inert (blockLine indent l) := by
  have hn : '\n' ∉ indent := fun h => absurd (hi _ h) (by decide)
  cases l with
  | nil =>
    refine .line (indent ++ " *".toList) (by simp [blockLine]) (by simp [hn]) ?_
    exact .indented hi (by simp [Inert])
  | cons c cs =>
    refine .line (indent ++ (" * ".toList ++ c :: cs)) (by simp [blockLine]) ?_ ?_
    · simpa [hn] using hl
    · exact .indented hi (by simp [Inert])

theorem docChars_block {indent : List Char} (hi : ∀ c ∈ indent, c = ' ') (docs : List String) :
    Block Inert (docChars indent docs) := by
  have hn : '\n' ∉ indent := fun h => absurd (hi _ h) (by decide)
  unfold docChars
  split
  · exact .nil
  · rename_i line hl
    have hm : line ∈ commentLines docs := by simp [hl]
    have := newline_not_mem_commentLines hm
    refine .line (indent ++ ("/** ".toList ++ line ++ " */".toList)) (by simp) ?_ ?_
    · simp [hn, this]
    · exact .indented hi (by simp [Inert])
  · rw [List.append_assoc (_ ++ _)]
    refine .append (.append ?_ (.flatMap fun l hl => ?_)) ?_
    · refine .line (indent ++ "/**".toList) (by simp) (by simp [hn]) ?_
      exact .indented hi (by simp [Inert])
    · exact blockLine_block hi (newline_not_mem_commentLines hl)
    · refine .line (indent ++ " */".toList) (by simp) (by simp [hn]) ?_
      exact .indented hi (by simp [Inert])

theorem docComment_block (indent : String) (hi : ∀ c ∈ indent.toList, c = ' ')
    (docs : List String) : Block Inert (docComment indent docs).toList := by
  rw [docComment, String.toList_ofList]
  exact docChars_block hi docs

end TypeScript

end AvroLink
