import Mathlib.Data.List.Chain
import AvroLink.Proofs.Block
import AvroLink.Text.Position

/-!
# Where a doc comment ends

A comment goes on to the first end mark behind its opening. `Inside` holds of texts that may stand
in it: they hold no end mark, and do not complete one that begins before them. Such texts may be put
together, and what is written between the opening and the closing of a doc comment consists of them,
whatever the texts are that it is made for.
-/

namespace AvroLink.TypeScript

open Text

variable {cs ds : List Char}

/-- A text without end marks. -/
def Unended (cs : List Char) : Prop := cs.IsChain fun a b => ¬ (a = '*' ∧ b = '/')

theorem Unended.cons {c : Char} (hc : c ≠ '*') (h : Unended cs) : Unended (c :: cs) :=
  List.isChain_cons.mpr ⟨fun _ _ hmark => hc hmark.1, h⟩

/-- A text that may stand in a comment. -/
structure Inside (cs : List Char) : Prop where
  start : ∀ c ∈ cs.head?, c ≠ '/'
  unended : Unended cs

namespace Inside

theorem nil : Inside [] := ⟨by simp, List.IsChain.nil⟩

/-- A character that is in no end mark keeps the text behind it from completing one. -/
theorem cons {c : Char} (hstar : c ≠ '*') (hslash : c ≠ '/') (h : Unended cs) : Inside (c :: cs) :=
  ⟨by simpa using hslash, h.cons hstar⟩

theorem append (hc : Inside cs) (hd : Inside ds) : Inside (cs ++ ds) where
  start c h := by
    rw [List.head?_append] at h
    cases hcs : cs.head? with
    | none => exact hd.start c (by simpa [hcs] using h)
    | some b => exact hc.start c (by simpa [hcs] using h)
  unended := List.isChain_append.mpr
    ⟨hc.unended, hd.unended, fun _ _ b hb hmark => hd.start b hb hmark.2⟩

theorem flatMap {α : Type} {xs : List α} {f : α → List Char} (h : ∀ x ∈ xs, Inside (f x)) :
    Inside (xs.flatMap f) := by
  induction xs with
  | nil => exact nil
  | cons x xs ih =>
    rw [List.flatMap_cons]
    exact (h x List.mem_cons_self).append (ih fun y hy => h y (List.mem_cons_of_mem _ hy))

theorem singleton {c : Char} (hslash : c ≠ '/') : Inside [c] :=
  ⟨by simpa using hslash, List.isChain_singleton c⟩

theorem star : Inside ['*'] := singleton (by decide)

theorem space : Inside [' '] := singleton (by decide)

theorem newline : Inside ['\n'] := singleton (by decide)

end Inside

def spaces (n : Nat) : String := String.ofList (List.replicate n ' ')

theorem inside_spaces (n : Nat) : Inside (spaces n).toList := by
  rw [spaces, String.toList_ofList]
  induction n with
  | zero => exact .nil
  | succ n ih => exact .cons (by decide) (by decide) ih.unended

/-! ## The first end mark -/

theorem find?_of_unended (h : Unended (cs ++ ['*'])) (rest : List Char) :
    find? ['*', '/'] (cs ++ '*' :: '/' :: rest) = some (byteLen cs) := by
  induction cs with
  | nil => simp [find?, byteLen]
  | cons c cs ih =>
    rw [List.cons_append, Unended, List.isChain_cons] at h
    obtain ⟨hnext, htail⟩ := h
    have hfront : ['*', '/'].isPrefixOf (c :: (cs ++ '*' :: '/' :: rest)) = false := by
      rw [Bool.eq_false_iff]
      intro hmark
      cases cs with
      | nil => simp at hmark
      | cons d cs =>
        simp at hmark
        exact hnext d (by simp) ⟨hmark.1.symm, hmark.2.symm⟩
    rw [List.cons_append, find?, hfront, ih htail]
    simp [byteLen]

theorem Inside.find? (h : Inside cs) (rest : List Char) :
    Text.find? ['*', '/'] (cs ++ '*' :: '/' :: rest) = some (byteLen cs) :=
  find?_of_unended (h.append .star).unended rest

/-! ## Lines of a comment -/

theorem head?_escapeEnd (cs : List Char) : (escapeEnd cs).head? = cs.head? := by
  unfold escapeEnd
  split <;> rfl

/-- In a line no end mark is left, and breaking them up makes no new ones. -/
theorem unended_escapeEnd (cs : List Char) : Unended (escapeEnd cs) := by
  fun_induction escapeEnd cs with
  | case1 => exact List.IsChain.nil
  | case2 cs ih =>
    have hslash : Unended ('\\' :: '/' :: escapeEnd cs) := (ih.cons (by decide)).cons (by decide)
    exact List.isChain_cons_cons.mpr ⟨by decide, hslash⟩
  | case3 c cs h ih =>
    refine List.isChain_cons.mpr ⟨?_, ih⟩
    rw [head?_escapeEnd]
    rintro b hb ⟨rfl, rfl⟩
    obtain ⟨t, rfl⟩ := List.head?_eq_some_iff.mp hb
    exact h t rfl rfl

theorem unended_of_mem_commentLines {docs : List String} (h : cs ∈ commentLines docs) :
    Unended cs := by
  obtain ⟨d, -, h⟩ := List.mem_flatMap.mp h
  obtain ⟨l, -, rfl⟩ := List.mem_map.mp h
  exact unended_escapeEnd _

theorem inside_blockLine {indent : List Char} (hi : Inside indent) (h : Unended cs) :
    Inside (blockLine indent cs) := by
  have hmark : Inside " *".toList := Inside.space.append .star
  cases cs with
  | nil =>
    have htext : blockLine indent [] = indent ++ " *".toList ++ ['\n'] := by simp [blockLine]
    rw [htext]
    exact (hi.append hmark).append .newline
  | cons c cs =>
    have htext : blockLine indent (c :: cs) =
        indent ++ " *".toList ++ (' ' :: c :: cs) ++ ['\n'] := by simp [blockLine]
    have hline : Inside (' ' :: c :: cs) := .cons (by decide) (by decide) h
    rw [htext]
    exact ((hi.append hmark).append hline).append .newline

/-! ## Comments -/

theorem lines_eq_nil : lines cs = [] ↔ cs = [] := by
  have hcons : ∀ c ls, consLine c ls ≠ [] := fun c ls => by cases ls <;> simp [consLine]
  fun_cases lines cs <;> simp [hcons]

theorem commentLines_eq_nil {docs : List String} :
    commentLines docs = [] ↔ ∀ d ∈ docs, d = "" := by
  simp only [commentLines, List.flatMap_eq_nil_iff, List.map_eq_nil_iff, lines_eq_nil,
    String.toList_eq_nil_iff]

theorem docChars_cases {indent : List Char} (hi : Inside indent) (docs : List String) :
    docChars indent docs = [] ∧ commentLines docs = [] ∨
    commentLines docs ≠ [] ∧ ∃ body, Inside body ∧
      docChars indent docs = indent ++ "/**".toList ++ body ++ "*/\n".toList := by
  have hlines : ∀ l ∈ commentLines docs, Unended l := fun _ => unended_of_mem_commentLines
  unfold docChars
  split
  · next h => exact .inl ⟨rfl, h⟩
  · next line h =>
    rw [h, List.forall_mem_singleton] at hlines
    have hline : Inside (' ' :: line) := .cons (by decide) (by decide) hlines
    exact .inr ⟨by simp [h], ' ' :: line ++ [' '], hline.append .space, by simp⟩
  · next h _ =>
    have hblock := Inside.flatMap fun l hl => inside_blockLine hi (hlines l hl)
    have hbody := ((Inside.newline.append hblock).append hi).append .space
    exact .inr ⟨h, _, hbody, by simp⟩

/-- What is written for some texts, indented with spaces, is nothing when they are all empty, and
otherwise a comment. Behind its opening the first end mark is the one that closes it; the last star
of the opening begins no end mark either. -/
theorem docComment_closes (n : Nat) (docs : List String) :
    (docComment (spaces n) docs = "" ↔ ∀ d ∈ docs, d = "") ∧
    (docComment (spaces n) docs = "" ∨
      ∃ body : String, docComment (spaces n) docs = spaces n ++ "/**" ++ body ++ "*/" ++ "\n" ∧
        ∀ rest : String, find? "*/".toList ("*" ++ body ++ "*/" ++ rest).toList =
          some (byteLen ("*" ++ body).toList)) := by
  have hempty : docComment (spaces n) docs = "" ↔ docChars (spaces n).toList docs = [] := by
    rw [docComment, ← String.toList_eq_nil_iff, String.toList_ofList]
  rw [hempty, ← commentLines_eq_nil]
  rcases docChars_cases (inside_spaces n) docs with ⟨hnone, hlines⟩ | ⟨hlines, body, hbody, htext⟩
  · exact ⟨iff_of_true hnone hlines, .inl hnone⟩
  · refine ⟨iff_of_false (by simp [htext]) hlines, .inr ⟨String.ofList body, ?_, fun rest => ?_⟩⟩
    · rw [docComment, htext, ← String.toList_inj]
      simp
    · have hfirst := (Inside.star.append hbody).find? rest.toList
      simpa using hfirst

end AvroLink.TypeScript
