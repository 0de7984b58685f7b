import AvroLink.Files.Path
import AvroLink.Proofs.FullName
import AvroLink.TypeScript.Identifier

/-!
# Pieces of names and paths

`Text.pieces` takes apart what `Text.joinWith` has put together. The segments of a valid name are
names themselves, and together with the simple name they determine it; so do the steps of its file
path.
-/

namespace AvroLink

namespace Text

variable {sep : Char}

theorem pieces_of_not_mem {cs : List Char} (h : sep ∉ cs) : pieces sep cs = [cs] := by
  induction cs with
  | nil => rfl
  | cons c cs ih =>
    simp only [List.mem_cons, not_or] at h
    simp [pieces, Ne.symm h.1, ih h.2]

theorem pieces_append (a b : List Char) :
    pieces sep (a ++ sep :: b) = pieces sep a ++ pieces sep b := by
  induction a with
  | nil => simp [pieces]
  | cons c a ih =>
    simp only [List.cons_append, pieces, ih]
    split
    · rfl
    · cases h : pieces sep a with
      | nil => exact absurd h (pieces_ne_nil sep a)
      | cons p ps => rfl

theorem pieces_front {a b p : List Char} {ps : List (List Char)} (h : sep ∉ a)
    (hb : pieces sep b = p :: ps) : pieces sep (a ++ b) = (a ++ p) :: ps := by
  induction a with
  | nil => exact hb
  | cons c a ih =>
    simp only [List.mem_cons, not_or] at h
    simp [pieces, Ne.symm h.1, ih h.2]

theorem joinWith_cons {sep : String} {s : String} {ss : List String} (h : ss ≠ []) :
    joinWith sep (s :: ss) = s ++ sep ++ joinWith sep ss := by
  cases ss with
  | nil => exact absurd rfl h
  | cons => rfl

theorem not_mem_of_mem_pieces {cs p : List Char} (h : p ∈ pieces sep cs) : sep ∉ p := by
  induction cs generalizing p with
  | nil =>
    cases List.mem_singleton.mp h
    exact List.not_mem_nil
  | cons c cs ih =>
    unfold pieces at h
    split at h
    · rcases List.mem_cons.mp h with rfl | h
      · exact List.not_mem_nil
      · exact ih h
    · rename_i hc
      cases hp : pieces sep cs with
      | nil => exact absurd hp (pieces_ne_nil sep cs)
      | cons q qs =>
        rw [hp] at h ih
        rcases List.mem_cons.mp h with rfl | h
        · rw [List.mem_cons, not_or]
          exact ⟨Ne.symm hc, ih List.mem_cons_self⟩
        · exact ih (List.mem_cons_of_mem _ h)

theorem length_pieces_le (cs : List Char) : (pieces sep cs).length ≤ cs.length + 1 := by
  induction cs with
  | nil => simp [pieces]
  | cons c cs ih =>
    simp only [pieces]
    split
    · simpa using ih
    · cases hp : pieces sep cs with
      | nil => exact absurd hp (pieces_ne_nil sep cs)
      | cons p ps =>
        rw [hp] at ih
        simp only [List.length_cons] at ih ⊢
        omega

theorem joinWith_append {sep : String} {as bs : List String} (ha : as ≠ []) (hb : bs ≠ []) :
    joinWith sep (as ++ bs) = joinWith sep as ++ sep ++ joinWith sep bs := by
  induction as with
  | nil => exact absurd rfl ha
  | cons a as ih =>
    cases as with
    | nil => exact joinWith_cons hb
    | cons b as =>
      have hne : b :: as ≠ [] := by simp
      rw [List.cons_append, joinWith_cons (by simp), ih hne, joinWith_cons hne]
      simp only [String.append_assoc]

end Text

namespace Path

theorem pieces_joinWith {steps : List String} (hne : steps ≠ [])
    (h : ∀ s ∈ steps, '/' ∉ s.toList) : pieces (Text.joinWith "/" steps) = steps := by
  induction steps with
  | nil => exact absurd rfl hne
  | cons s ss ih =>
    have hs := h s List.mem_cons_self
    by_cases hss : ss = []
    · subst hss
      simp [pieces, Text.joinWith, Text.pieces_of_not_mem hs]
    · have ht := ih hss fun t ht => h t (List.mem_cons_of_mem _ ht)
      unfold pieces at ht ⊢
      rw [Text.joinWith_cons hss]
      have : (s ++ "/" ++ Text.joinWith "/" ss).toList =
          s.toList ++ '/' :: (Text.joinWith "/" ss).toList := by simp
      rw [this, Text.pieces_append, Text.pieces_of_not_mem hs, List.map_append, ht]
      simp

end Path

namespace FullName

variable {n m : FullName}

theorem Valid.segments (h : n.Valid) : ∀ s ∈ n.segments, isValidName s = true := by
  intro s hs
  unfold FullName.segments at hs
  split at hs
  · rename_i ns hns
    have hv := h.space ns hns
    simp only [isValidNamespace, isNamespaceText, List.all_eq_true] at hv
    obtain ⟨p, hp, rfl⟩ := List.mem_map.mp hs
    simpa [isValidName] using hv p hp
  · cases hs

theorem segments_inj (h : n.segments = m.segments) : n.space = m.space := by
  unfold segments at h
  cases hn : n.space with
  | none =>
    cases hm : m.space with
    | none => rfl
    | some b =>
      simp only [hn, hm] at h
      exact absurd (List.map_eq_nil_iff.mp h.symm) (Text.pieces_ne_nil _ _)
  | some a =>
    cases hm : m.space with
    | none =>
      simp only [hn, hm] at h
      exact absurd (List.map_eq_nil_iff.mp h) (Text.pieces_ne_nil _ _)
    | some b =>
      simp only [hn, hm] at h
      have h := (List.map_inj_right fun _ _ h => String.ofList_injective h).mp h
      have h := congrArg (Text.glue '.') h
      rw [Text.glue_pieces, Text.glue_pieces] at h
      rw [String.toList_inj.mp h]

/-- The directories and the name of the file of a type, without its ending. -/
def steps (n : FullName) : List String := n.segments ++ [n.name]

theorem steps_inj (h : n.steps = m.steps) : n = m := by
  obtain ⟨hs, hn⟩ := List.append_inj' h rfl
  have hs := segments_inj hs
  cases n
  cases m
  simp_all

theorem Valid.steps (h : n.Valid) : ∀ s ∈ n.steps, isValidName s = true := by
  intro s hs
  rcases List.mem_append.mp hs with hs | hs
  · exact h.segments s hs
  · exact List.mem_singleton.mp hs ▸ h.name

end FullName

end AvroLink
