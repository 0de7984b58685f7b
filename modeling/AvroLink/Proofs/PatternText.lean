import Mathlib.Data.Char
import Mathlib.Data.List.Induction
import AvroLink.Glob.Walk
import AvroLink.Proofs.Pieces

/-!
# Texts of patterns

Where a pattern begins does not matter for whether it can be read (`tokens_isOk`). An escaped text
is read as a pattern that matches this text only (`parse_escape`, `matchesName_exactly`), and what
is escaped before a slash is cut into parts of its own (`parts_below`).
-/

namespace AvroLink.Glob

variable {c : Char} {cs name : List Char} {p : Pattern}

/-! ## Reading from another place -/

/-- A mark for directories may stand here. -/
def Opens (before : Option Char) : Prop := before = none ∨ before = some '/'

theorem tokens_isOk (fuel : Nat) {position position' : Nat} {before before' : Option Char}
    {done done' : Pattern} (h : Opens before ↔ Opens before') :
    (tokens fuel position before done cs).isOk = (tokens fuel position' before' done' cs).isOk := by
  induction fuel generalizing position position' before before' done done' cs with
  | zero => rfl
  | succ fuel ih =>
    cases cs with
    | nil => rfl
    | cons c cs =>
      have hstart : (before ≠ none ∧ before ≠ some '/') ↔
          (before' ≠ none ∧ before' ≠ some '/') := by
        simpa only [Opens, not_or] using not_congr h
      rw [tokens, tokens]
      simp only [hstart]
      repeat' split
      all_goals first | rfl | exact ih Iff.rfl

theorem parse_here (cs : List Char) : (parse ('.' :: '/' :: cs)).isOk = (parse cs).isOk := by
  change (tokens cs.length 2 (some '/') _ cs).isOk = _
  exact tokens_isOk _ (by simp [Opens])

/-! ## Escaped texts -/

/-- Characters that are put into brackets. -/
def specials : List Char := ['?', '*', '[', ']']

/-- The token of a character that stands for itself. -/
def exactly (c : Char) : Token := if c ∈ specials then .within [(c, c)] else .char c

theorem escape_cons (c : Char) (cs : List Char) :
    escape (c :: cs) = (if c ∈ specials then ['[', c, ']'] else [c]) ++ escape cs := rfl

theorem bracket_special (h : c ∈ specials) (rest : List Char) :
    bracket (c :: ']' :: rest) = some (.within [(c, c)], rest) := by
  simp only [specials, List.mem_cons, List.not_mem_nil, or_false] at h
  rcases h with rfl | rfl | rfl | rfl <;> rfl

theorem tokens_escape (fuel position : Nat) (before : Option Char) (done : Pattern)
    (h : (escape cs).length ≤ fuel) :
    tokens fuel position before done (escape cs) = .ok (done.reverse ++ cs.map exactly) := by
  induction cs generalizing fuel position before done with
  | nil => cases fuel <;> simp [escape, tokens]
  | cons c cs ih =>
    rw [escape_cons] at h ⊢
    obtain ⟨fuel, rfl⟩ : ∃ k, fuel = k + 1 := ⟨fuel - 1, by split at h <;> simp at h <;> omega⟩
    by_cases hc : c ∈ specials
    · simp only [if_pos hc, List.cons_append, List.nil_append, List.length_cons] at h ⊢
      rw [tokens, if_neg (by decide), if_neg (by decide), if_pos rfl, bracket_special hc]
      simp only
      rw [ih _ _ _ _ (by omega)]
      simp [exactly, hc]
    · simp only [if_neg hc, List.cons_append, List.nil_append, List.length_cons] at h ⊢
      have hplain := hc
      simp only [specials, List.mem_cons, List.not_mem_nil, or_false, not_or] at hplain
      rw [tokens, if_neg hplain.1, if_neg hplain.2.1, if_neg hplain.2.2.1, ih _ _ _ _ (by omega)]
      simp [exactly, hc]

theorem parse_escape (cs : List Char) : parse (escape cs) = .ok (cs.map exactly) :=
  tokens_escape _ _ _ _ Nat.le.refl

theorem isMany_exactly (c : Char) : (exactly c).isMany = false := by
  unfold exactly
  split <;> rfl

theorem accepts_exactly (c d : Char) : (exactly c).accepts d = decide (d = c) := by
  unfold exactly
  split
  · simp [Token.accepts, inRanges, le_antisymm_iff, and_comm]
  · exact beq_eq_decide _ _

theorem matchesName_exactly : matchesName (cs.map exactly) name = decide (name = cs) := by
  induction cs generalizing name with
  | nil => cases name <;> simp [matchesName_nil]
  | cons c cs ih =>
    cases name with
    | nil => simp [matchesName, matchedTails, isMany_exactly]
    | cons d name =>
      rw [List.map_cons, matchesName_cons, isMany_exactly, accepts_exactly, if_neg (by simp), ih]
      simp

theorem not_recursive_exactly (cs : List Char) : isRecursive (cs.map exactly) = false := by
  simp only [isRecursive, List.any_map, List.any_eq_false, Function.comp_apply]
  intro c _
  unfold exactly
  split <;> simp

theorem literal?_exactly {s : List Char} (h : literal? (cs.map exactly) = some s) : s = cs := by
  induction cs generalizing s with
  | nil => simpa [literal?] using h.symm
  | cons c cs ih =>
    rw [List.map_cons, exactly] at h
    split at h
    · simp [literal?] at h
    · obtain ⟨t, ht, rfl⟩ := Option.map_eq_some_iff.mp h
      rw [ih ht]

theorem literal?_exactly_dots (cs : List Char) (h : ∀ c ∈ cs, c = '.') :
    literal? (cs.map exactly) = some cs := by
  induction cs with
  | nil => rfl
  | cons c cs ih =>
    obtain ⟨rfl, hcs⟩ := List.forall_mem_cons.mp h
    simp [exactly, specials, literal?, ih hcs]

/-! ## Parts -/

theorem parts_below (a b : List Char) : parts (a ++ '/' :: b) = Text.pieces '/' a ++ parts b := by
  unfold parts
  rw [Text.pieces_append, List.reverse_append]
  cases hb : (Text.pieces '/' b).reverse with
  | nil => exact absurd (List.reverse_eq_nil_iff.mp hb) (Text.pieces_ne_nil _ _)
  | cons p ps => cases p <;> simp

theorem slash_not_mem_escape (h : c ≠ '/') : '/' ∉ escape [c] := by
  rw [escape_cons]
  split <;> simp [escape, Ne.symm h]

theorem pieces_escape (cs : List Char) :
    Text.pieces '/' (escape cs) = (Text.pieces '/' cs).map escape := by
  induction cs with
  | nil => rfl
  | cons c cs ih =>
    obtain ⟨p, ps, hp⟩ := List.exists_cons_of_ne_nil (Text.pieces_ne_nil '/' cs)
    have hcons : ∀ cs, escape (c :: cs) = escape [c] ++ escape cs := fun cs => by simp [escape]
    by_cases hc : c = '/'
    · subst hc
      simp [escape, Text.pieces, ← ih]
    · rw [hp, List.map_cons] at ih
      have hfront : Text.pieces '/' (c :: cs) = (c :: p) :: ps :=
        Text.pieces_front (a := [c]) (by simpa using Ne.symm hc) hp
      rw [hcons, Text.pieces_front (slash_not_mem_escape hc) ih, hfront, List.map_cons, hcons p]

/-- Escaping leaves the slashes at the end where they are. -/
def trimmed (cs : List Char) : List Char := (cs.reverse.dropWhile (· = '/')).reverse

theorem trimmed_append_slash (cs : List Char) : trimmed (cs ++ ['/']) = trimmed cs := by
  simp [trimmed]

theorem trimmed_append {b : List Char} (h : trimmed b ≠ []) (a : List Char) :
    trimmed (a ++ b) = a ++ trimmed b := by
  have hb : (b.reverse.dropWhile (· = '/')).isEmpty = false := by
    simpa [trimmed, List.isEmpty_eq_false_iff] using h
  rw [trimmed, trimmed, List.reverse_append, List.dropWhile_append, hb]
  simp

theorem trimmed_cons (h : c ≠ '/') (cs : List Char) : ∃ rest, trimmed (c :: cs) = c :: rest := by
  by_cases hcs : trimmed cs = []
  · refine ⟨[], ?_⟩
    have hb : (cs.reverse.dropWhile (· = '/')).isEmpty = true := by
      simpa [trimmed] using hcs
    rw [trimmed, List.reverse_cons, List.dropWhile_append, hb]
    simp [h]
  · exact ⟨trimmed cs, trimmed_append hcs [c]⟩

theorem trimmed_concat (h : c ≠ '/') (cs : List Char) : trimmed (cs ++ [c]) = cs ++ [c] := by
  simp [trimmed, h]

theorem trimmed_escape (cs : List Char) : trimmed (escape cs) = escape (trimmed cs) := by
  induction cs using List.reverseRecOn with
  | nil => rfl
  | append_singleton cs c ih =>
    have happend : escape (cs ++ [c]) = escape cs ++ escape [c] := by simp [escape]
    by_cases hc : c = '/'
    · subst hc
      rw [happend, trimmed_append_slash, ← ih]
      exact trimmed_append_slash _
    · -- what an escaped character ends in is no slash either
      obtain ⟨front, last, hlast, he⟩ :
          ∃ front last, last ≠ '/' ∧ escape [c] = front ++ [last] := by
        rw [escape_cons]
        split
        · exact ⟨['[', c], ']', by decide, rfl⟩
        · exact ⟨[], c, hc, rfl⟩
      rw [trimmed_concat hc, happend, he, ← List.append_assoc, trimmed_concat hlast]

end AvroLink.Glob
