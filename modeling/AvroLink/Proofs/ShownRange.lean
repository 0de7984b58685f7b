import AvroLink.Diagnostic.Range
import AvroLink.Proofs.Boundary

/-!
# The range that a diagnostic shows

A range is `Printable` when it can be cut out of the text and there is something to see in it.
Every span is adjusted to such a range, whatever its ends are, and a range that is printable as it
stands is kept.
-/

namespace AvroLink.Diagnostic

open Text

variable {cs : List Char} {s : Span}

/-- A range inside a text, with its ends at character boundaries; it is empty only in the empty
text. -/
structure Printable (source : String) (r : Span) : Prop where
  ordered : r.start ≤ r.stop
  inside : r.stop ≤ source.utf8ByteSize
  start : (String.Pos.Raw.mk r.start).IsValid source
  stop : (String.Pos.Raw.mk r.stop).IsValid source
  visible : source ≠ "" → r.start < r.stop

theorem lastSize_append (cs : List Char) (c : Char) : lastSize (cs ++ [c]) = c.utf8Size := by
  induction cs with
  | nil => rfl
  | cons d cs ih =>
    cases cs with
    | nil => rfl
    | cons e cs => exact ih

theorem character_ends (a b : List Char) (c : Char) :
    Boundary (a ++ c :: b) (byteLen a) ∧ Boundary (a ++ c :: b) (byteLen a + c.utf8Size) ∧
      byteLen a < byteLen a + c.utf8Size :=
  ⟨⟨a, c :: b, rfl, rfl⟩, ⟨a ++ [c], b, by simp, by simp [byteLen]⟩,
    Nat.lt_add_of_pos_right c.utf8Size_pos⟩

theorem adjustRange_ends (s : Span) (cs : List Char) :
    Boundary cs (adjustRange s cs).start ∧ Boundary cs (adjustRange s cs).stop ∧
      (adjustRange s cs).start ≤ (adjustRange s cs).stop ∧
      (cs ≠ [] → (adjustRange s cs).start < (adjustRange s cs).stop) := by
  have hstart := floorBoundary_boundary cs s.start
  have hstop := (floorBoundary_boundary cs s.stop).max hstart
  have hle := Nat.le_max_right (floorBoundary cs s.stop) (floorBoundary cs s.start)
  simp only [adjustRange]
  generalize floorBoundary cs s.start = i at *
  generalize max (floorBoundary cs s.stop) i = j at *
  split
  · next hne =>
    have hlt : i < j := Nat.lt_of_le_of_ne hle hne
    exact ⟨hstart, hstop, hle, fun _ => hlt⟩
  · obtain ⟨a, b, rfl, rfl⟩ := hstart
    rw [dropBytes_append]
    cases b with
    | cons c b =>
      obtain ⟨hfront, hback, hlt⟩ := character_ends a b c
      exact ⟨hfront, hback, Nat.le_of_lt hlt, fun _ => hlt⟩
    | nil =>
      rcases List.eq_nil_or_concat a with rfl | ⟨a, c, rfl⟩
      · exact ⟨.zero _, .zero _, Nat.le_refl _, fun h => absurd rfl h⟩
      · -- at the end of the text the last character is shown
        obtain ⟨hfront, hback, hlt⟩ := character_ends a [] c
        have hlen : byteLen (a ++ [c]) = byteLen a + c.utf8Size := by simp [byteLen]
        have hsize : byteLen a + c.utf8Size - lastSize (a ++ [c]) = byteLen a := by
          rw [lastSize_append, Nat.add_sub_cancel]
        simp only [List.concat_eq_append, List.append_nil, hlen, hsize]
        exact ⟨hfront, hback, Nat.le_of_lt hlt, fun _ => hlt⟩

theorem adjustRange_of_lt (hstart : Boundary cs s.start) (hstop : Boundary cs s.stop)
    (h : s.start < s.stop) : adjustRange s cs = s := by
  have hmax : max s.stop s.start = s.stop := Nat.max_eq_left (Nat.le_of_lt h)
  simp only [adjustRange, hstart.floorBoundary_eq, hstop.floorBoundary_eq, hmax]
  rw [if_pos (Nat.ne_of_lt h)]

theorem adjustRange_nil (s : Span) : adjustRange s [] = ⟨0, 0⟩ := rfl

theorem adjustRange_adjustRange (s : Span) (cs : List Char) :
    adjustRange (adjustRange s cs) cs = adjustRange s cs := by
  by_cases hcs : cs = []
  · rw [hcs, adjustRange_nil, adjustRange_nil]
  · obtain ⟨hstart, hstop, -, hlt⟩ := adjustRange_ends s cs
    exact adjustRange_of_lt hstart hstop (hlt hcs)

theorem printable_adjustRange (s : Span) (source : String) :
    Printable source (adjustRange s source.toList) := by
  obtain ⟨hstart, hstop, hle, hlt⟩ := adjustRange_ends s source.toList
  refine ⟨hle, ?_, (boundary_toList _ _).mp hstart, (boundary_toList _ _).mp hstop, fun h => ?_⟩
  · rw [← byteLen_toList]
    exact hstop.le_byteLen
  · exact hlt fun hnil => h (String.toList_eq_nil_iff.mp hnil)

/-- Whatever the ends of a span are, the two searches for a boundary end and the adjusted range is
printable. A range that shows something stays as it is, and a second adjustment changes nothing. -/
theorem adjustRange_settles (s : Span) (source : String) :
    StepsDown source.toList (min s.start source.utf8ByteSize)
        (floorBoundary source.toList s.start) ∧
      StepsDown source.toList (min s.stop source.utf8ByteSize)
        (floorBoundary source.toList s.stop) ∧
      Printable source (adjustRange s source.toList) ∧
      (s.start < s.stop → (String.Pos.Raw.mk s.start).IsValid source →
        (String.Pos.Raw.mk s.stop).IsValid source → adjustRange s source.toList = s) ∧
      adjustRange (adjustRange s source.toList) source.toList = adjustRange s source.toList := by
  have hends : ∀ i, StepsDown source.toList (min i source.utf8ByteSize)
      (floorBoundary source.toList i) := by
    intro i
    rw [← byteLen_toList, ← floorBoundary_min]
    exact stepsDown_floorBoundary _ _
  refine ⟨hends _, hends _, printable_adjustRange s source, fun hlt hstart hstop => ?_,
    adjustRange_adjustRange s _⟩
  exact adjustRange_of_lt ((boundary_toList _ _).mpr hstart) ((boundary_toList _ _).mpr hstop) hlt

/-- In three characters of two bytes each, a range from inside the first to inside the second shows
the first, and that range is kept. -/
theorem adjustRange_settles_accents :
    adjustRange ⟨1, 3⟩ "ééé".toList = ⟨0, 2⟩ ∧ Printable "ééé" ⟨0, 2⟩ ∧
      adjustRange ⟨0, 2⟩ "ééé".toList = ⟨0, 2⟩ := by
  have hrange : adjustRange ⟨1, 3⟩ "ééé".toList = ⟨0, 2⟩ := by decide +kernel
  have hshown : Printable "ééé" ⟨0, 2⟩ := hrange ▸ (adjustRange_settles ⟨1, 3⟩ "ééé").2.2.1
  exact ⟨hrange, hshown, (adjustRange_settles ⟨0, 2⟩ "ééé").2.2.2.1 (by decide)
    hshown.start hshown.stop⟩

end AvroLink.Diagnostic
