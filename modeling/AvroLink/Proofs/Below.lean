import AvroLink.Proofs.Pieces

/-!
# Paths below a directory

A path below `dir` has the pieces of `dir`, without an empty one at its end (`base`), and then its
own. So what lies above it is told on lists of names.
-/

namespace AvroLink

namespace Path

variable {path dir below n : String} {ps names : List String}

/-- A text that is a step down on every path. -/
structure IsName (n : String) : Prop where
  nonempty : n ≠ ""
  not_here : n ≠ "."
  not_up : n ≠ ".."
  slash : '/' ∉ n.toList

theorem pieces_ne_nil (path : String) : pieces path ≠ [] := by
  unfold pieces
  exact fun h => Text.pieces_ne_nil _ _ (List.map_eq_nil_iff.mp h)

theorem not_mem_of_mem_pieces (h : n ∈ pieces path) : '/' ∉ n.toList := by
  obtain ⟨cs, hcs, rfl⟩ := List.mem_map.mp h
  rw [String.toList_ofList]
  exact Text.not_mem_of_mem_pieces hcs

theorem length_pieces_le (path : String) : (pieces path).length ≤ path.length + 1 := by
  rw [pieces, List.length_map, ← String.length_toList]
  exact Text.length_pieces_le _

theorem joinWith_pieces (path : String) : Text.joinWith "/" (pieces path) = path := by
  suffices h : ∀ ps : List (List Char),
      Text.joinWith "/" (ps.map String.ofList) = String.ofList (Text.glue '/' ps) by
    rw [pieces, h, Text.glue_pieces, String.ofList_toList]
  intro ps
  induction ps with
  | nil => rfl
  | cons p ps ih =>
    cases ps with
    | nil => rfl
    | cons q qs =>
      rw [List.map_cons, Text.joinWith_cons (by simp), ih, ← String.toList_inj]
      simp [Text.glue]

theorem pieces_slash (path below : String) :
    pieces (path ++ "/" ++ below) = pieces path ++ pieces below := by
  unfold pieces
  have : (path ++ "/" ++ below).toList = path.toList ++ '/' :: below.toList := by simp
  rw [this, Text.pieces_append, List.map_append]

theorem pieces_concat_slash (path : String) : pieces (path ++ "/") = pieces path ++ [""] := by
  have h := pieces_slash path ""
  rwa [String.append_empty] at h

theorem isAbsolute_iff : isAbsolute path = true ↔ ∃ p ps, pieces path = "" :: p :: ps := by
  unfold isAbsolute pieces
  cases path.toList with
  | nil => simp [Text.pieces]
  | cons c cs =>
    by_cases hc : c = '/'
    · subst hc
      cases hp : Text.pieces '/' cs with
      | nil => exact absurd hp (Text.pieces_ne_nil _ _)
      | cons p ps => simp [Text.pieces, hp]
    · cases hp : Text.pieces '/' cs with
      | nil => exact absurd hp (Text.pieces_ne_nil _ _)
      | cons p ps => simp [Text.pieces, hp, hc]

/-- The pieces of a directory in front of those of a path below it. -/
def base (dir : String) : List String :=
  if dir = "" ∨ dir.toList.getLast? = some '/' then (pieces dir).dropLast else pieces dir

theorem base_empty : base "" = [] := by
  decide

theorem base_slash (path : String) : base (path ++ "/") = pieces path := by
  rw [base, if_pos (.inr (by simp)), pieces_concat_slash]
  exact List.dropLast_concat

theorem base_self (hne : dir ≠ "") (hs : dir.toList.getLast? ≠ some '/') :
    base dir = pieces dir := by
  rw [base, if_neg (by simp [hne, hs])]

theorem eq_slash (h : path.toList.getLast? = some '/') : ∃ front, path = front ++ "/" := by
  obtain ⟨cs, hcs⟩ := List.getLast?_eq_some_iff.mp h
  exact ⟨String.ofList cs, by rw [← String.toList_inj]; simp [hcs]⟩

theorem mem_base (h : n ∈ base dir) : n ∈ pieces dir := by
  unfold base at h
  split at h
  · exact (List.dropLast_sublist _).subset h
  · exact h

/-- A directory may have an empty piece at its end, and the empty path has no other. -/
theorem pieces_eq_base (dir : String) :
    pieces dir = base dir ∧ dir ≠ "" ∨ pieces dir = base dir ++ [""] := by
  by_cases he : dir = ""
  · subst he
    exact .inr (by decide)
  · by_cases hs : dir.toList.getLast? = some '/'
    · obtain ⟨front, rfl⟩ := eq_slash hs
      rw [base_slash]
      exact .inr (pieces_concat_slash front)
    · exact .inl ⟨(base_self he hs).symm, he⟩

theorem isAbsolute_base : isAbsolute dir = true ↔ (base dir).head? = some "" := by
  rw [isAbsolute_iff]
  rcases pieces_eq_base dir with ⟨hp, hne⟩ | hp
  · rw [hp]
    rcases hb : base dir with _ | ⟨b, _ | ⟨c, bs⟩⟩
    · simp
    · -- a single piece is the path itself
      rw [hb] at hp
      have hdir : dir = b := by
        rw [← joinWith_pieces dir, hp]
        rfl
      simpa using hdir ▸ hne
    · simp
  · rw [hp]
    rcases base dir with _ | ⟨b, _ | ⟨c, bs⟩⟩ <;> simp

theorem join_eq (h : isAbsolute below = false) :
    join dir below = Text.joinWith "/" (base dir ++ pieces below) := by
  unfold join
  rw [if_neg (by simp [h])]
  by_cases he : dir = ""
  · subst he
    rw [if_pos (.inl rfl), base_empty, List.nil_append, joinWith_pieces, String.empty_append]
  · by_cases hs : dir.toList.getLast? = some '/'
    · obtain ⟨front, rfl⟩ := eq_slash hs
      rw [if_pos (.inr hs), base_slash, ← pieces_slash, joinWith_pieces]
    · rw [if_neg (by simp [he, hs]), base_self he hs, ← pieces_slash, joinWith_pieces]

/-! ## Names below a directory -/

section

variable (hn : ∀ n ∈ names, IsName n)
include hn

theorem slash_not_mem_base : ∀ p ∈ base dir ++ names, '/' ∉ p.toList := by
  intro p hp
  rcases List.mem_append.mp hp with hp | hp
  · exact not_mem_of_mem_pieces (mem_base hp)
  · exact (hn p hp).slash

theorem pieces_names (hne : names ≠ []) : pieces (Text.joinWith "/" names) = names :=
  pieces_joinWith hne fun n h => (hn n h).slash

theorem isAbsolute_names : isAbsolute (Text.joinWith "/" names) = false := by
  rw [← Bool.not_eq_true, isAbsolute_iff]
  rintro ⟨p, ps, h⟩
  by_cases hne : names = []
  · subst hne
    cases h
  · rw [pieces_names hn hne] at h
    exact (hn "" (h ▸ List.mem_cons_self)).nonempty rfl

theorem join_names (hne : names ≠ []) :
    join dir (Text.joinWith "/" names) = Text.joinWith "/" (base dir ++ names) := by
  rw [join_eq (isAbsolute_names hn), pieces_names hn hne]

theorem pieces_join (hne : names ≠ []) :
    pieces (join dir (Text.joinWith "/" names)) = base dir ++ names := by
  rw [join_names hn hne]
  exact pieces_joinWith (by simp [hne]) (slash_not_mem_base hn)

theorem join_ne_empty (hne : names ≠ []) : join dir (Text.joinWith "/" names) ≠ "" := by
  intro he
  have hp : pieces (join dir (Text.joinWith "/" names)) = base dir ++ names := pieces_join hn hne
  rw [he] at hp
  obtain ⟨n, hmem⟩ := List.exists_mem_of_ne_nil _ hne
  have hlast : n ∈ pieces "" := hp ▸ List.mem_append_right _ hmem
  exact (hn n hmem).nonempty (List.mem_singleton.mp hlast)

theorem isAbsolute_join (hne : names ≠ []) :
    isAbsolute (join dir (Text.joinWith "/" names)) = isAbsolute dir := by
  rw [Bool.eq_iff_iff, isAbsolute_iff, pieces_join hn hne, isAbsolute_base]
  rcases base dir with _ | ⟨b, bs⟩
  · simp only [List.nil_append, List.head?_nil, reduceCtorEq, iff_false]
    rintro ⟨p, ps, h⟩
    exact (hn "" (h ▸ List.mem_cons_self)).nonempty rfl
  · cases names with
    | nil => exact absurd rfl hne
    | cons n ns => cases bs <;> simp

end

theorem join_snoc (hn : ∀ m ∈ names ++ [n], IsName m) (hne : names ≠ []) :
    join dir (Text.joinWith "/" (names ++ [n])) =
      join dir (Text.joinWith "/" names) ++ ("/" ++ n) := by
  rw [join_names hn (by simp), join_names (fun m hm => hn m (List.mem_append_left _ hm)) hne,
    ← List.append_assoc, Text.joinWith_append (by simp [hne]) (by simp), String.append_assoc]
  rfl

/-- A path that ends in a name does not end in a slash. -/
theorem getLast?_join (hn : ∀ m ∈ names ++ [n], IsName m) :
    (join dir (Text.joinWith "/" (names ++ [n]))).toList.getLast? ≠ some '/' := by
  have hname := hn n (by simp)
  have hlast : n.toList.getLast? ≠ some '/' := fun h => hname.slash (List.mem_of_getLast? h)
  rw [join_names hn (by simp), ← List.append_assoc]
  by_cases hne : base dir ++ names = []
  · rw [hne]
    exact hlast
  · obtain ⟨c, hc⟩ := List.getLast?_isSome.mpr (mt String.toList_eq_nil_iff.mp hname.nonempty) |>
      Option.isSome_iff_exists.mp
    rw [hc] at hlast
    rw [Text.joinWith_append hne (by simp), String.toList_append, List.getLast?_append]
    simpa [Text.joinWith, hc] using hlast

/-! ## Parents -/

/-- A piece that is no step. -/
def Blank (p : String) : Prop := p = "" ∨ p = "."

theorem IsName.not_blank (h : IsName n) : ¬ Blank n := fun hb => hb.elim h.nonempty h.not_here

theorem IsName.innerComponent? (h : IsName n) : Path.innerComponent? n = some (.name n) := by
  have hb : ¬ (n = "" ∨ n = ".") := h.not_blank
  rw [Path.innerComponent?, if_neg hb, if_neg h.not_up]

theorem dropBlank_cons (h : ¬ Blank n) : dropBlank (n :: ps) = n :: ps := by
  cases ps with
  | nil => rfl
  | cons p ps =>
    unfold dropBlank
    exact if_neg h

theorem dropBlank_spec (hne : ps ≠ []) :
    ∃ blanks, ps = blanks ++ dropBlank ps ∧ dropBlank ps ≠ [] ∧ ∀ p ∈ blanks, Blank p := by
  induction ps with
  | nil => exact absurd rfl hne
  | cons p ps ih =>
    cases ps with
    | nil => exact ⟨[], rfl, by simp [dropBlank], by simp⟩
    | cons q ps =>
      unfold dropBlank
      split
      · rename_i hp
        obtain ⟨blanks, he, hd, hb⟩ := ih (by simp)
        refine ⟨p :: blanks, by rw [List.cons_append, ← he], hd, fun r hr => ?_⟩
        rcases List.mem_cons.mp hr with rfl | hr
        · exact hp
        · exact hb r hr
      · exact ⟨[], rfl, by simp, by simp⟩

theorem parent?_eq (h : pieces path = ps ++ [n]) (hn : IsName n) (hne : ps ≠ []) :
    parent? path = some (if dropBlank ps.reverse = [""] then "/"
      else Text.joinWith "/" (dropBlank ps.reverse).reverse) := by
  obtain ⟨q, qs, hq⟩ := List.exists_cons_of_ne_nil (List.reverse_ne_nil_iff.mpr hne)
  rw [parent?, h, List.reverse_concat, dropBlank_cons hn.not_blank, hq]
  dsimp only
  split
  · rename_i h
    rw [h, if_pos rfl]
  · rename_i h
    rw [if_neg h]

theorem parent?_join (hn : ∀ m ∈ names ++ [n], IsName m) (hne : names ≠ []) :
    parent? (join dir (Text.joinWith "/" (names ++ [n]))) =
      some (join dir (Text.joinWith "/" names)) := by
  have hnames : ∀ n ∈ names, IsName n := fun m hm => hn m (List.mem_append_left _ hm)
  obtain ⟨m, ms, hms⟩ := List.exists_cons_of_ne_nil (List.reverse_ne_nil_iff.mpr hne)
  have hm : IsName m := hnames m (List.mem_reverse.mp (hms ▸ List.mem_cons_self))
  have hrev : (base dir ++ names).reverse = m :: (ms ++ (base dir).reverse) := by
    rw [List.reverse_append, hms, List.cons_append]
  have hpieces : pieces (join dir (Text.joinWith "/" (names ++ [n]))) = base dir ++ (names ++ [n]) :=
    pieces_join hn (by simp)
  rw [← List.append_assoc] at hpieces
  rw [parent?_eq hpieces (hn n (by simp)) (by simp [hne]), join_names hnames hne, hrev,
    dropBlank_cons hm.not_blank, ← hrev, List.reverse_reverse, if_neg]
  intro h
  rw [hrev] at h
  exact hm.nonempty (List.cons.inj h).1

/-- Above a name in a directory there is the directory, with other blank pieces at its end, if any,
or the empty path. -/
theorem parent?_join_name (dir : String) (hn : IsName n) :
    ∃ above, parent? (join dir (Text.joinWith "/" [n])) = some above ∧
      (above = "" ∨ isAbsolute above = isAbsolute dir ∧
        (∃ tail, join dir (Text.joinWith "/" [n]) = above ++ tail) ∧
        ∃ front blanks blanks', base dir = front ++ blanks ∧ pieces above = front ++ blanks' ∧
          ∀ p ∈ blanks ++ blanks', Blank p) := by
  have hnames : ∀ m ∈ [n], IsName m := by simpa using hn
  have hpieces : pieces (join dir (Text.joinWith "/" [n])) = base dir ++ [n] :=
    pieces_join hnames (by simp)
  have hjoin : join dir (Text.joinWith "/" [n]) = Text.joinWith "/" (base dir ++ [n]) :=
    join_names hnames (by simp)
  by_cases hbase : base dir = []
  · refine ⟨"", ?_, .inl rfl⟩
    rw [parent?, hpieces, hbase]
    simp [dropBlank, hn.nonempty]
  · obtain ⟨blanks, hdrop, hne, hb⟩ := dropBlank_spec (List.reverse_ne_nil_iff.mpr hbase)
    rw [parent?_eq hpieces hn hbase]
    generalize dropBlank (base dir).reverse = kept at hdrop hne
    have hfront : base dir = kept.reverse ++ blanks.reverse := by
      rw [← List.reverse_reverse (base dir), hdrop, List.reverse_append]
    have htail : Text.joinWith "/" (base dir ++ [n]) = Text.joinWith "/" kept.reverse ++
        ("/" ++ Text.joinWith "/" (blanks.reverse ++ [n])) := by
      rw [hfront, List.append_assoc, Text.joinWith_append (by simp [hne]) (by simp),
        String.append_assoc]
    refine ⟨_, rfl, .inr ?_⟩
    split
    · rename_i hroot
      subst hroot
      refine ⟨?_, ⟨_, hjoin.trans htail⟩, [""], blanks.reverse, [""], hfront, by decide, ?_⟩
      · rw [Bool.eq_iff_iff, isAbsolute_base, isAbsolute_base, hfront]
        simp
        decide
      · intro p hp
        rcases List.mem_append.mp hp with hp | hp
        · exact hb p (List.mem_reverse.mp hp)
        · exact .inl (List.mem_singleton.mp hp)
    · rename_i hroot
      have hslash : ∀ p ∈ kept.reverse, '/' ∉ p.toList := fun p hp =>
        not_mem_of_mem_pieces (mem_base (hfront ▸ List.mem_append_left _ hp))
      have hp := pieces_joinWith (by simp [hne]) hslash
      refine ⟨?_, ⟨_, hjoin.trans htail⟩, kept.reverse, blanks.reverse, [], hfront, by simp [hp],
        by simpa using hb⟩
      rw [Bool.eq_iff_iff, isAbsolute_iff, isAbsolute_base, hp, hfront]
      rcases hk : kept.reverse with _ | ⟨k, _ | ⟨l, ks⟩⟩
      · exact absurd (List.reverse_eq_nil_iff.mp hk) hne
      · have hkept : kept = [k] := by rw [← List.reverse_reverse kept, hk]; rfl
        simpa [hkept] using hroot
      · simp

end Path

end AvroLink
