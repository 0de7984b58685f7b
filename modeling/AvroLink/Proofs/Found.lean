import AvroLink.Proofs.Directories
import AvroLink.Proofs.PatternText
import AvroLink.Proofs.Trail

/-!
# Where a pattern leads

Each step of a walk behind a pattern adds its component to the path and moves through the tree in
the same way (`Reaches`). So the path of a place that was found tells where it lies. A pattern that
does not `climb` only goes down by names.
-/

namespace AvroLink

open FileTree AvroLink.Path

namespace FileTree

/-- A tree whose directories list their entries in order, by names that are steps down. -/
structure Listed (t : FileTree) : Prop where
  sorted : t.Sorted
  named : ∀ p es, t.get? p = some (dir es) → ∀ e ∈ es, IsName e.1

theorem lookup_of_mem_entries {es : List (String × FileTree)} {n : String} {t : FileTree}
    (h : es.Pairwise fun e f => e.1 < f.1) (he : (n, t) ∈ es) : es.lookup n = some t := by
  obtain ⟨before, after, rfl⟩ := List.append_of_mem he
  refine List.lookup_eq_some_iff.mpr ⟨before, after, rfl, fun e hm => ?_⟩
  have hlt : e.1 < n := (List.pairwise_append.mp h).2.2 e hm (n, t) List.mem_cons_self
  simpa using hlt.ne'

theorem dir_above {t : FileTree} {p q : List String} {es : List (String × FileTree)}
    (h : t.get? p = some (dir es)) (hq : q <+: p) : ∃ es', t.get? q = some (dir es') := by
  obtain ⟨r, rfl⟩ := hq
  rw [get?_append] at h
  obtain ⟨u, hu, hr⟩ := Option.bind_eq_some_iff.mp h
  cases u with
  | dir es' => exact ⟨es', hu⟩
  | file b =>
    cases r with
    | nil => cases hr.symm.trans get?_nil
    | cons n r => cases hr.symm.trans get?_file

theorem Listed.file (b : ByteArray) : (FileTree.file b).Listed where
  sorted p es h := by cases p <;> simp [get?_file] at h
  named p es h := by cases p <;> simp [get?_file] at h

theorem Listed.dir {es : List (String × FileTree)} (sorted : es.Pairwise fun e f => e.1 < f.1)
    (h : ∀ e ∈ es, IsName e.1 ∧ e.2.Listed) : (FileTree.dir es).Listed := by
  have hsub : ∀ {n : String} {p : List String} {es' : List (String × FileTree)},
      (FileTree.dir es).get? (n :: p) = some (.dir es') →
        ∃ u : FileTree, u.Listed ∧ u.get? p = some (.dir es') := by
    intro n p es' hp
    rw [get?_cons] at hp
    obtain ⟨u, hu, hget⟩ := Option.bind_eq_some_iff.mp hp
    obtain ⟨before, after, he, -⟩ := List.lookup_eq_some_iff.mp hu
    exact ⟨u, (h (n, u) (by simp [he])).2, hget⟩
  constructor
  · intro p es' hp
    cases p with
    | nil =>
      cases get?_nil.symm.trans hp
      exact sorted
    | cons n p =>
      obtain ⟨u, hu, hp⟩ := hsub hp
      exact hu.sorted p es' hp
  · intro p es' hp
    cases p with
    | nil =>
      cases get?_nil.symm.trans hp
      exact fun e he => (h e he).1
    | cons n p =>
      obtain ⟨u, hu, hp⟩ := hsub hp
      exact hu.named p es' hp

end FileTree

namespace Disk

variable {d : Disk} {loc loc' ps : List String} {n : String}

/-- Where a component leads from a directory. -/
def move (loc : List String) : Component → List String
  | .name n => loc ++ [n]
  | .up => loc.dropLast
  | _ => loc

theorem foldl_move_names (loc ns : List String) :
    (ns.map Component.name).foldl move loc = loc ++ ns := by
  induction ns generalizing loc with
  | nil => simp
  | cons n ns ih => simp [ih, move]

/-- A step that is taken moves by the component of its piece, which is no path of its own. Only a
name leads away from directories. -/
theorem step_moves (hd : d.root.Listed) (h : d.step loc n = .ok loc') :
    loc' = (innerComponent? n).toList.foldl move loc ∧ '/' ∉ n.toList ∧
      (innerComponent? n = some (.name n) ∨ ∃ es, d.root.get? loc' = some (.dir es)) := by
  unfold step at h
  split at h
  · rename_i es hes
    split at h
    · rename_i hb
      cases h
      rw [innerComponent?, if_pos hb]
      exact ⟨rfl, by rcases hb with rfl | rfl <;> decide, .inr ⟨es, hes⟩⟩
    · rename_i hb
      split at h
      · rename_i hup
        cases h
        subst hup
        exact ⟨rfl, by decide, .inr (dir_above hes (List.dropLast_prefix loc))⟩
      · rename_i hup
        split at h
        · cases h
        · split at h
          · rename_i hs
            cases h
            obtain ⟨t, ht⟩ := Option.isSome_iff_exists.mp hs
            obtain ⟨before, after, rfl, -⟩ := List.lookup_eq_some_iff.mp ht
            rw [innerComponent?, if_neg hb, if_neg hup]
            exact ⟨rfl, (hd.named loc _ hes (n, t) (by simp)).slash, .inl rfl⟩
          · cases h
  · cases h
  · cases h

theorem follow_moves (hd : d.root.Listed) (h : d.follow loc ps = .ok loc') :
    loc' = (ps.filterMap innerComponent?).foldl move loc := by
  induction ps generalizing loc with
  | nil =>
    cases h
    rfl
  | cons p ps ih =>
    rw [follow] at h
    cases hs : d.step loc p with
    | error e =>
      rw [hs] at h
      cases h
    | ok loc₁ =>
      rw [hs] at h
      rw [ih h, (step_moves hd hs).1]
      cases hi : innerComponent? p <;> simp [hi]

end Disk

namespace Glob

variable {d : Disk} {needDir : Bool} {x : Pattern} {xs : List Pattern} {p q r : Place}
  {piece n : String} {t : FileTree} {es : List (String × FileTree)}
  {steps steps' : List Component}

/-! ## Steps -/

/-- The components that were taken to a place; the working directory is left out of paths. -/
def Place.trail (p : Place) : List Component := if p.path = "." then [] else components p.path

/-- A place is on the disk, by a path. -/
structure Place.On (p : Place) (d : Disk) : Prop where
  path : p.path ≠ ""
  there : d.root.get? p.names = some p.tree

/-- The steps lead from the place `p` to the place `q`, the last one by a name if that is a file. -/
structure Reaches (d : Disk) (p q : Place) (steps : List Component) : Prop where
  on : q.On d
  trail : q.trail = p.trail ++ steps
  names : q.names = steps.foldl Disk.move p.names
  last : q.tree.isDir = false →
    steps = [] ∧ p.tree.isDir = false ∨ ∃ n, steps.getLast? = some (.name n)

namespace Reaches

theorem refl (h : p.On d) : Reaches d p p [] := ⟨h, by simp, rfl, fun hp => .inl ⟨rfl, hp⟩⟩

theorem trans (h : Reaches d p q steps) (h' : Reaches d q r steps') :
    Reaches d p r (steps ++ steps') where
  on := h'.on
  trail := by rw [h'.trail, h.trail, List.append_assoc]
  names := by rw [h'.names, h.names, List.foldl_append]
  last hr := by
    rcases h'.last hr with ⟨rfl, hq⟩ | ⟨n, hn⟩
    · simpa only [List.append_nil] using h.last hq
    · exact .inr ⟨n, by rw [List.getLast?_append, hn, Option.some_or]⟩

theorem below (h : p.On d) (hslash : '/' ∉ piece.toList) (hempty : p.path = "." → piece ≠ "")
    (hlast : innerComponent? piece = some (.name piece) ∨ t.isDir = true)
    (ht : d.root.get? ((innerComponent? piece).toList.foldl Disk.move p.names) = some t) :
    Reaches d p (p.below piece ((innerComponent? piece).toList.foldl Disk.move p.names) t)
      (innerComponent? piece).toList where
  on := by
    refine ⟨?_, ht⟩
    unfold Place.below
    dsimp only
    split
    · exact hempty ‹_›
    · exact join_ne_empty_of_ne h.path
  trail := by
    unfold Place.trail Place.below
    dsimp only
    by_cases hp : p.path = "."
    · rw [if_pos hp, if_pos hp, List.nil_append]
      split
      · rename_i hhere
        rw [hhere]
        rfl
      · rename_i hhere
        exact components_piece hslash (hempty hp) hhere
    · rw [if_neg hp, if_neg hp, if_neg (join_ne_here h.path), components_join h.path hslash]
  names := rfl
  last hfile := by
    rcases hlast with hname | hdir
    · exact .inr ⟨piece, by rw [hname]; rfl⟩
    · cases hfile.symm.trans hdir

end Reaches

theorem stepTo_reaches (hd : d.root.Listed) (h : p.On d) (hs : stepTo d p piece = some q) :
    Reaches d p q (innerComponent? piece).toList := by
  unfold stepTo at hs
  split at hs
  · cases hs
  · rename_i hempty
    split at hs
    · rename_i names hstep
      obtain ⟨hm, -⟩ := Option.filter_eq_some_iff.mp hs
      obtain ⟨t, ht, rfl⟩ := Option.map_eq_some_iff.mp hm
      obtain ⟨rfl, hslash, hlast⟩ := Disk.step_moves hd hstep
      refine .below h hslash (fun hp he => hempty ⟨hp, he⟩) (hlast.imp_right ?_) ht
      rintro ⟨es, hes⟩
      cases hes.symm.trans ht
      rfl
    · cases hs

theorem path_ne_here (h : p.trail ≠ []) : p.path ≠ "." := fun hp => h (if_pos hp)

/-- Away from the working directory, a step up is a step like any other. -/
theorem stepUp_eq (h : p.path ≠ ".") : stepUp d p = stepTo d p ".." := by
  unfold stepUp stepTo
  rw [if_neg fun hp => h hp.1]
  split
  · rename_i names _
    cases d.root.get? names with
    | none => rfl
    | some t =>
      simp only [Option.map_some, Option.filter_some, Place.below, if_neg h]
      split <;> rfl
  · rfl

theorem entry_reaches (hd : d.root.Listed) (h : p.On d)
    (hp : p.tree = .dir es) (he : (n, t) ∈ es) :
    Reaches d p (p.below n (p.names ++ [n]) t) [.name n] := by
  have hes : d.root.get? p.names = some (.dir es) := hp ▸ h.there
  have hname : IsName n := hd.named p.names es hes (n, t) he
  have hi : innerComponent? n = some (.name n) := hname.innerComponent?
  have ht : d.root.get? ((innerComponent? n).toList.foldl Disk.move p.names) = some t := by
    rw [hi]
    change d.root.get? (p.names ++ [n]) = some t
    rw [get?_snoc hes, lookup_of_mem_entries (hd.sorted p.names es hes) he]
  have hreach := Reaches.below h hname.slash (fun _ => hname.nonempty) (.inl hi) ht
  rw [hi] at hreach
  exact hreach

/-! ## What a walk can do -/

/-- What the parts `xs` match from a place that the part before them has matched. -/
def onward (d : Disk) (needDir : Bool) (xs : List Pattern) (p : Place) : List Place :=
  if xs.isEmpty then accept needDir p else fill d needDir xs p

theorem mem_accept (h : q ∈ accept needDir p) : q = p := by
  unfold accept at h
  split at h
  · cases h
  · exact List.mem_singleton.mp h

theorem flatMap_attach {β : Type} (es : List (String × FileTree)) (f : String → FileTree → List β) :
    (es.attach.flatMap fun e => f e.1.1 e.1.2) = es.flatMap fun e => f e.1 e.2 := by
  conv_rhs => rw [← List.attach_map_subtype_val es]
  rw [List.flatMap_map]

theorem fill_cons : fill d needDir (x :: xs) p =
    match literal? x with
    | some s => (stepTo d p (String.ofList s)).toList.flatMap (onward d needDir xs)
    | none =>
      match p.tree with
      | .file _ => []
      | .dir es =>
        (if x.head? = some (.char '.') then
            (if matchesName x ['.', '.'] then (stepUp d p).toList.flatMap (onward d needDir xs)
              else []) ++
            (if matchesName x ['.'] then (stepTo d p ".").toList.flatMap (onward d needDir xs)
              else [])
          else []) ++
          es.flatMap fun (n, t) => visit d needDir x xs n (p.below n (p.names ++ [n]) t) := by
  rw [fill]
  cases literal? x with
  | some s =>
    dsimp only
    cases stepTo d p (String.ofList s) <;> simp [onward]
  | none =>
    dsimp only
    split
    · rename_i hp
      rw [hp]
    · rename_i es hp
      simp only [hp, isDir, Bool.and_true, decide_eq_true_eq]
      congr 1
      · cases stepUp d p <;> cases stepTo d p "." <;> simp [onward]
      · exact flatMap_attach es fun n t => visit d needDir x xs n (p.below n (p.names ++ [n]) t)

theorem matchEntry_eq : matchEntry d needDir x xs n p =
    if matchesName x n.toList then onward d needDir xs p else [] := by
  rw [matchEntry]
  rfl

theorem visit_once (hx : isRecursive x = false) :
    visit d needDir x xs n p = matchEntry d needDir x xs n p := by
  rw [visit]
  simp [hx]

/-- What a mark for directories matches at an entry: the entry itself by the parts behind all such
marks, and what is below it. -/
theorem visit_recursive (hx : isRecursive x = true) :
    visit d needDir x xs n p =
      (match xs.dropWhile isRecursive with
        | [] => if p.tree.isDir then [p] else []
        | y :: ys => matchEntry d needDir y ys n p) ++
      p.tree.entries.flatMap fun (m, t) =>
        visit d needDir x (xs.dropWhile isRecursive) m (p.below m (p.names ++ [m]) t) := by
  rw [visit]
  simp only [hx, if_true]
  split
  · rename_i hp
    rw [hp, isDir, entries, List.flatMap_nil, List.append_nil]
    split
    · rename_i hys _
      rw [hys]
      rfl
    · rename_i hys _
      rw [hys]
  · rename_i es hp
    rw [hp, isDir, entries, flatMap_attach es fun m t =>
      visit d needDir x (xs.dropWhile isRecursive) m (p.below m (p.names ++ [m]) t)]
    split
    · rename_i hys _
      rw [hys]
      rfl
    · rename_i hys _
      rw [hys]

/-! ## Where the places lie -/

/-- A part of a pattern that leads up. -/
def climbs (x : Pattern) : Bool := x.head? == some (.char '.') && matchesName x ['.', '.']

theorem eq_of_literal? {s : List Char} (h : literal? x = some s) : x = s.map .char := by
  induction x generalizing s with
  | nil =>
    cases h
    rfl
  | cons t ts ih =>
    cases t with
    | char c =>
      obtain ⟨cs, hcs, rfl⟩ := Option.map_eq_some_iff.mp h
      rw [ih hcs, List.map_cons]
    | _ => cases h

theorem climbs_of_literal? {s : List Char} (h : literal? x = some s) (hs : String.ofList s = "..") :
    climbs x = true := by
  have hs : s = ['.', '.'] := String.ofList_injective hs
  rw [eq_of_literal? h, hs]
  decide

/-- The steps to `q` from `p`, which go down by names unless one of the parts climbs. -/
def Below (d : Disk) (xs : List Pattern) (p q : Place) : Prop :=
  ∃ steps, Reaches d p q steps ∧ (xs.any climbs = false → ∀ c ∈ steps, c.name?.isSome = true)

namespace Below

variable {ys : List Pattern}

theorem refl (h : p.On d) : Below d xs p p := ⟨[], .refl h, by simp⟩

theorem mono (h : Below d xs p q) (hsub : ∀ y ∈ xs, y ∈ ys) : Below d ys p q := by
  obtain ⟨steps, hr, hdown⟩ := h
  refine ⟨steps, hr, fun hys => hdown ?_⟩
  rw [List.any_eq_false] at hys ⊢
  exact fun y hy => hys y (hsub y hy)

theorem step (h : Reaches d p q steps)
    (hdown : xs.any climbs = false → ∀ c ∈ steps, c.name?.isSome = true) (hq : Below d xs q r) :
    Below d xs p r := by
  obtain ⟨steps', h', hdown'⟩ := hq
  refine ⟨steps ++ steps', h.trans h', fun hxs => ?_⟩
  rw [List.forall_mem_append]
  exact ⟨hdown hxs, hdown' hxs⟩

end Below

theorem Reaches.trail_ne_nil (h : Reaches d p q steps) (hp : p.trail ≠ []) : q.trail ≠ [] := by
  rw [h.trail]
  exact List.append_ne_nil_of_left_ne_nil hp _

theorem onward_below (hp : p.On d) (hq : q ∈ onward d needDir xs p)
    (hfill : q ∈ fill d needDir xs p → Below d xs p q) : Below d xs p q := by
  unfold onward at hq
  split at hq
  · cases mem_accept hq
    exact .refl hp
  · exact hfill hq

mutual

theorem fill_below (hd : d.root.Listed) (ps : List Pattern) (p : Place) (hp : p.On d)
    (htrail : p.trail ≠ []) (hq : q ∈ fill d needDir ps p) : Below d ps p q := by
  match ps with
  | [] =>
    rw [fill] at hq
    cases hq
  | x :: xs =>
    -- how to go on from a place that the first part has matched
    have hgo : ∀ {next : Place} {steps : List Component}, Reaches d p next steps →
        (climbs x = false → ∀ c ∈ steps, c.name?.isSome = true) →
        q ∈ onward d needDir xs next → Below d (x :: xs) p q := by
      intro next steps hreach hdown hnext
      have hrest := onward_below hreach.on hnext
        (fill_below hd xs next hreach.on (hreach.trail_ne_nil htrail))
      refine .step hreach (fun hxs => ?_) (hrest.mono fun y hy => List.mem_cons_of_mem _ hy)
      rw [List.any_cons, Bool.or_eq_false_iff] at hxs
      exact hdown hxs.1
    rw [fill_cons] at hq
    split at hq
    · rename_i s hs
      obtain ⟨next, hnext, hq⟩ := List.mem_flatMap.mp hq
      refine hgo (stepTo_reaches hd hp (Option.mem_toList.mp hnext)) (fun hx => ?_) hq
      refine innerComponent?_down fun hup => ?_
      rw [climbs_of_literal? hs hup] at hx
      cases hx
    · split at hq
      · cases hq
      · rename_i es hes
        rcases List.mem_append.mp hq with hq | hq
        · split at hq
          · rename_i hhead
            rcases List.mem_append.mp hq with hq | hq
            · split at hq
              · rename_i hmatch
                obtain ⟨next, hnext, hq⟩ := List.mem_flatMap.mp hq
                rw [stepUp_eq (path_ne_here htrail)] at hnext
                refine hgo (stepTo_reaches hd hp (Option.mem_toList.mp hnext)) (fun hx => ?_) hq
                simp [climbs, hhead, hmatch] at hx
              · cases hq
            · split at hq
              · obtain ⟨next, hnext, hq⟩ := List.mem_flatMap.mp hq
                exact hgo (stepTo_reaches hd hp (Option.mem_toList.mp hnext))
                  (fun _ => innerComponent?_down (by decide)) hq
              · cases hq
          · cases hq
        · obtain ⟨⟨n, t⟩, he, hq⟩ := List.mem_flatMap.mp hq
          have : sizeOf t < sizeOf p.tree := by
            have := sizeOf_lt_of_mem he
            rw [hes]
            simp at this ⊢
            omega
          have hreach := entry_reaches hd hp hes he
          refine .step hreach (fun _ => by simp [Component.name?]) ?_
          exact (visit_below hd x xs n _ hreach.on (hreach.trail_ne_nil htrail) hq).mono
            fun y hy => List.mem_cons_of_mem _ hy
termination_by (ps.length, sizeOf p.tree, 0)

theorem visit_below (hd : d.root.Listed) (x : Pattern) (xs : List Pattern) (n : String) (p : Place)
    (hp : p.On d) (htrail : p.trail ≠ []) (hq : q ∈ visit d needDir x xs n p) : Below d xs p q := by
  by_cases hx : isRecursive x = true
  · have hsuffix : xs.dropWhile isRecursive <:+ xs := List.dropWhile_suffix isRecursive
    rw [visit_recursive hx] at hq
    rcases List.mem_append.mp hq with hq | hq
    · split at hq
      · split at hq
        · cases List.mem_singleton.mp hq
          exact .refl hp
        · cases hq
      · rename_i y ys hys
        have : ys.length + 1 ≤ xs.length := by simpa [hys] using hsuffix.length_le
        refine (matchEntry_below hd y ys n p hp htrail hq).mono fun z hz => hsuffix.subset ?_
        rw [hys]
        exact List.mem_cons_of_mem _ hz
    · obtain ⟨⟨m, t⟩, he, hq⟩ := List.mem_flatMap.mp hq
      have hes : p.tree = .dir p.tree.entries := by
        cases hp : p.tree with
        | dir es => rfl
        | file b =>
          rw [hp] at he
          cases he
      have : sizeOf t < sizeOf p.tree := by
        have := sizeOf_lt_of_mem he
        rw [hes]
        simp at this ⊢
        omega
      have hreach := entry_reaches hd hp hes he
      have hrest := visit_below hd x (xs.dropWhile isRecursive) m _ hreach.on
        (hreach.trail_ne_nil htrail) hq
      exact .step hreach (fun _ => by simp [Component.name?])
        (hrest.mono fun y hy => hsuffix.subset hy)
  · rw [visit_once (by simpa using hx)] at hq
    exact matchEntry_below hd x xs n p hp htrail hq
termination_by (xs.length + 1, sizeOf p.tree, 2)
decreasing_by
  · left
    omega
  · rcases Nat.lt_or_eq_of_le hsuffix.length_le with hlt | heq
    · left
      exact Nat.succ_lt_succ hlt
    · rw [heq]
      right
      left
      exact this
  · right
    right
    omega

theorem matchEntry_below (hd : d.root.Listed) (x : Pattern) (xs : List Pattern) (n : String)
    (p : Place) (hp : p.On d) (htrail : p.trail ≠ []) (hq : q ∈ matchEntry d needDir x xs n p) :
    Below d xs p q := by
  rw [matchEntry_eq] at hq
  split at hq
  · exact onward_below hp hq (fill_below hd xs p hp htrail)
  · cases hq
termination_by (xs.length + 1, sizeOf p.tree, 1)

end

/-! ## Parts that stand for one text -/

/-- An escaped part leads to nothing but a place called as it says. -/
theorem fill_exactly (hd : d.root.Listed) (hp : p.On d) {cs : List Char}
    (hq : q ∈ fill d needDir (cs.map exactly :: xs) p) :
    ∃ next, Reaches d p next (innerComponent? (String.ofList cs)).toList ∧
      q ∈ onward d needDir xs next := by
  rw [fill_cons] at hq
  split at hq
  · rename_i s hs
    obtain ⟨next, hnext, hq⟩ := List.mem_flatMap.mp hq
    rw [literal?_exactly hs] at hnext
    exact ⟨next, stepTo_reaches hd hp (Option.mem_toList.mp hnext), hq⟩
  · rename_i hnone
    -- a part with brackets is none of the two that are made of dots
    have hdots : ∀ name : List Char, (∀ c ∈ name, c = '.') →
        matchesName (cs.map exactly) name = false := by
      intro name hname
      rw [matchesName_exactly, decide_eq_false_iff_not]
      rintro rfl
      rw [literal?_exactly_dots name hname] at hnone
      cases hnone
    split at hq
    · cases hq
    · rename_i es hes
      rw [hdots ['.', '.'] (by simp), hdots ['.'] (by simp)] at hq
      simp only [Bool.false_eq_true, if_false, List.append_nil, ite_self, List.nil_append] at hq
      obtain ⟨⟨n, t⟩, he, hq⟩ := List.mem_flatMap.mp hq
      rw [visit_once (not_recursive_exactly cs), matchEntry_eq, matchesName_exactly] at hq
      split at hq
      · rename_i hn
        have hname : n = String.ofList cs := by
          rw [← of_decide_eq_true hn, String.ofList_toList]
        have hes' : d.root.get? p.names = some (.dir es) := hes ▸ hp.there
        have hi := (hd.named p.names es hes' (n, t) he).innerComponent?
        refine ⟨_, ?_, hq⟩
        rw [← hname, hi]
        exact entry_reaches hd hp hes he
      · cases hq

theorem onward_exactly (hd : d.root.Listed) (hp : p.On d) {front : List (List Char)}
    (hq : q ∈ onward d needDir (front.map (·.map exactly) ++ xs) p) :
    ∃ next, Reaches d p next ((front.map String.ofList).filterMap innerComponent?) ∧
      q ∈ onward d needDir xs next := by
  induction front generalizing p with
  | nil => exact ⟨p, .refl hp, hq⟩
  | cons cs front ih =>
    obtain ⟨next, hnext, hq⟩ := fill_exactly hd hp hq
    obtain ⟨last, hlast, hq⟩ := ih hnext.on hq
    refine ⟨last, ?_, hq⟩
    have hsteps := hnext.trans hlast
    cases hi : innerComponent? (String.ofList cs) with
    | none => simpa [hi] using hsteps
    | some c => simpa [hi] using hsteps

/-! ## The working directory -/

/-- Where a pattern begins that has no slash in front. -/
def start (d : Disk) (t : FileTree) : Place := ⟨".", d.cwd, t⟩

theorem start_on (ht : d.root.get? d.cwd = some t) : (start d t).On d := ⟨by simp [start], ht⟩

theorem stepTo_here (ht : d.root.get? d.cwd = some (.dir es)) :
    stepTo d (start d (.dir es)) "." = some (start d (.dir es)) := by
  have hstep : d.step d.cwd "." = .ok d.cwd := Disk.step_blank ht (.inr rfl)
  rw [stepTo, if_neg (by simp [start])]
  simp only [start, hstep, ht, Option.map_some, Place.below, if_true, Option.filter_some]
  exact if_pos (by decide)

end Glob

end AvroLink
