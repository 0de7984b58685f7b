import Mathlib.Data.List.Induction
import AvroLink.Proofs.Below
import AvroLink.Proofs.Tree

/-!
# Making directories

Below a directory that is there (`Disk.Leads`), a path of names without files on it is followed as
far as it exists, and the directories that are missing are made (`createDirs_join`).
-/

namespace AvroLink.Disk

open FileTree AvroLink.Path

variable {d d' : Disk} {dir path n : String} {loc loc' names ps qs : List String} {t u new : FileTree}
  {es : List (String × FileTree)} {e : FileError}

/-- A name that a directory takes. -/
structure EntryName (n : String) : Prop extends IsName n where
  short : n.utf8ByteSize ≤ maxNameSize

/-! ## Following -/

theorem follow_append :
    d.follow loc (ps ++ qs) = d.follow loc ps >>= fun loc => d.follow loc qs := by
  induction ps generalizing loc with
  | nil => rfl
  | cons p ps ih =>
    rw [List.cons_append, follow, follow]
    cases d.step loc p with
    | error e => rfl
    | ok loc' => exact ih

theorem step_blank (h : d.root.get? loc = some (.dir es)) (hp : Blank n) :
    d.step loc n = .ok loc := by
  rw [step, h]
  exact if_pos hp

theorem step_name (h : d.root.get? loc = some (.dir es)) (hn : EntryName n) :
    d.step loc n = if (es.lookup n).isSome then .ok (loc ++ [n]) else .error .notFound := by
  have hb : ¬ (n = "" ∨ n = ".") := hn.toIsName.not_blank
  rw [step, h]
  dsimp only
  rw [if_neg hb, if_neg hn.not_up, if_neg (Nat.not_lt.mpr hn.short)]

theorem follow_names (h : d.root.get? loc = some t) (hc : t.Clear names)
    (hn : ∀ n ∈ names, EntryName n) :
    d.follow loc names =
      if (t.get? names).isSome then .ok (loc ++ names) else .error .notFound := by
  induction names generalizing loc t with
  | nil => simp [follow]
  | cons n ns ih =>
    obtain ⟨es, rfl⟩ := (hc.upTo List.nil_prefix).dir get?_nil
    rw [follow, step_name h (hn n List.mem_cons_self), get?_cons]
    cases hu : es.lookup n with
    | none => rfl
    | some u =>
      have hloc : d.root.get? (loc ++ [n]) = some u := by rw [get?_snoc h, hu]
      have hrest := ih hloc (hc.cons hu) fun m hm => hn m (List.mem_cons_of_mem _ hm)
      rw [List.append_assoc, List.singleton_append] at hrest
      exact hrest

theorem follow_blank (h : d.root.get? loc = some (.dir es)) (hp : ∀ p ∈ ps, Blank p) :
    d.follow loc ps = .ok loc := by
  induction ps with
  | nil => rfl
  | cons p ps ih =>
    rw [follow, step_blank h (hp p List.mem_cons_self)]
    exact ih fun q hq => hp q (List.mem_cons_of_mem _ hq)

theorem eq_of_follow_blank (h : d.follow loc ps = .ok loc') (hp : ∀ p ∈ ps, Blank p) :
    loc' = loc := by
  induction ps with
  | nil =>
    cases h
    rfl
  | cons p ps ih =>
    have hblank := hp p List.mem_cons_self
    have hstep : d.step loc p = .ok loc ∨ ∃ e, d.step loc p = .error e := by
      rw [step]
      split
      · exact .inl (if_pos hblank)
      · exact .inr ⟨_, rfl⟩
      · exact .inr ⟨_, rfl⟩
    rw [follow] at h
    rcases hstep with hs | ⟨e, hs⟩
    · rw [hs] at h
      exact ih h fun q hq => hp q (List.mem_cons_of_mem _ hq)
    · rw [hs] at h
      cases h

theorem step_grown (hg : Grown d.root d'.root) (h : d.step loc n = .ok loc') :
    d'.step loc n = .ok loc' := by
  unfold step at h
  split at h
  · rename_i es hes
    obtain ⟨es', hes'⟩ := hg.dir hes
    unfold step
    rw [hes']
    dsimp only
    split at h
    · rename_i hb
      rwa [if_pos hb]
    · rename_i hb
      rw [if_neg hb]
      split at h
      · rename_i hup
        rwa [if_pos hup]
      · rename_i hup
        rw [if_neg hup]
        split at h
        · cases h
        · rename_i hsize
          rw [if_neg hsize]
          split at h
          · rename_i hs
            obtain ⟨u, hu⟩ := Option.isSome_iff_exists.mp hs
            obtain ⟨u', hu', -⟩ := hg (loc ++ [n]) u (by rw [get?_snoc hes, hu])
            rw [get?_snoc hes'] at hu'
            rwa [hu', Option.isSome_some, if_pos rfl]
          · cases h
  · cases h
  · cases h

/-- What was followed is followed on a disk that has grown. -/
theorem follow_grown (hg : Grown d.root d'.root) (h : d.follow loc ps = .ok loc') :
    d'.follow loc ps = .ok loc' := by
  induction ps generalizing loc with
  | nil => exact h
  | cons p ps ih =>
    rw [follow] at h ⊢
    cases hs : d.step loc p with
    | error e =>
      rw [hs] at h
      cases h
    | ok loc₁ =>
      rw [hs] at h
      rw [step_grown hg hs]
      exact ih h

/-! ## A directory that is there -/

/-- The path `dir` leads along the names `loc` to the tree `t`. -/
structure Leads (d : Disk) (dir : String) (loc : List String) (t : FileTree) : Prop where
  follow : d.follow (d.origin dir) (pieces dir) = .ok loc
  get : d.root.get? loc = some t

theorem put_root : (d.put loc t).root = t.put loc d.root := rfl

theorem put_put (d : Disk) (loc : List String) (t u : FileTree) :
    (d.put loc t).put loc u = d.put loc u := by
  simp only [put, FileTree.put_put]

theorem put_append (h : d.root.get? loc = some t) :
    d.put (loc ++ names) new = d.put loc (new.put names t) := by
  simp only [put, FileTree.put_append, h, Option.getD_some]

/-! ## Paths that can be handed to the operating system -/

theorem checkPath_ok : checkPath path = .ok () ↔
    Char.ofNat 0 ∉ path.toList ∧ path ≠ "" ∧ path.utf8ByteSize ≤ maxPathSize := by
  unfold checkPath
  split
  · simp_all
  · split
    · simp_all
    · split
      · simp_all
      · simp_all

theorem checkPath_front {tail : String} (h : checkPath (path ++ tail) = .ok ()) (hne : path ≠ "") :
    checkPath path = .ok () := by
  rw [checkPath_ok] at h ⊢
  obtain ⟨hnul, -, hsize⟩ := h
  rw [String.utf8ByteSize_append] at hsize
  refine ⟨fun hm => hnul ?_, hne, by omega⟩
  rw [String.toList_append]
  exact List.mem_append_left _ hm

/-- The pieces of a path are those in front, the last one and empty ones, or all are empty. -/
theorem splitLast_spec (path : String) :
    splitLast path = ([], "") ∨
      ∃ blanks, pieces path = (splitLast path).1 ++ (splitLast path).2 :: blanks := by
  have hsplit := List.takeWhile_append_dropWhile (p := (· = "")) (l := (pieces path).reverse)
  unfold splitLast
  rcases hd : (pieces path).reverse.dropWhile (· = "") with _ | ⟨p, ps⟩
  · exact .inl rfl
  · right
    rw [hd] at hsplit
    generalize (pieces path).reverse.takeWhile (· = "") = blanks at hsplit
    refine ⟨blanks.reverse, ?_⟩
    simpa using (congrArg List.reverse hsplit).symm

section

variable (hn : ∀ m ∈ names ++ [n], IsName m)
include hn

theorem splitLast_join :
    splitLast (join dir (Text.joinWith "/" (names ++ [n]))) = (base dir ++ names, n) := by
  have hne : n ≠ "" := (hn n (by simp)).nonempty
  rw [splitLast, pieces_join hn (by simp), ← List.append_assoc, List.reverse_concat,
    List.dropWhile_cons_of_neg (by simpa using hne)]
  simp

end

theorem origin_join (hn : ∀ n ∈ names, IsName n) (hne : names ≠ []) :
    d.origin (join dir (Text.joinWith "/" names)) = d.origin dir := by
  rw [origin, origin, isAbsolute_join hn hne]

/-! ## Directories that are there -/

theorem resolve_ok (h : d.resolve path = .ok loc) :
    checkPath path = .ok () ∧ d.follow (d.origin path) (pieces path) = .ok loc := by
  unfold resolve at h
  cases hc : checkPath path with
  | error e =>
    rw [hc] at h
    cases h
  | ok _ =>
    rw [hc] at h
    exact ⟨rfl, h⟩

theorem createDir_eq {front : List String} (fits : checkPath path = .ok ())
    (hs : splitLast path = (front, n)) (hn : ¬ (n = "" ∨ n = "." ∨ n = "..")) :
    d.createDir path = d.follow (d.origin path) front >>= fun at_ =>
      match d.step at_ n with
      | .ok _ => .error .exists
      | .error .notFound => .ok (d.put (at_ ++ [n]) (.dir []))
      | .error e => .error e := by
  unfold createDir
  rw [fits, hs]
  exact if_neg hn

theorem createDir_of_resolve (h : d.resolve path = .ok loc) :
    d.createDir path = .error .exists := by
  obtain ⟨fits, hf⟩ := resolve_ok h
  rcases hs : splitLast path with ⟨front, last⟩
  by_cases hlast : last = "" ∨ last = "." ∨ last = ".."
  · unfold createDir
    rw [fits, hs]
    change (if _ then _ else _) = _
    rw [if_pos hlast, h]
    rfl
  · rw [createDir_eq fits hs hlast]
    obtain ⟨blanks, hp⟩ := (splitLast_spec path).resolve_left fun he =>
      hlast (.inl (congrArg Prod.snd (hs.symm.trans he)))
    -- the last name was followed, too
    rw [hp, hs, follow_append] at hf
    cases hfront : d.follow (d.origin path) front with
    | error e =>
      rw [hfront] at hf
      cases hf
    | ok loc₁ =>
      rw [hfront] at hf
      change d.follow loc₁ (last :: blanks) = _ at hf
      rw [follow] at hf
      change (match d.step loc₁ last with
        | .ok _ => _
        | .error .notFound => _
        | .error e => _) = _
      cases hstep : d.step loc₁ last with
      | error e =>
        rw [hstep] at hf
        cases hf
      | ok loc₂ => rfl

theorem createDirs_of_resolve (h : d.resolve path = .ok loc)
    (hd : d.root.get? loc = some (.dir es)) (fuel : Nat) : d.createDirs path fuel = .ok d := by
  cases fuel with
  | zero => rfl
  | succ fuel =>
    have hisDir : d.isDir path = true := by
      rw [isDir, find?, h]
      simp [hd, FileTree.isDir]
    have hcreate := createDir_of_resolve h
    rw [createDirs]
    split
    · rfl
    · simp only [hcreate, hisDir, if_true]

/-! ## Below a directory -/

namespace Leads

variable (h : d.Leads dir loc t)
include h

theorem put (hd : t.isDir) (hg : Grown t u) : (d.put loc u).Leads dir loc u where
  follow := follow_grown (Grown.put_of_get? h.get hg) h.follow
  get := by
    obtain ⟨es, rfl⟩ := isDir_iff.mp hd
    exact get?_put_self (clear_of_get? h.get)

theorem follow_base : d.follow (d.origin dir) (base dir) = .ok loc := by
  have hf := h.follow
  rcases pieces_eq_base dir with ⟨hp, -⟩ | hp
  · rwa [hp] at hf
  · rw [hp, follow_append] at hf
    cases hb : d.follow (d.origin dir) (base dir) with
    | error e =>
      rw [hb] at hf
      cases hf
    | ok loc' =>
      rw [hb] at hf
      have hblank : ∀ p ∈ [""], Blank p := by simp [Blank]
      rw [eq_of_follow_blank hf hblank]

/-- Other blank pieces may stand behind the directory. -/
theorem follow_front {front blanks blanks' : List String} (hbase : base dir = front ++ blanks)
    (hd : t.isDir) (hb : ∀ p ∈ blanks ++ blanks', Blank p) :
    d.follow (d.origin dir) (front ++ blanks') = .ok loc := by
  obtain ⟨es, rfl⟩ := isDir_iff.mp hd
  have hf := h.follow_base
  rw [hbase, follow_append] at hf
  cases hfront : d.follow (d.origin dir) front with
  | error e =>
    rw [hfront] at hf
    cases hf
  | ok loc' =>
    rw [hfront] at hf
    obtain rfl : loc = loc' := eq_of_follow_blank hf fun p hp => hb p (List.mem_append_left _ hp)
    rw [follow_append, hfront]
    exact follow_blank h.get fun p hp => hb p (List.mem_append_right _ hp)

variable (hn : ∀ n ∈ names, EntryName n) (hc : t.Clear names)
include hn hc

theorem follow_below :
    d.follow (d.origin dir) (base dir ++ names) =
      if (t.get? names).isSome then .ok (loc ++ names) else .error .notFound := by
  rw [follow_append, h.follow_base]
  exact follow_names h.get hc hn

theorem resolve_join (hne : names ≠ [])
    (fits : checkPath (join dir (Text.joinWith "/" names)) = .ok ()) :
    d.resolve (join dir (Text.joinWith "/" names)) =
      if (t.get? names).isSome then .ok (loc ++ names) else .error .notFound := by
  have hnames : ∀ n ∈ names, IsName n := fun n h => (hn n h).toIsName
  rw [resolve, fits, origin_join hnames hne, pieces_join hnames hne]
  exact h.follow_below hn hc

end Leads

/-! ## Directories that are missing -/

namespace Leads

variable (h : d.Leads dir loc t) (hn : ∀ m ∈ names ++ [n], EntryName m)
  (hc : t.Clear (names ++ [n]))
  (fits : checkPath (join dir (Text.joinWith "/" (names ++ [n]))) = .ok ())
include h hn hc fits

theorem createDir_below :
    d.createDir (join dir (Text.joinWith "/" (names ++ [n]))) =
      if (t.get? names).isSome then
        if (t.get? (names ++ [n])).isSome then .error .exists
        else .ok (d.put loc ((FileTree.dir []).put (names ++ [n]) t))
      else .error .notFound := by
  have hnames : ∀ m ∈ names ++ [n], IsName m := fun m hm => (hn m hm).toIsName
  have hlast : ¬ (n = "" ∨ n = "." ∨ n = "..") := by
    have hn := hnames n (by simp)
    simp [hn.nonempty, hn.not_here, hn.not_up]
  rw [createDir_eq fits (splitLast_join hnames) hlast, origin_join hnames (by simp),
    h.follow_below (fun m hm => hn m (List.mem_append_left _ hm))
      (hc.upTo (List.prefix_append ..))]
  cases hu : t.get? names with
  | none => rfl
  | some u =>
    obtain ⟨es, rfl⟩ := (hc.upTo (List.prefix_append ..)).dir hu
    have hloc : d.root.get? (loc ++ names) = some (.dir es) := by
      rw [FileTree.get?_append, h.get]
      exact hu
    have hstep := step_name hloc (hn n (by simp))
    rw [get?_snoc hu]
    simp only [Option.isSome_some, if_true]
    change (match d.step (loc ++ names) n with
        | .ok _ => _
        | .error .notFound => _
        | .error e => _) = _
    rw [hstep]
    cases es.lookup n with
    | some v => rfl
    | none =>
      simp only [Option.isSome_none, Bool.false_eq_true, if_false, List.append_assoc]
      rw [put_append h.get]

end Leads

theorem createDirs_new {fuel : Nat} (hpath : path ≠ "")
    (h : d.createDir path = .ok d') : d.createDirs path (fuel + 1) = .ok d' := by
  rw [createDirs, if_neg hpath]
  simp only [h]

/-- The directories below `dir` that are missing are made. -/
theorem Leads.createDirs_join {fuel : Nat} (h : d.Leads dir loc t) (hne : names ≠ [])
    (hn : ∀ m ∈ names, EntryName m) (hc : t.Clear names)
    (fits : checkPath (join dir (Text.joinWith "/" names)) = .ok ())
    (hfuel : names.length ≤ fuel) :
    d.createDirs (join dir (Text.joinWith "/" names)) fuel =
      .ok (if (t.get? names).isSome then d
        else d.put loc ((FileTree.dir []).put names t)) := by
  induction names using List.reverseRecOn generalizing fuel with
  | nil => exact absurd rfl hne
  | append_singleton names n ih =>
    have hnames : ∀ m ∈ names ++ [n], IsName m := fun m hm => (hn m hm).toIsName
    have hcn : t.Clear names := hc.upTo (List.prefix_append ..)
    have hpath := (checkPath_ok.mp fits).2.1
    obtain ⟨fuel, rfl⟩ : ∃ k, fuel = k + 1 := ⟨fuel - 1, by simp at hfuel; omega⟩
    have hcreate := h.createDir_below hn hc fits
    cases hu : t.get? (names ++ [n]) with
    | some u =>
      obtain ⟨es, rfl⟩ := hc.dir hu
      have hresolve := h.resolve_join hn hc hne fits
      rw [hu, Option.isSome_some, if_pos rfl] at hresolve
      rw [createDirs_of_resolve hresolve (by rw [FileTree.get?_append, h.get]; exact hu)]
      rfl
    | none =>
      rw [hu] at hcreate
      cases hv : t.get? names with
      | some v =>
        rw [hv] at hcreate
        exact createDirs_new hpath hcreate
      | none =>
        -- the directory above is missing, too
        have hne' : names ≠ [] := by
          rintro rfl
          simp at hv
        have fits' := fits
        rw [join_snoc hnames hne'] at fits'
        have hnames' : ∀ m ∈ names, EntryName m := fun m hm => hn m (List.mem_append_left _ hm)
        have habove := ih hne' hnames' hcn
          (checkPath_front fits' (join_ne_empty (fun m hm => (hnames' m hm).toIsName) hne'))
          (by simpa using hfuel)
        rw [hv] at habove hcreate
        have hmade : ((FileTree.dir []).put names t).get? names = some (.dir []) :=
          get?_put_self hcn
        obtain ⟨es, rfl⟩ := (hc.upTo List.nil_prefix).dir get?_nil
        have hcreate' := (h.put rfl (Grown.put hv)).createDir_below hn
          (Clear.append hmade (clear_empty [n])) fits
        rw [get?_snoc hmade, hmade, put_put, put_append_of_missing hcn hv] at hcreate'
        rw [createDirs, if_neg hpath, parent?_join hnames hne']
        simp only [hcreate, habove, Option.isSome_none, Bool.false_eq_true, if_false]
        simp only [Option.isSome_some, List.lookup_nil, Option.isSome_none, if_true,
          Bool.false_eq_true, if_false] at hcreate'
        simp only [Bind.bind, Except.bind, hcreate']

namespace Leads

variable (h : d.Leads dir loc t) (hn : ∀ m ∈ names ++ [n], EntryName m)
  (hc : t.Clear (names ++ [n]))
  (fits : checkPath (join dir (Text.joinWith "/" (names ++ [n]))) = .ok ())
include h hn hc fits

theorem createAllDirs_parent :
    ∃ above, parent? (join dir (Text.joinWith "/" (names ++ [n]))) = some above ∧
      d.createAllDirs above = .ok (if (t.get? names).isSome then d
        else d.put loc ((FileTree.dir []).put names t)) := by
  have hnames : ∀ m ∈ names ++ [n], IsName m := fun m hm => (hn m hm).toIsName
  have hcn : t.Clear names := hc.upTo (List.prefix_append ..)
  by_cases hne : names = []
  · subst hne
    obtain ⟨es, rfl⟩ := hcn.dir get?_nil
    obtain ⟨above, hparent, hcases⟩ := parent?_join_name dir (hnames n (by simp))
    refine ⟨above, hparent, ?_⟩
    rw [get?_nil, Option.isSome_some, if_pos rfl]
    rcases hcases with rfl | ⟨habs, ⟨tail, htail⟩, front, blanks, blanks', hbase, hpieces, hb⟩
    · rfl
    · by_cases hempty : above = ""
      · rw [hempty]
        rfl
      · rw [List.nil_append, htail] at fits
        refine createDirs_of_resolve ?_ h.get _
        rw [resolve, checkPath_front fits hempty, origin, habs, hpieces]
        exact h.follow_front hbase rfl hb
  · refine ⟨_, parent?_join hnames hne, ?_⟩
    have fits' := fits
    rw [join_snoc hnames hne] at fits'
    have hnames' : ∀ m ∈ names, EntryName m := fun m hm => hn m (List.mem_append_left _ hm)
    have hi : ∀ m ∈ names, IsName m := fun m hm => (hnames' m hm).toIsName
    refine h.createDirs_join hne hnames' hcn (checkPath_front fits' (join_ne_empty hi hne)) ?_
    have hlength := length_pieces_le (join dir (Text.joinWith "/" names))
    rw [pieces_join hi hne, List.length_append] at hlength
    omega

end Leads

end AvroLink.Disk
