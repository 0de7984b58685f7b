import AvroLink.Proofs.Found
import AvroLink.Source.Files

/-!
# Spellings of the root of a file source

A plain directory may be written with a slash behind it, which changes nothing, or with `./` in
front. The same files are found then, but a path that was found does not have `.` at its front, so
none lies below the root as written: its definition keeps the names of the root in its identifier
(`load_spellings`).
-/

namespace AvroLink

open FileTree AvroLink.Path

namespace Disk

variable {d : Disk} {path piece : String} {loc loc' ps : List String}

theorem isDir_eq_true : d.isDir path = true ↔
    ∃ loc es, d.resolve path = .ok loc ∧ d.root.get? loc = some (.dir es) := by
  rw [isDir, find?]
  cases d.resolve path with
  | error e => simp
  | ok loc => cases h : d.root.get? loc <;> simp [h, isDir_iff]

theorem resolve_of_follow (fits : checkPath path = .ok ())
    (h : d.follow (d.origin path) (pieces path) = .ok loc) : d.resolve path = .ok loc := by
  rw [resolve, fits]
  exact h

theorem dir_of_follow (h : d.follow loc (piece :: ps) = .ok loc') :
    ∃ es, d.root.get? loc = some (.dir es) := by
  rw [follow] at h
  cases hd : d.root.get? loc with
  | none =>
    rw [step, hd] at h
    cases h
  | some t =>
    cases t with
    | dir es => exact ⟨es, rfl⟩
    | file b =>
      rw [step, hd] at h
      cases h

theorem checkPath_append {path' : String} (h : checkPath path = .ok ())
    (h' : checkPath path' = .ok ()) (fits : (path ++ path').utf8ByteSize ≤ maxPathSize) :
    checkPath (path ++ path') = .ok () := by
  rw [checkPath_ok] at h h' ⊢
  refine ⟨?_, fun he => h.2.1 (String.append_eq_empty_iff.mp he).1, fits⟩
  rw [String.toList_append, List.mem_append, not_or]
  exact ⟨h.1, h'.1⟩

theorem isDir_slash (h : d.isDir path = true) (fits : path.utf8ByteSize + 1 ≤ maxPathSize) :
    d.isDir (path ++ "/") = true := by
  obtain ⟨loc, es, hres, hes⟩ := isDir_eq_true.mp h
  obtain ⟨hcheck, hfollow⟩ := resolve_ok hres
  have hne : path ≠ "" := (checkPath_ok.mp hcheck).2.1
  refine isDir_eq_true.mpr
    ⟨loc, es, resolve_of_follow (checkPath_append hcheck (by decide) ?_) ?_, hes⟩
  · rw [String.utf8ByteSize_append]
    exact fits
  · rw [origin, isAbsolute_slash hne, pieces_concat_slash, follow_append]
    change d.follow (d.origin path) (pieces path) >>= _ = _
    rw [hfollow]
    exact follow_blank hes (by simp [Blank])

theorem cwd_of_isDir (h : d.isDir path = true) (hrel : isAbsolute path = false) :
    ∃ es, d.root.get? d.cwd = some (.dir es) := by
  obtain ⟨loc, _, hres, -⟩ := isDir_eq_true.mp h
  have hfollow := (resolve_ok hres).2
  obtain ⟨p, ps, hp⟩ := List.exists_cons_of_ne_nil (pieces_ne_nil path)
  rw [origin, hrel, if_neg (by simp), hp] at hfollow
  exact dir_of_follow hfollow

theorem isDir_here (h : d.isDir path = true) (hrel : isAbsolute path = false)
    (fits : path.utf8ByteSize + 2 ≤ maxPathSize) : d.isDir ("./" ++ path) = true := by
  obtain ⟨loc, es, hres, hes⟩ := isDir_eq_true.mp h
  obtain ⟨hcheck, hfollow⟩ := resolve_ok hres
  obtain ⟨es', hcwd⟩ := cwd_of_isDir h hrel
  refine isDir_eq_true.mpr
    ⟨loc, es, resolve_of_follow (checkPath_append (by decide) hcheck ?_) ?_, hes⟩
  · rw [String.utf8ByteSize_append, Nat.add_comm]
    exact fits
  · rw [origin, isAbsolute_here, pieces_here, follow]
    rw [origin, hrel] at hfollow
    change d.step d.cwd "." >>= _ = _
    rw [step_blank hcwd (.inr rfl)]
    exact hfollow

theorem dir_of_plain (hd : d.root.Listed) (plain : Plain path) (h : d.isDir path = true) :
    ∃ es, d.root.get? (d.cwd ++ names path) = some (.dir es) := by
  obtain ⟨loc, es, hres, hes⟩ := isDir_eq_true.mp h
  have hfollow := follow_moves hd (resolve_ok hres).2
  obtain ⟨hrel, hpieces⟩ := plain.pieces_eq
  rw [hpieces, plain.components_eq, foldl_move_names, origin, hrel, if_neg (by simp)] at hfollow
  exact ⟨es, hfollow ▸ hes⟩

end Disk

namespace Glob

/-! ## Patterns below a directory -/

/-- The parts that stand for a directory, taken literally. -/
def rootParts (root : String) : List Pattern :=
  (Text.pieces '/' (trimmed root.toList)).map (·.map exactly)

theorem mapM_parse_escape (front : List (List Char)) :
    (front.map escape).mapM parse = .ok (front.map (·.map exactly)) := by
  induction front with
  | nil => rfl
  | cons cs front ih =>
    rw [List.map_cons, List.mapM_cons, parse_escape, ih]
    rfl

/-- Slashes at the end are no components. -/
theorem filterMap_trimmed (cs : List Char) :
    ((Text.pieces '/' (trimmed cs)).map String.ofList).filterMap innerComponent? =
      ((Text.pieces '/' cs).map String.ofList).filterMap innerComponent? := by
  induction cs using List.reverseRecOn with
  | nil => rfl
  | append_singleton cs c ih =>
    by_cases hc : c = '/'
    · subst hc
      rw [trimmed_append_slash, ih, Text.pieces_append, List.map_append, List.filterMap_append]
      simp [Text.pieces, innerComponent?]
    · rw [trimmed_concat hc]

/-- A part of a pattern that does not climb, as far as it can be read. -/
def descends (part : List Char) : Bool :=
  match parse part with
  | .ok x => !climbs x
  | .error _ => true

theorem any_climbs {texts : List (List Char)} {xs : List Pattern} (h : texts.mapM parse = .ok xs)
    (hdown : texts.all descends = true) : xs.any climbs = false := by
  induction texts generalizing xs with
  | nil =>
    cases h
    rfl
  | cons text texts ih =>
    rw [List.all_cons, Bool.and_eq_true, descends] at hdown
    rw [List.mapM_cons] at h
    cases hp : parse text with
    | error e =>
      rw [hp] at h
      cases h
    | ok x =>
      cases hps : texts.mapM parse with
      | error e =>
        rw [hp, hps] at h
        cases h
      | ok ys =>
        rw [hp, hps] at h
        cases h
        rw [hp] at hdown
        rw [List.any_cons, ih hps hdown.2, Bool.or_false]
        simpa using hdown.1

theorem find_relative {d : Disk} {t : FileTree} {pattern : List Char}
    (hrel : pattern.head? ≠ some '/') (hne : pattern ≠ []) (ht : d.root.get? d.cwd = some t) :
    find d pattern = (do
      let _ ← parse pattern
      let xs ← (parts pattern).mapM parse
      return fill d (pattern.getLast? == some '/') xs (start d t)) := by
  cases pattern with
  | nil => exact absurd rfl hne
  | cons c cs =>
    have hc : ∀ rest, c :: cs = '/' :: rest → False := by
      rintro rest he
      exact hrel (congrArg List.head? he)
    rw [find]
    · simp only [List.isEmpty_cons, Bool.false_eq_true, if_false, ht]
      rfl
    · exact hc

end Glob

namespace Definition

/-- The definition with names in front of its identifier. -/
def under (ns : List String) (x : Definition) : Definition :=
  ⟨Text.joinWith "/" ns ++ "/" ++ x.id, x.content⟩

theorem append_lt_append (front a b : String) : front ++ a < front ++ b ↔ a < b := by
  rw [String.lt_iff_toList_lt, String.lt_iff_toList_lt, String.toList_append, String.toList_append]
  induction front.toList with
  | nil => rfl
  | cons c cs ih => simpa using ih

theorem sort_under (ns : List String) (xs : List Definition) :
    sort (xs.map (under ns)) = (sort xs).map (under ns) := by
  refine (List.map_mergeSort fun x _ y _ => ?_).symm
  rw [decide_eq_decide]
  exact not_congr (append_lt_append _ _ _).symm

end Definition

namespace FileSource

open Glob

variable {s : FileSource} {d : Disk} {es : List (String × FileTree)}

/-- The source with its root written as `root`. -/
def rooted (s : FileSource) (root : String) : FileSource := { s with root := root }

theorem pattern_eq (s : FileSource) :
    s.pattern = escape (trimmed s.root.toList) ++ '/' :: s.glob.toList := by
  rw [← trimmed_escape]
  rfl

theorem pattern_slash (s : FileSource) : (s.rooted (s.root ++ "/")).pattern = s.pattern := by
  rw [pattern_eq, pattern_eq, rooted, String.toList_append]
  change escape (trimmed (s.root.toList ++ ['/'])) ++ _ = _
  rw [trimmed_append_slash]

/-- The parts of the pattern are those of the root, taken literally, and those of the glob. -/
theorem mapM_parts_pattern (s : FileSource) :
    (parts s.pattern).mapM parse = (do
      let xs ← (parts s.glob.toList).mapM parse
      return rootParts s.root ++ xs) := by
  rw [pattern_eq, parts_below, pieces_escape, List.mapM_append, mapM_parse_escape]
  rfl

theorem root_cons (hne : s.root ≠ "") (hrel : isAbsolute s.root = false) :
    ∃ c cs, s.root.toList = c :: cs ∧ c ≠ '/' := by
  obtain ⟨c, cs, hc⟩ := List.exists_cons_of_ne_nil (mt String.toList_eq_nil_iff.mp hne)
  refine ⟨c, cs, hc, ?_⟩
  simpa [isAbsolute, hc] using hrel

theorem trimmed_root (hne : s.root ≠ "") (hrel : isAbsolute s.root = false) :
    ∃ c cs, trimmed s.root.toList = c :: cs ∧ c ≠ '/' := by
  obtain ⟨c, cs, hroot, hc⟩ := root_cons hne hrel
  obtain ⟨rest, hrest⟩ := trimmed_cons hc cs
  exact ⟨c, rest, hroot ▸ hrest, hc⟩

theorem pattern_here (hne : s.root ≠ "") (hrel : isAbsolute s.root = false) :
    (s.rooted ("./" ++ s.root)).pattern = '.' :: '/' :: s.pattern := by
  obtain ⟨c, cs, htrim, -⟩ := trimmed_root hne hrel
  have happend : trimmed ("./" ++ s.root).toList = ['.', '/'] ++ trimmed s.root.toList := by
    rw [String.toList_append]
    exact trimmed_append (by simp [htrim]) _
  rw [pattern_eq, pattern_eq, rooted]
  dsimp only
  rw [happend]
  rfl

theorem pattern_head (hne : s.root ≠ "") (hrel : isAbsolute s.root = false) :
    s.pattern.head? ≠ some '/' ∧ s.pattern ≠ [] := by
  obtain ⟨c, cs, htrim, hc⟩ := trimmed_root hne hrel
  rw [pattern_eq, htrim, escape_cons]
  split <;> simp [hc]

/-- Where the root leads, the glob is searched for. -/
def found (s : FileSource) (d : Disk) (es : List (String × FileTree)) (xs : List Pattern) :
    List Place :=
  onward d (s.pattern.getLast? == some '/') (rootParts s.root ++ xs) (start d (.dir es))

theorem found_eq (xs : List Pattern) : s.found d es xs =
    fill d (s.pattern.getLast? == some '/') (rootParts s.root ++ xs) (start d (.dir es)) := by
  have hne : rootParts s.root ≠ [] := by
    simpa [rootParts] using Text.pieces_ne_nil '/' (trimmed s.root.toList)
  rw [found, onward, if_neg (by simp [hne])]

section

variable (hne : s.root ≠ "") (hrel : isAbsolute s.root = false)
  (hcwd : d.root.get? d.cwd = some (.dir es))
include hne hrel hcwd

theorem find_pattern :
    Glob.find d s.pattern = (do
      let _ ← parse s.pattern
      let xs ← (parts s.glob.toList).mapM parse
      return s.found d es xs) := by
  obtain ⟨hhead, hnil⟩ := pattern_head hne hrel
  rw [find_relative hhead hnil hcwd, mapM_parts_pattern]
  simp only [found_eq, bind_assoc, pure_bind]

/-- With `./` in front the same places are found. -/
theorem find_here :
    Glob.find d ('.' :: '/' :: s.pattern) = (do
      let _ ← parse ('.' :: '/' :: s.pattern)
      let xs ← (parts s.glob.toList).mapM parse
      return s.found d es xs) := by
  obtain ⟨-, hnil⟩ := pattern_head hne hrel
  have hparts : parts ('.' :: '/' :: s.pattern) = ['.'] :: parts s.pattern :=
    parts_below ['.'] s.pattern
  have hlast : ('.' :: '/' :: s.pattern).getLast? = s.pattern.getLast? := by
    rw [List.getLast?_cons_of_ne_nil (by simp), List.getLast?_cons_of_ne_nil hnil]
  have hfill : ∀ xs : List Pattern, fill d (s.pattern.getLast? == some '/')
      ([.char '.'] :: (rootParts s.root ++ xs)) (start d (.dir es)) = s.found d es xs := by
    intro xs
    rw [fill_cons]
    change (stepTo d (start d (.dir es)) ".").toList.flatMap _ = _
    rw [stepTo_here hcwd, Option.toList_some, List.flatMap_singleton, found]
  rw [find_relative (by simp) (by simp) hcwd, hparts, List.mapM_cons, mapM_parts_pattern, hlast]
  have hparse : parse ['.'] = pure [.char '.'] := rfl
  simp only [hparse, bind_assoc, pure_bind, hfill]

/-- Both spellings of the root fail together, or they find the same places. -/
theorem find_spellings :
    (∃ e e', Glob.find d s.pattern = .error e ∧
      Glob.find d ('.' :: '/' :: s.pattern) = .error e') ∨
    ∃ xs, (parts s.glob.toList).mapM parse = .ok xs ∧
      Glob.find d s.pattern = .ok (s.found d es xs) ∧
      Glob.find d ('.' :: '/' :: s.pattern) = .ok (s.found d es xs) := by
  rw [find_pattern hne hrel hcwd, find_here hne hrel hcwd]
  have hok := parse_here s.pattern
  cases hxs : (parts s.glob.toList).mapM parse with
  | error e =>
    left
    cases parse s.pattern <;> cases parse ('.' :: '/' :: s.pattern) <;> exact ⟨_, _, rfl, rfl⟩
  | ok xs =>
    cases hp : parse s.pattern <;> cases hp' : parse ('.' :: '/' :: s.pattern) <;>
      rw [hp, hp'] at hok
    · exact .inl ⟨_, _, rfl, rfl⟩
    · cases hok
    · cases hok
    · exact .inr ⟨xs, rfl, rfl, rfl⟩

end

def gather (s : FileSource) (places : List Glob.Place) : Except SourceError (List Definition) := do
  return Definition.sort ((← places.mapM s.read?).filterMap id)

theorem load_eq (s : FileSource) (h : d.isDir s.root = true) :
    s.load d = match Glob.find d s.pattern with
      | .error e => .error (.badPattern s.glob e)
      | .ok places => s.gather places := by
  rw [load, if_pos h]
  cases Glob.find d s.pattern <;> rfl

theorem gather_slash (hne : s.root ≠ "") (places : List Place) :
    (s.rooted (s.root ++ "/")).gather places = s.gather places := by
  have hread : (s.rooted (s.root ++ "/")).read? = s.read? := by
    funext p
    simp only [read?, rooted, identifier_slash hne]
  rw [gather, gather, hread]

/-! ## Identifiers -/

/-- A place that was found lies behind the root: by names only, unless the glob climbs, and by one
at least if it is a file. -/
theorem found_below (hd : d.root.Listed) (plain : Plain s.root) (hdir : d.isDir s.root = true)
    (hcwd : d.root.get? d.cwd = some (.dir es)) (hne : names s.root ≠ []) {xs : List Pattern}
    {p : Place} (hp : p ∈ s.found d es xs) :
    ∃ steps, components p.path = components s.root ++ steps ∧
      d.root.get? (steps.foldl Disk.move (d.cwd ++ names s.root)) = some p.tree ∧
      (p.tree.isDir = false → steps.filterMap Component.name? ≠ []) ∧
      (xs.any climbs = false → ∀ c ∈ steps, c.name?.isSome = true) := by
  obtain ⟨root, hroot, hp⟩ := onward_exactly hd (start_on hcwd) hp
  rw [filterMap_trimmed] at hroot
  change Reaches d _ root ((pieces s.root).filterMap innerComponent?) at hroot
  rw [plain.pieces_eq.2, plain.components_eq] at hroot
  have htrail : root.trail = (names s.root).map .name := hroot.trail
  have hnames : root.names = d.cwd ++ names s.root := by
    rw [hroot.names, Disk.foldl_move_names]
    rfl
  have htree : root.tree.isDir = true := by
    obtain ⟨rs, hrs⟩ := Disk.dir_of_plain hd plain hdir
    have hthere := hroot.on.there
    rw [hnames, hrs] at hthere
    rw [← Option.some.inj hthere]
    rfl
  have hne' : root.trail ≠ [] := by simpa [htrail] using hne
  obtain ⟨steps, hreach, hdown⟩ :=
    onward_below hroot.on hp (fill_below hd xs root hroot.on hne')
  have hpath := path_ne_here (hreach.trail_ne_nil hne')
  refine ⟨steps, ?_, ?_, fun hfile => ?_, hdown⟩
  · rw [plain.components_eq, ← htrail, ← hreach.trail, Place.trail, if_neg hpath]
  · rw [← hnames, ← hreach.names, hreach.on.there]
  · rcases hreach.last hfile with ⟨-, hroot⟩ | ⟨n, hn⟩
    · cases htree.symm.trans hroot
    · have hmem := List.mem_of_getLast? hn
      exact List.ne_nil_of_mem (List.mem_filterMap.mpr ⟨.name n, hmem, rfl⟩)

/-! ## Definitions -/

/-- Without a filter, the definitions differ as the identifiers of the files do. -/
theorem gather_under {s' : FileSource} {places : List Place} {ns : List String}
    (hs : s.filter = none) (hs' : s'.filter = none)
    (h : ∀ p ∈ places, p.tree.isDir = false → identifier s'.root p.path =
      Text.joinWith "/" ns ++ "/" ++ identifier s.root p.path) :
    s'.gather places = (s.gather places).map (·.map (Definition.under ns)) := by
  have hread : places.mapM s'.read? =
      (places.mapM s.read?).map (·.map (Option.map (Definition.under ns))) := by
    induction places with
    | nil => rfl
    | cons p ps ih =>
      obtain ⟨hp, hps⟩ := List.forall_mem_cons.mp h
      rw [List.mapM_cons, List.mapM_cons, ih hps]
      have hone : s'.read? p = (s.read? p).map (Option.map (Definition.under ns)) := by
        rw [read?, read?, hs, hs']
        cases ht : p.tree with
        | dir es => rfl
        | file b =>
          rw [ht] at hp
          simp only [passes, Option.all_none, if_true, hp rfl]
          cases Disk.readText b <;> rfl
      rw [hone]
      cases s.read? p with
      | error e => rfl
      | ok x => cases ps.mapM s.read? <;> rfl
  rw [gather, gather, hread]
  cases places.mapM s.read? with
  | error e => rfl
  | ok xs =>
    have hpresent : (xs.map (Option.map (Definition.under ns))).filterMap id =
        (xs.filterMap id).map (Definition.under ns) := by
      rw [List.filterMap_map, List.map_filterMap]
      rfl
    change Except.ok (Definition.sort ((xs.map _).filterMap id)) = Except.ok (List.map _ _)
    rw [hpresent, Definition.sort_under]

/-- A root that is written with a slash behind it loads the same definitions. One that is written
with `./` in front finds the same places, but where the identifier of a place was its path below
the root it is now the path below the working directory. The filter sees this identifier, so the
definitions are the same up to their identifiers only where there is no filter. -/
theorem load_spellings (s : FileSource) (d : Disk) (hd : d.root.Listed) (plain : Plain s.root)
    (hdir : d.isDir s.root = true) (fits : s.root.utf8ByteSize + 2 ≤ Disk.maxPathSize) :
    (s.rooted (s.root ++ "/")).load d = s.load d ∧
    ((∃ e e', s.load d = .error (.badPattern s.glob e) ∧
      (s.rooted ("./" ++ s.root)).load d = .error (.badPattern s.glob e')) ∨
    (∃ places, s.load d = s.gather places ∧
      (s.rooted ("./" ++ s.root)).load d = (s.rooted ("./" ++ s.root)).gather places ∧
      ∀ p ∈ places, ∃ below, identifier s.root p.path = Text.joinWith "/" below ∧
        identifier ("./" ++ s.root) p.path = Text.joinWith "/" (names s.root ++ below) ∧
        ((parts s.glob.toList).all descends = true →
          d.root.get? (d.cwd ++ names s.root ++ below) = some p.tree)) ∧
      (s.filter = none → (s.rooted ("./" ++ s.root)).load d =
        (s.load d).map (·.map (Definition.under (names s.root))))) := by
  obtain ⟨_, _, hres, -⟩ := Disk.isDir_eq_true.mp hdir
  have hne : s.root ≠ "" := (Disk.checkPath_ok.mp (Disk.resolve_ok hres).1).2.1
  have hrel := plain.pieces_eq.1
  have hnames := plain.names_ne_nil hne
  obtain ⟨es, hcwd⟩ := Disk.cwd_of_isDir hdir hrel
  have hslash : (s.rooted (s.root ++ "/")).load d = s.load d := by
    rw [load_eq s hdir, load_eq (s.rooted _) (Disk.isDir_slash hdir (by omega)), pattern_slash]
    simp only [gather_slash hne]
    rfl
  have hhere := load_eq (s.rooted ("./" ++ s.root)) (Disk.isDir_here hdir hrel fits)
  rw [pattern_here hne hrel] at hhere
  refine ⟨hslash, ?_⟩
  rw [load_eq s hdir, hhere]
  rcases find_spellings hne hrel hcwd with ⟨e, e', hfind, hfind'⟩ | ⟨xs, hxs, hfind, hfind'⟩ <;>
    rw [hfind, hfind']
  · exact .inl ⟨e, e', rfl, rfl⟩
  · refine .inr ⟨⟨s.found d es xs, rfl, rfl, fun p hp => ?_⟩, fun hfilter => ?_⟩
    · obtain ⟨steps, hpath, hthere, -, hdown⟩ := found_below hd plain hdir hcwd hnames hp
      refine ⟨steps.filterMap Component.name?, identifier_below hpath,
        identifier_here plain hnames hpath, fun hglob => ?_⟩
      rw [eq_map_name (hdown (any_climbs hxs hglob)), Disk.foldl_move_names] at hthere
      exact hthere
    · refine gather_under hfilter hfilter fun p hp hfile => ?_
      obtain ⟨steps, hpath, -, hbelow, -⟩ := found_below hd plain hdir hcwd hnames hp
      change identifier ("./" ++ s.root) p.path = _
      rw [identifier_here plain hnames hpath, identifier_below hpath,
        Text.joinWith_append hnames (hbelow hfile)]

/-! ## One file -/

/-- A directory `r` with one file in it, seen from the directory above. -/
def oneFile : Disk :=
  ⟨.dir [("work", .dir [("r", .dir [("a.avsc", .file "\"int\"".toUTF8)])])], ["work"]⟩

def oneFileSource : FileSource := ⟨"r", defaultGlob, none⟩

theorem oneFile_listed : oneFile.root.Listed := by
  have hname : ∀ n : String, n ∈ ["work", "r", "a.avsc"] → IsName n := by
    intro n hn
    simp only [List.mem_cons, List.not_mem_nil, or_false] at hn
    rcases hn with rfl | rfl | rfl <;> exact ⟨by decide, by decide, by decide, by decide⟩
  refine .dir (by simp) (List.forall_mem_singleton.mpr ⟨hname _ (by simp), ?_⟩)
  refine .dir (by simp) (List.forall_mem_singleton.mpr ⟨hname _ (by simp), ?_⟩)
  exact .dir (by simp) (List.forall_mem_singleton.mpr ⟨hname _ (by simp), .file _⟩)

theorem find_oneFile : Glob.find oneFile oneFileSource.pattern =
    .ok [⟨"r/a.avsc", ["work", "r", "a.avsc"], .file "\"int\"".toUTF8⟩] := by
  rw [find_relative (by decide) (by decide) rfl]
  change Except.ok (fill oneFile false [[.char 'r'], [.anyDirectories],
    .anySequence :: ".avsc".toList.map .char] _) = _
  rw [fill_cons]
  change Except.ok (fill oneFile false _
    ⟨"r", ["work", "r"], .dir [("a.avsc", .file "\"int\"".toUTF8)]⟩ ++ []) = _
  rw [fill_cons]
  change Except.ok ((visit oneFile false _ _ "a.avsc" _ ++ []) ++ []) = _
  rw [visit_recursive rfl]
  change Except.ok (((matchEntry oneFile false _ _ _ _ ++ []) ++ []) ++ []) = _
  rw [matchEntry_eq]
  rfl

theorem gather_oneFile (root : String) : (oneFileSource.rooted root).gather
    [⟨"r/a.avsc", ["work", "r", "a.avsc"], .file "\"int\"".toUTF8⟩] =
      .ok [⟨identifier root "r/a.avsc", "\"int\""⟩] := by
  have hread : (oneFileSource.rooted root).read?
      ⟨"r/a.avsc", ["work", "r", "a.avsc"], .file "\"int\"".toUTF8⟩ =
        .ok (some ⟨identifier root "r/a.avsc", "\"int\""⟩) := rfl
  rw [gather, List.mapM_cons, List.mapM_nil, hread]
  exact congrArg Except.ok (List.mergeSort_singleton _)

theorem load_oneFile : oneFileSource.load oneFile = .ok [⟨"a.avsc", "\"int\""⟩] := by
  rw [load_eq _ (by decide +kernel), find_oneFile]
  exact gather_oneFile "r"

/-- The one file has another identifier when the root is written with `./` in front. -/
theorem load_spellings_differ : Plain "r" ∧ oneFile.isDir "r" = true ∧
    oneFileSource.load oneFile = .ok [⟨"a.avsc", "\"int\""⟩] ∧
    (oneFileSource.rooted "./r").load oneFile = .ok [⟨"r/a.avsc", "\"int\""⟩] := by
  refine ⟨by decide, by decide +kernel, load_oneFile, ?_⟩
  have hpattern : (oneFileSource.rooted "./r").pattern = '.' :: '/' :: oneFileSource.pattern :=
    pattern_here (by decide) rfl
  rw [load_eq _ (by decide +kernel), hpattern]
  rcases find_spellings (s := oneFileSource) (d := oneFile) (by decide) rfl rfl with
    ⟨e, e', hfind, -⟩ | ⟨xs, -, hfind, hfind'⟩
  · cases find_oneFile.symm.trans hfind
  · rw [hfind', ← hfind, find_oneFile]
    exact gather_oneFile "./r"

theorem load_spellings_oneFile :
    (oneFileSource.rooted "r/").load oneFile = oneFileSource.load oneFile ∧
    (oneFileSource.rooted "./r").load oneFile =
      (oneFileSource.load oneFile).map (·.map (Definition.under ["r"])) ∧
    oneFileSource.load oneFile = .ok [⟨"a.avsc", "\"int\""⟩] := by
  obtain ⟨hslash, hhere⟩ := load_spellings oneFileSource oneFile oneFile_listed (by decide)
    (by decide +kernel) (by decide)
  refine ⟨hslash, ?_, load_oneFile⟩
  rcases hhere with ⟨e, e', herror, -⟩ | ⟨-, hunfiltered⟩
  · cases load_oneFile.symm.trans herror
  · exact hunfiltered rfl

end FileSource

end AvroLink
