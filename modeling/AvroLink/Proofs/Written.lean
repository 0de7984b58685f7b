import AvroLink.Files.Write
import AvroLink.Proofs.Directories
import AvroLink.Proofs.Output

/-!
# The files that a run writes

The paths of generated files are relative and none lies on the way to another
(`filePath_front`), so that they can be written in any order: `Layout` tells what the output
directory holds meanwhile, and each file finds its place free.
-/

namespace AvroLink

namespace Disk

open AvroLink.Path

variable {d : Disk} {dir n : String} {loc names : List String} {t : FileTree}
  {es : List (String × FileTree)} {bytes : ByteArray}

theorem Leads.writeFile_new (h : d.Leads dir loc t) (hn : ∀ m ∈ names ++ [n], EntryName m)
    (fits : checkPath (join dir (Text.joinWith "/" (names ++ [n]))) = .ok ())
    (hdir : t.get? names = some (.dir es)) (hmissing : es.lookup n = none) :
    d.writeFile (join dir (Text.joinWith "/" (names ++ [n]))) bytes =
      .ok (d.put loc ((FileTree.file bytes).put (names ++ [n]) t)) := by
  have hnames : ∀ m ∈ names ++ [n], IsName m := fun m hm => (hn m hm).toIsName
  have hname := hnames n (by simp)
  have hloc : d.root.get? (loc ++ names) = some (.dir es) := by
    rw [FileTree.get?_append, h.get]
    exact hdir
  have hfollow := h.follow_below (fun m hm => hn m (List.mem_append_left _ hm))
    (FileTree.clear_of_get? hdir)
  rw [hdir, Option.isSome_some, if_pos rfl] at hfollow
  have hplain : ¬ (n ∈ ["", ".", ".."] ∨
      (join dir (Text.joinWith "/" (names ++ [n]))).toList.getLast? = some '/') := by
    simp [hname.nonempty, hname.not_here, hname.not_up, getLast?_join hnames]
  have hstep := step_name hloc (hn n (by simp))
  rw [hmissing] at hstep
  unfold writeFile
  rw [fits, splitLast_join hnames, origin_join hnames (by simp)]
  change (d.follow (d.origin dir) (base dir ++ names) >>= _) = _
  rw [hfollow]
  change (d.step (loc ++ names) "." >>= _) = _
  rw [step_blank hloc (.inr rfl)]
  change (if n ∈ ["", ".", ".."] ∨ _ then _ else _) = _
  rw [if_neg hplain, hstep]
  change Except.ok (d.put _ _) = _
  rw [List.append_assoc, put_append h.get]

end Disk

namespace Artifact

variable {a : Artifact} {d : Disk} {dir n : String} {loc names : List String} {t : FileTree}

theorem write_new (h : d.Leads dir loc t) (hpath : a.path = Text.joinWith "/" (names ++ [n]))
    (hn : ∀ m ∈ names ++ [n], Disk.EntryName m)
    (fits : Disk.checkPath (Path.join dir a.path) = .ok ()) (free : t.Free (names ++ [n])) :
    a.write dir d = .ok (d.put loc ((FileTree.file a.contents.toUTF8).put (names ++ [n]) t)) := by
  rw [hpath] at fits
  obtain ⟨above, hparent, hmade⟩ := h.createAllDirs_parent hn free.clear fits
  unfold write
  dsimp only
  rw [hpath, hparent]
  dsimp only
  rw [hmade]
  change (Except.mapError _ (Disk.writeFile _ _ _)) = _
  cases hu : t.get? names with
  | some u =>
    obtain ⟨es, rfl⟩ := (free.clear.upTo (List.prefix_append ..)).dir hu
    have hmissing := free.missing
    rw [FileTree.get?_snoc hu] at hmissing
    rw [Option.isSome_some, if_pos rfl, h.writeFile_new hn fits hu hmissing]
    rfl
  | none =>
    -- the directory was made
    have hclear := free.clear.upTo (List.prefix_append ..)
    obtain ⟨es, rfl⟩ := (free.clear.upTo List.nil_prefix).dir FileTree.get?_nil
    have hgrown : FileTree.Grown (.dir es) (FileTree.put (.dir []) names (.dir es)) :=
      FileTree.Grown.put hu
    have hleads := h.put rfl hgrown
    rw [Option.isSome_none, if_neg (by simp),
      hleads.writeFile_new hn fits (FileTree.get?_put_self hclear) rfl, Disk.put_put,
      FileTree.put_append_of_missing hclear hu]
    rfl

/-! ## A run over artifacts -/

/-- The names from the output directory to the file. -/
def place (a : Artifact) : List String := Path.pieces a.path

/-- The path of the file below `dir` can be handed to the operating system, and no name is too long
for it. -/
structure Fits (dir : String) (a : Artifact) : Prop where
  path : Disk.checkPath (Path.join dir a.path) = .ok ()
  names : ∀ n ∈ a.place, n.utf8ByteSize ≤ Disk.maxNameSize

/-- Neither file lies on the way to the other. -/
def Apart (a b : Artifact) : Prop := ¬ a.place <+: b.place ∧ ¬ b.place <+: a.place

theorem Apart.symm {b : Artifact} (h : Apart a b) : Apart b a := ⟨h.2, h.1⟩

/-- The output directory after `written` was written: these are its files, and its directories lie on
the way to them. -/
structure Layout (t : FileTree) (written : List Artifact) : Prop where
  isDir : t.isDir
  sorted : t.Sorted
  files : t.files.Perm (written.map fun a => (a.place, a.contents.toUTF8))
  dirs : ∀ p es, p ≠ [] → t.get? p = some (.dir es) → ∃ a ∈ written, p <+: a.place

theorem layout_nil : Layout (.dir []) [] where
  isDir := rfl
  sorted p es h := by
    cases p with
    | nil =>
      cases h
      exact .nil
    | cons n p => simp [FileTree.get?_cons] at h
  files := by simp [FileTree.files, FileTree.entryFiles]
  dirs p es hp h := by
    cases p with
    | nil => exact absurd rfl hp
    | cons n p => simp [FileTree.get?_cons] at h

namespace Layout

variable {written : List Artifact}

theorem place_of_file (hl : Layout t written) {p : List String} {b : ByteArray}
    (h : t.get? p = some (.file b)) : ∃ a ∈ written, a.place = p := by
  obtain ⟨a, ha, he⟩ := List.mem_map.mp (hl.files.mem_iff.mp (FileTree.mem_files h))
  exact ⟨a, ha, congrArg Prod.fst he⟩

theorem free (hl : Layout t written) (hne : a.place ≠ []) (hap : ∀ b ∈ written, Apart b a) :
    t.Free a.place where
  clear q hq b hb := by
    obtain ⟨c, hc, rfl⟩ := hl.place_of_file hb
    exact (hap c hc).1 hq
  missing := by
    cases hu : t.get? a.place with
    | none => rfl
    | some u =>
      cases u with
      | file b =>
        obtain ⟨c, hc, he⟩ := hl.place_of_file hu
        exact absurd (he ▸ List.prefix_refl _) (hap c hc).1
      | dir es =>
        obtain ⟨c, hc, hp⟩ := hl.dirs _ es hne hu
        exact absurd hp (hap c hc).2

theorem put (hl : Layout t written) (hfree : t.Free a.place) :
    Layout ((FileTree.file a.contents.toUTF8).put a.place t) (written ++ [a]) where
  isDir := by
    obtain ⟨es, rfl⟩ := FileTree.isDir_iff.mp hl.isDir
    have hgrown : FileTree.Grown (.dir es)
        (FileTree.put (.file a.contents.toUTF8) a.place (.dir es)) :=
      FileTree.Grown.put hfree.missing
    obtain ⟨es', hes⟩ := hgrown.dir FileTree.get?_nil
    rw [FileTree.get?_nil] at hes
    rw [Option.some.inj hes]
    rfl
  sorted := hl.sorted.put hfree.clear
  files := by
    refine (FileTree.files_put hl.sorted hfree).trans ?_
    rw [List.map_append]
    exact (hl.files.cons _).trans (List.perm_append_singleton _ _).symm
  dirs p es hp h := by
    rcases FileTree.get?_put_dir hfree.clear h with h | ⟨h, -⟩
    · obtain ⟨b, hb, hpre⟩ := hl.dirs p es hp h
      exact ⟨b, List.mem_append_left _ hb, hpre⟩
    · exact ⟨a, by simp, h⟩

end Layout

/-- Files that are apart are all written, whatever their order, and nothing outside the output
directory changes. -/
theorem writeAll_apart {as written : List Artifact} (h : d.Leads dir loc t)
    (hl : Layout t written) (hap : (written ++ as).Pairwise Apart)
    (hname : ∀ a ∈ as, ∀ n ∈ a.place, Path.IsName n) (hfits : ∀ a ∈ as, a.Fits dir) :
    ∃ d' t', writeAll dir as d = (.ok (as.map fun a => Path.join dir a.path), d') ∧
      d'.Leads dir loc t' ∧ Layout t' (written ++ as) ∧
      ∀ q, ¬ loc <+: q → ¬ q <+: loc → d'.root.get? q = d.root.get? q := by
  induction as generalizing d t written with
  | nil =>
    rw [List.append_nil]
    exact ⟨d, t, rfl, h, hl, fun _ _ _ => rfl⟩
  | cons a as ih =>
    have hne : a.place ≠ [] := Path.pieces_ne_nil _
    have hfree := hl.free hne fun b hb =>
      (List.pairwise_append.mp hap).2.2 b hb a List.mem_cons_self
    obtain ⟨names, n, hplace⟩ : ∃ names n, a.place = names ++ [n] :=
      ⟨_, _, (List.dropLast_append_getLast hne).symm⟩
    have hpath : a.path = Text.joinWith "/" (names ++ [n]) := by
      rw [← hplace, place, Path.joinWith_pieces]
    have hentry : ∀ m ∈ names ++ [n], Disk.EntryName m := fun m hm =>
      ⟨hname a List.mem_cons_self m (hplace ▸ hm),
        (hfits a List.mem_cons_self).names m (hplace ▸ hm)⟩
    have hwrite := write_new h hpath hentry (hfits a List.mem_cons_self).path (hplace ▸ hfree)
    rw [← hplace] at hwrite
    rw [List.append_cons] at hap
    obtain ⟨d', t', hrest, hleads, hlayout, hframe⟩ :=
      ih (h.put hl.isDir (.put hfree.missing)) (hl.put hfree) hap
        (fun b hb => hname b (List.mem_cons_of_mem _ hb))
        (fun b hb => hfits b (List.mem_cons_of_mem _ hb))
    refine ⟨d', t', ?_, hleads, by rwa [List.append_cons], fun q hq hq' => ?_⟩
    · rw [writeAll, hwrite]
      dsimp only
      rw [hrest]
      rfl
    · rw [hframe q hq hq', Disk.put_root, FileTree.get?_put_apart hq hq']

end Artifact

/-! ## Paths of generated files -/

namespace Path

theorem components_of_names {path : String} (h : ∀ n ∈ pieces path, IsName n) :
    isAbsolute path = false ∧ components path = (pieces path).map .name := by
  have habs : isAbsolute path = false := by
    rw [← Bool.not_eq_true, isAbsolute_iff]
    rintro ⟨p, ps, hp⟩
    exact (h "" (hp ▸ List.mem_cons_self)).nonempty rfl
  refine ⟨habs, ?_⟩
  rw [components]
  cases hp : pieces path with
  | nil => exact absurd hp (pieces_ne_nil path)
  | cons n ns =>
    rw [hp] at h
    have hn := h n List.mem_cons_self
    have hrest : ns.filterMap innerComponent? = ns.map .name := by
      rw [← List.filterMap_eq_map]
      exact List.filterMap_congr fun m hm => (h m (List.mem_cons_of_mem _ hm)).innerComponent?
    simp only [habs, Bool.false_eq_true, if_false, hn.not_here, hn.innerComponent?, hrest]
    rfl

end Path

namespace TypeScript

variable {n m : FullName} {s : String}

theorem isName_of_isValidName (h : isValidName s = true) : Path.IsName s := by
  have hdot : '.' ∉ s.toList := not_mem_of_isNameText h rfl
  refine ⟨?_, ?_, ?_, slash_not_mem h⟩
  · rintro rfl
    cases h
  · rintro rfl
    simp at hdot
  · rintro rfl
    simp at hdot

theorem isName_ending (h : isValidName s = true) : Path.IsName (s ++ ".ts") := by
  have ht : 't' ∈ (s ++ ".ts").toList := by simp
  refine ⟨?_, ?_, ?_, ?_⟩
  · intro he
    rw [he] at ht
    cases ht
  · intro he
    rw [he] at ht
    simp at ht
  · intro he
    rw [he] at ht
    simp at ht
  · simpa using slash_not_mem h

theorem isName_file (h : n.Valid) : ∀ p ∈ n.segments ++ [n.name ++ ".ts"], Path.IsName p := by
  intro p hp
  rcases List.mem_append.mp hp with hp | hp
  · exact isName_of_isValidName (h.segments p hp)
  · exact List.mem_singleton.mp hp ▸ isName_ending h.name

theorem pieces_filePath (h : n.Valid) :
    Path.pieces (filePath n) = n.segments ++ [n.name ++ ".ts"] :=
  Path.pieces_names (isName_file h) (by simp)

/-- The file of a type does not lie on the way to that of another: its name has an ending, and no
directory has one. -/
theorem filePath_front (hn : n.Valid) (hm : m.Valid)
    (h : Path.pieces (filePath n) <+: Path.pieces (filePath m)) : n = m := by
  rw [pieces_filePath hn, pieces_filePath hm] at h
  rcases List.prefix_concat_iff.mp h with h | h
  · refine filePath_inj hn hm ?_
    rw [← Path.joinWith_pieces (filePath n), ← Path.joinWith_pieces (filePath m),
      pieces_filePath hn, pieces_filePath hm, h]
  · have hmem : n.name ++ ".ts" ∈ m.segments := h.subset (by simp)
    have hdot : '.' ∉ (n.name ++ ".ts").toList :=
      not_mem_of_isNameText (hm.segments _ hmem) rfl
    simp at hdot

end TypeScript

open TypeScript

namespace RunOptions

variable {o : RunOptions} {config : Config} {r : Resolve.AvroResolution}
  {artifacts : List Artifact} {entries : List String} {ds : List Definition}

/-- The paths of the files of a run are relative and go down only, they are different, and none is a
directory of another. So the files are written into an empty directory in any order, and it holds
them and nothing else. -/
theorem writeAll_generated (hm : Remap.parse entries = .ok o.remap) (hr : o.resolve ds = .ok r)
    (hg : o.generate config r = .ok artifacts) :
    (∀ a ∈ artifacts, Path.isAbsolute a.path = false ∧
      ∀ c ∈ Path.components a.path, ∃ n, c = .name n) ∧
    artifacts.Pairwise (fun a b => a.path ≠ b.path ∧
      ¬ Path.components a.path <+: Path.components b.path ∧
      ¬ Path.components b.path <+: Path.components a.path) ∧
    ∀ (order : List Artifact) (d : Disk) (dir : String) (loc : List String),
      order.Perm artifacts → d.Leads dir loc (.dir []) → (∀ a ∈ artifacts, a.Fits dir) →
      ∃ d' t, Artifact.writeAll dir order d =
          (.ok (order.map fun a => Path.join dir a.path), d') ∧
        d'.Leads dir loc t ∧
        t.files.Perm (order.map fun a => (Path.pieces a.path, a.contents.toUTF8)) ∧
        ∀ q, ¬ loc <+: q → ¬ q <+: loc → d'.root.get? q = d.root.get? q := by
  obtain ⟨named, emitted, rfl⟩ := generate_emitted hm hr hg
  have hplaces : ∀ a ∈ named.map fun e => emit config o.remap e.1 e.2,
      ∀ n ∈ a.place, Path.IsName n := by
    intro a ha
    obtain ⟨e, he, rfl⟩ := List.mem_map.mp ha
    have hv := (emitted.valid e he).1
    rw [Artifact.place, show (emit config o.remap e.1 e.2).path = filePath e.1 from rfl,
      pieces_filePath hv]
    exact isName_file hv
  have hapart : (named.map fun e => emit config o.remap e.1 e.2).Pairwise Artifact.Apart := by
    rw [List.pairwise_map]
    refine (List.pairwise_map.mp emitted.distinct).imp_of_mem fun {e f} he hf hne => ?_
    have hve := (emitted.valid e he).1
    have hvf := (emitted.valid f hf).1
    exact ⟨fun h => hne (filePath_front hve hvf h),
      fun h => hne (filePath_front hvf hve h).symm⟩
  refine ⟨fun a ha => ?_, ?_, fun order d dir loc hp hd hfits => ?_⟩
  · obtain ⟨habs, hcomponents⟩ := Path.components_of_names (hplaces a ha)
    refine ⟨habs, fun c hc => ?_⟩
    rw [hcomponents] at hc
    obtain ⟨n, -, rfl⟩ := List.mem_map.mp hc
    exact ⟨n, rfl⟩
  · refine hapart.imp_of_mem fun {a b} ha hb h => ?_
    have hname : Function.Injective Path.Component.name := fun _ _ h => Path.Component.name.inj h
    rw [(Path.components_of_names (hplaces a ha)).2, (Path.components_of_names (hplaces b hb)).2,
      List.prefix_map_iff_of_injective hname, List.prefix_map_iff_of_injective hname]
    refine ⟨fun he => h.1 ?_, h⟩
    have hplace : a.place = b.place := congrArg Path.pieces he
    exact hplace ▸ List.prefix_refl a.place
  · obtain ⟨d', t, hwrite, hleads, hlayout, hframe⟩ := Artifact.writeAll_apart hd
      Artifact.layout_nil ((hp.pairwise_iff Artifact.Apart.symm).mpr hapart)
      (fun a ha => hplaces a (hp.mem_iff.mp ha)) (fun a ha => hfits a (hp.mem_iff.mp ha))
    exact ⟨d', t, hwrite, hleads, hlayout.files, hframe⟩

/-- A disk with an empty directory `out` and a file beside it. -/
def sampleDisk : Disk := ⟨.dir [("kept", .file "text".toUTF8), ("out", .dir [])], []⟩

/-- The moved record and the type of its field, written in the other order. -/
theorem writeAll_moved_user : ∃ r artifacts d' t,
    movedSpace.resolve [Resolve.fooUser, Resolve.bareFoo] = .ok r ∧
    movedSpace.generate .default r = .ok artifacts ∧
    Artifact.writeAll "out" artifacts.reverse sampleDisk =
      (.ok ["out/org/acme/R.ts", "out/Foo.ts"], d') ∧
    d'.Leads "out" ["out"] t ∧
    (t.files.map Prod.fst).Perm [["org", "acme", "R.ts"], ["Foo.ts"]] ∧
    d'.root.get? ["kept"] = some (.file "text".toUTF8) := by
  have hm : Remap.parse ["ns:org.acme"] = .ok movedSpace.remap := by decide +kernel
  have heval : (movedSpace.run .default [Resolve.fooUser, Resolve.bareFoo]).toOption.map
      (fun p => p.2.map (·.path)) = some ["Foo.ts", "org/acme/R.ts"] := by decide +kernel
  obtain ⟨⟨r, artifacts⟩, hrun, hpaths⟩ := Option.map_eq_some_iff.mp heval
  have hok : movedSpace.run .default [Resolve.fooUser, Resolve.bareFoo] = .ok (r, artifacts) := by
    cases hx : movedSpace.run .default [Resolve.fooUser, Resolve.bareFoo] with
    | error e => rw [hx] at hrun; cases hrun
    | ok p => rw [hx] at hrun; cases hrun; rfl
  obtain ⟨hr, hg⟩ := run_ok hok
  have hpaths' : artifacts.reverse.map (·.path) = ["org/acme/R.ts", "Foo.ts"] := by
    rw [List.map_reverse, show artifacts.map (·.path) = _ from hpaths]
    rfl
  have hleads : sampleDisk.Leads "out" ["out"] (.dir []) := ⟨by decide, rfl⟩
  have hfits : ∀ a ∈ artifacts, a.Fits "out" := by
    intro a ha
    have hmem : a.path ∈ ["Foo.ts", "org/acme/R.ts"] := hpaths ▸ List.mem_map_of_mem ha
    have hpath : ∀ p ∈ ["Foo.ts", "org/acme/R.ts"],
        Disk.checkPath (Path.join "out" p) = .ok () ∧
          ∀ n ∈ Path.pieces p, n.utf8ByteSize ≤ Disk.maxNameSize := by decide
    exact ⟨(hpath _ hmem).1, (hpath _ hmem).2⟩
  obtain ⟨-, -, hwrite⟩ := writeAll_generated hm hr hg
  obtain ⟨d', t, hd', ht, hfiles, hframe⟩ :=
    hwrite artifacts.reverse sampleDisk "out" ["out"] (List.reverse_perm _) hleads hfits
  refine ⟨r, artifacts, d', t, hr, hg, ?_, ht, ?_, ?_⟩
  · rw [hd', show (artifacts.reverse.map fun a => Path.join "out" a.path) =
      (artifacts.reverse.map (·.path)).map (Path.join "out") by simp, hpaths']
    rfl
  · have hplaces := hfiles.map Prod.fst
    rw [List.map_map, show (artifacts.reverse.map
      (Prod.fst ∘ fun a => (Path.pieces a.path, a.contents.toUTF8))) =
      (artifacts.reverse.map (·.path)).map Path.pieces by simp, hpaths'] at hplaces
    exact hplaces
  · rw [hframe ["kept"] (by decide) (by decide)]
    rfl

end RunOptions

end AvroLink
