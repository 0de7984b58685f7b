import Mathlib.Data.List.Induction
import AvroLink.Proofs.Pieces

/-!
# Where import paths lead

`follow dir steps` goes from the directory `dir` along the steps of a module path and never leaves
the root. From the directory of a file, the import path of another type leads to the file of that
type, so different types have different import paths.
-/

namespace AvroLink.TypeScript

variable {source target target' : FullName}

/-- Follow a module path from a directory, if it stays below the root. -/
def follow (dir : List String) : List String → Option (List String)
  | [] => some dir
  | step :: steps =>
    if step = "." then follow dir steps
    else if step = ".." then
      if dir = [] then none else follow dir.dropLast steps
    else follow (dir ++ [step]) steps

theorem follow_names {dir steps : List String} (h : ∀ s ∈ steps, isValidName s = true) :
    follow dir steps = some (dir ++ steps) := by
  induction steps generalizing dir with
  | nil => simp [follow]
  | cons s ss ih =>
    have hs := h s List.mem_cons_self
    have hdot : '.' ∉ s.toList := not_mem_of_isNameText hs rfl
    have h1 : s ≠ "." := by rintro rfl; simp at hdot
    have h2 : s ≠ ".." := by rintro rfl; simp at hdot
    rw [follow, if_neg h1, if_neg h2, ih fun t ht => h t (List.mem_cons_of_mem _ ht)]
    simp

theorem follow_up (dir up steps : List String) :
    follow (dir ++ up) (up.map (fun _ => "..") ++ steps) = follow dir steps := by
  rw [List.map_const']
  induction up using List.reverseRecOn with
  | nil => simp
  | append_singleton up u ih =>
    rw [List.length_append, List.length_singleton, List.replicate_succ, List.cons_append, follow,
      if_neg (by decide), if_pos rfl, if_neg (by simp), ← List.append_assoc, List.dropLast_concat]
    exact ih

theorem dropCommon_spec (as bs : List String) :
    ∃ common, as = common ++ (dropCommon as bs).1 ∧ bs = common ++ (dropCommon as bs).2 := by
  induction as generalizing bs with
  | nil => exact ⟨[], by simp [dropCommon], by simp [dropCommon]⟩
  | cons a as ih =>
    cases bs with
    | nil => exact ⟨[], by simp [dropCommon], by simp [dropCommon]⟩
    | cons b bs =>
      unfold dropCommon
      split
      · rename_i h
        subst h
        obtain ⟨common, ha, hb⟩ := ih bs
        exact ⟨a :: common, by simpa using ha, by simpa using hb⟩
      · exact ⟨[], by simp, by simp⟩

/-- The steps of an import path go up with `..` and then down along names. -/
theorem importSteps_eq (source : FullName) (ht : target.Valid) :
    ∃ common up down, source.segments = common ++ up ∧ target.steps = common ++ down ∧
      importSteps source target = up.map (fun _ => "..") ++ down ∧ down ≠ [] ∧
      ∀ s ∈ down, isValidName s = true := by
  obtain ⟨common, hs, hd⟩ := dropCommon_spec source.segments target.segments
  refine ⟨common, _, _, hs, ?_, List.append_assoc .., by simp, fun s hs => ?_⟩
  · rw [FullName.steps, ← List.append_assoc, ← hd]
  · refine ht.steps s ?_
    rw [FullName.steps, hd, List.append_assoc]
    exact List.mem_append_right _ hs

theorem follow_importSteps (ht : target.Valid) :
    follow source.segments (importSteps source target) = some target.steps := by
  obtain ⟨common, up, down, hs, hd, he, -, hv⟩ := importSteps_eq source ht
  rw [he, hs, follow_up, follow_names hv, hd]

theorem slash_not_mem {s : String} (h : isValidName s = true) : '/' ∉ s.toList :=
  not_mem_of_isNameText h rfl

/-- The import path is made of its steps, after a `.` if it does not go up. -/
theorem pieces_importPath (source : FullName) (ht : target.Valid) :
    Path.pieces (importPath source target) = importSteps source target ∨
      Path.pieces (importPath source target) = "." :: importSteps source target := by
  obtain ⟨common, up, down, -, -, he, hne, hv⟩ := importSteps_eq source ht
  have hslash : ∀ s ∈ importSteps source target, '/' ∉ s.toList := by
    intro s hs
    rw [he] at hs
    rcases List.mem_append.mp hs with hs | hs
    · obtain ⟨_, _, rfl⟩ := List.mem_map.mp hs
      decide
    · exact slash_not_mem (hv s hs)
  have hsteps : importSteps source target ≠ [] := by simp [he, hne]
  have hpieces := Path.pieces_joinWith hsteps hslash
  unfold importPath
  simp only
  split
  · exact .inl hpieces
  · refine .inr ?_
    have : "./" ++ Text.joinWith "/" (importSteps source target) =
        Text.joinWith "/" ("." :: importSteps source target) := by
      rw [Text.joinWith_cons hsteps, String.append_assoc]
      rfl
    rw [this, Path.pieces_joinWith (by simp)]
    intro s hs
    rcases List.mem_cons.mp hs with rfl | hs
    · decide
    · exact hslash s hs

/-- Following the import path from the directory of a file leads to the file of the target. -/
theorem follow_importPath (source : FullName) (ht : target.Valid) :
    follow source.segments (Path.pieces (importPath source target)) = some target.steps := by
  rcases pieces_importPath source ht with h | h
  · rw [h, follow_importSteps ht]
  · rw [h, follow, if_pos rfl, follow_importSteps ht]

theorem importPath_inj (ht : target.Valid) (ht' : target'.Valid)
    (h : importPath source target = importPath source target') : target = target' := by
  have hf := follow_importPath source ht
  rw [h, follow_importPath source ht'] at hf
  exact (FullName.steps_inj (Option.some.inj hf)).symm

theorem filePath_eq (n : FullName) :
    filePath n = Text.joinWith "/" n.steps ++ ".ts" := by
  unfold filePath FullName.steps
  induction n.segments with
  | nil => simp [Text.joinWith]
  | cons s ss ih =>
    rw [List.cons_append, List.cons_append, Text.joinWith_cons (by simp),
      Text.joinWith_cons (by simp), ih]
    simp [String.append_assoc]

theorem directory_filePath {n : FullName} (h : n.Valid) :
    (Path.pieces (filePath n)).dropLast = n.segments := by
  rw [filePath, Path.pieces_joinWith (by simp), List.dropLast_concat]
  intro s hs
  rcases List.mem_append.mp hs with hs | hs
  · exact slash_not_mem (h.segments s hs)
  · cases List.mem_singleton.mp hs
    simpa using slash_not_mem h.name

theorem filePath_inj {n m : FullName} (hn : n.Valid) (hm : m.Valid) (h : filePath n = filePath m) :
    n = m := by
  rw [filePath_eq, filePath_eq] at h
  have h := congrArg Path.pieces ((String.append_left_inj _).mp h)
  rw [Path.pieces_joinWith, Path.pieces_joinWith] at h
  · exact FullName.steps_inj h
  · simp [FullName.steps]
  · exact fun s hs => slash_not_mem (hm.steps s hs)
  · simp [FullName.steps]
  · exact fun s hs => slash_not_mem (hn.steps s hs)

/-- An import path starts with a step of its own: one up, or none. -/
theorem importPath_front (source : FullName) (ht : target.Valid) :
    "./".toList <+: (importPath source target).toList ∨
      "../".toList <+: (importPath source target).toList := by
  obtain ⟨common, up, down, -, -, he, hne, hv⟩ := importSteps_eq source ht
  unfold importPath
  simp only
  rw [he]
  cases up with
  | nil =>
    -- the first step is a name, so it does not go up
    obtain ⟨d, ds, rfl⟩ := List.exists_cons_of_ne_nil hne
    have hd : d ≠ ".." := by
      rintro rfl
      exact absurd (hv ".." List.mem_cons_self) (by decide)
    rw [List.map_nil, List.nil_append]
    split
    · next h => exact absurd (List.cons.inj h).1 hd
    · exact .inl (by simp)
  | cons u up =>
    rw [List.map_cons, List.cons_append, Text.joinWith_cons (by simp [hne])]
    exact .inr (by simp)

/-- From the directory of a file the import path of another type leads, without leaving the root, to
the file of that type. It starts with `./` or `../`, and no other type has the same path. -/
theorem importPath_leads (hs : source.Valid) (ht : target.Valid) :
    (∃ steps, follow (Path.pieces (filePath source)).dropLast
        (Path.pieces (importPath source target)) = some steps ∧
      filePath target = Text.joinWith "/" steps ++ ".ts") ∧
    ("./".toList <+: (importPath source target).toList ∨
      "../".toList <+: (importPath source target).toList) ∧
    ∀ other : FullName, other.Valid → other ≠ target →
      importPath source other ≠ importPath source target := by
  refine ⟨⟨target.steps, ?_, filePath_eq target⟩, importPath_front source ht,
    fun other ho hne h => ?_⟩
  · rw [directory_filePath hs]
    exact follow_importPath source ht
  · exact hne (importPath_inj ho ht h)

/-- From `a/b` to the file of `a.c.Y`: what the two namespaces have in common is not climbed. -/
theorem importPath_leads_beside :
    importPath ⟨some "a.b", "X"⟩ ⟨some "a.c", "Y"⟩ = "../c/Y" ∧
    (∃ steps, follow ["a", "b"] (Path.pieces "../c/Y") = some steps ∧
      "a/c/Y.ts" = Text.joinWith "/" steps ++ ".ts") ∧
    ∀ other : FullName, other.Valid → other ≠ ⟨some "a.c", "Y"⟩ →
      importPath ⟨some "a.b", "X"⟩ other ≠ "../c/Y" := by
  have hpath : importPath ⟨some "a.b", "X"⟩ ⟨some "a.c", "Y"⟩ = "../c/Y" := by decide +kernel
  have hfrom : (Path.pieces (filePath ⟨some "a.b", "X"⟩)).dropLast = ["a", "b"] := by decide +kernel
  have hto : filePath ⟨some "a.c", "Y"⟩ = "a/c/Y.ts" := by decide +kernel
  have h := @importPath_leads ⟨some "a.b", "X"⟩ ⟨some "a.c", "Y"⟩ (by decide) (by decide)
  rw [hpath, hfrom, hto] at h
  exact ⟨hpath, h.1, h.2.2⟩

end AvroLink.TypeScript
