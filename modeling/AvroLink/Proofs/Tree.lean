import Mathlib.Data.String.Basic
import AvroLink.Files.Tree

/-!
# Putting files into a tree

`Clear t p` says that no file lies on the way along `p`, `Free t p` also that nothing lies at its
end. What is put at a free place is one more file, and everything that was there stays
(`files_put`, `Grown.put`), if the entries of each directory are in order (`Sorted`).
-/

namespace AvroLink.FileTree

variable {t u v new : FileTree} {n m : String} {p q r : List String}
  {es : List (String × FileTree)} {b : ByteArray}

/-! ## What lies where -/

@[simp] theorem get?_nil : t.get? [] = some t := by
  rw [get?]

theorem get?_cons : (dir es).get? (n :: p) = (es.lookup n).bind fun u => u.get? p := by
  rw [get?, entries]

theorem get?_file : (file b).get? (n :: p) = none := by
  rw [get?, entries]
  rfl

theorem get?_append (t : FileTree) (p q : List String) :
    t.get? (p ++ q) = (t.get? p).bind fun u => u.get? q := by
  induction p generalizing t with
  | nil => simp
  | cons n p ih =>
    rw [List.cons_append, get?, get?]
    cases t.entries.lookup n with
    | none => rfl
    | some u => exact ih u

theorem get?_snoc (h : t.get? p = some (dir es)) : t.get? (p ++ [n]) = es.lookup n := by
  rw [get?_append, h, Option.bind_some, get?_cons]
  cases es.lookup n <;> simp

theorem isDir_iff : t.isDir = true ↔ ∃ es, t = dir es := by
  cases t <;> simp [isDir]

/-! ## Putting -/

@[simp] theorem put_nil : put new [] t = new := by
  rw [put]

@[simp] theorem put_file : put new (n :: p) (file b) = file b := by
  rw [put]

theorem put_dir :
    put new (n :: p) (dir es) = dir (putEntry n (put new p ((es.lookup n).getD (dir []))) es) := by
  rw [put]

theorem putEntry_putEntry (n : String) (t u : FileTree) (es : List (String × FileTree)) :
    putEntry n u (putEntry n t es) = putEntry n u es := by
  induction es with
  | nil => simp [putEntry]
  | cons e es ih =>
    obtain ⟨m, v⟩ := e
    by_cases hlt : n < m
    · simp [putEntry, hlt]
    · by_cases heq : n = m
      · simp [putEntry, heq]
      · simp [putEntry, hlt, heq, ih]

theorem put_append (new : FileTree) (p q : List String) (t : FileTree) :
    put new (p ++ q) t = put (put new q ((t.get? p).getD (dir []))) p t := by
  induction p generalizing t with
  | nil => simp
  | cons n p ih =>
    cases t with
    | file b => simp
    | dir es =>
      rw [List.cons_append, put_dir, put_dir, ih, get?_cons]
      cases es.lookup n with
      | some u => rfl
      | none =>
        cases p with
        | nil => simp
        | cons m p => simp [get?_cons]

theorem put_put (u new : FileTree) (p : List String) (t : FileTree) :
    put u p (put new p t) = put u p t := by
  induction p generalizing t with
  | nil => simp
  | cons n p ih =>
    cases t with
    | file b => simp
    | dir es =>
      rw [put_dir, put_dir, put_dir, lookup_putEntry, if_pos rfl, Option.getD_some, ih,
        putEntry_putEntry]

/-! ## Clear ways -/

/-- No file lies on the way along `p`, nor at its end. -/
def Clear (t : FileTree) (p : List String) : Prop :=
  ∀ q, q <+: p → ∀ b, t.get? q ≠ some (file b)

/-- Something can be put at `p`: nothing lies there and no file lies on the way. -/
structure Free (t : FileTree) (p : List String) : Prop where
  clear : t.Clear p
  missing : t.get? p = none

theorem Clear.upTo (h : t.Clear p) (hq : q <+: p) : t.Clear q :=
  fun r hr => h r (hr.trans hq)

theorem Clear.dir (h : t.Clear p) (hu : t.get? p = some u) : ∃ es, u = .dir es := by
  cases u with
  | file b => exact absurd hu (h p (List.prefix_refl p) b)
  | dir es => exact ⟨es, rfl⟩

theorem Clear.cons (h : (FileTree.dir es).Clear (n :: p)) (hu : es.lookup n = some u) :
    u.Clear p := by
  intro q hq b hb
  refine h (n :: q) (List.prefix_cons_inj n |>.mpr hq) b ?_
  rw [get?_cons, hu, Option.bind_some, hb]

theorem clear_empty (p : List String) : (dir []).Clear p := by
  intro q _ b
  cases q with
  | nil => simp
  | cons n q => simp [get?_cons]

theorem Clear.lookup (h : (FileTree.dir es).Clear (n :: p)) :
    ((es.lookup n).getD (FileTree.dir [])).Clear p := by
  cases hu : es.lookup n with
  | none => exact clear_empty p
  | some u => exact h.cons hu

theorem get?_put_self (h : t.Clear p) : (put new p t).get? p = some new := by
  induction p generalizing t with
  | nil => simp
  | cons n p ih =>
    cases t with
    | file b => exact absurd get?_nil (h [] List.nil_prefix b)
    | dir es =>
      rw [put_dir, get?_cons, lookup_putEntry, if_pos rfl]
      exact ih h.lookup

/-- Where there was something, what lies on the way to it is a directory. -/
theorem clear_of_get? (h : t.get? p = some (dir es)) : t.Clear p := by
  rintro q ⟨r, rfl⟩ b hb
  rw [get?_append, hb, Option.bind_some] at h
  cases r with
  | nil => simp at h
  | cons n r => simp [get?_file] at h

theorem Clear.append (hp : t.get? p = some u) (hu : u.Clear q) : t.Clear (p ++ q) := by
  obtain ⟨es, rfl⟩ := (hu.upTo List.nil_prefix).dir get?_nil
  intro r hr b hb
  rcases List.prefix_or_prefix_of_prefix hr (List.prefix_append p q) with h | ⟨s, rfl⟩
  · exact clear_of_get? hp r h b hb
  · rw [get?_append, hp, Option.bind_some] at hb
    exact hu s ((List.prefix_append_right_inj p).mp hr) b hb

theorem put_append_of_missing (hc : t.Clear p) (h : t.get? p = none) (new : FileTree)
    (q : List String) : put new (p ++ q) (put (dir []) p t) = put new (p ++ q) t := by
  rw [put_append, get?_put_self hc, put_put, put_append, h]
  rfl

/-! ## What stays -/

/-- Everything of `t` is in `t'`, and directories are directories. -/
def Grown (t t' : FileTree) : Prop :=
  ∀ p u, t.get? p = some u → ∃ u', t'.get? p = some u' ∧ u'.isDir = u.isDir

theorem Grown.dir {t' : FileTree} (h : Grown t t') (hp : t.get? p = some (dir es)) :
    ∃ es', t'.get? p = some (dir es') := by
  obtain ⟨u, hu, hd⟩ := h p _ hp
  obtain ⟨es', rfl⟩ := isDir_iff.mp hd
  exact ⟨es', hu⟩

theorem Grown.put_of_get? (hp : t.get? p = some u) (h : Grown u new) : Grown t (put new p t) := by
  induction p generalizing t with
  | nil =>
    rw [get?_nil] at hp
    cases hp
    rwa [put_nil]
  | cons n p ih =>
    cases t with
    | file b => simp [get?_file] at hp
    | dir es =>
      rw [get?_cons] at hp
      obtain ⟨v, hv, hp⟩ := Option.bind_eq_some_iff.mp hp
      intro q w hw
      rw [put_dir, hv, Option.getD_some]
      cases q with
      | nil =>
        rw [get?_nil] at hw ⊢
        cases hw
        exact ⟨_, rfl, rfl⟩
      | cons m q =>
        rw [get?_cons, lookup_putEntry]
        rw [get?_cons] at hw
        split
        · rename_i he
          rw [he, hv, Option.bind_some] at hw
          exact ih hp q w hw
        · exact ⟨w, hw, rfl⟩

/-- What is put where nothing was grows the tree. -/
theorem Grown.put (h : t.get? p = none) : Grown t (put new p t) := by
  induction p generalizing t with
  | nil => simp at h
  | cons n p ih =>
    cases t with
    | file b => exact fun q u hu => ⟨u, by rwa [put_file], rfl⟩
    | dir es =>
      intro q u hu
      rw [put_dir]
      cases q with
      | nil =>
        rw [get?_nil] at hu ⊢
        cases hu
        exact ⟨_, rfl, rfl⟩
      | cons m q =>
        rw [get?_cons, lookup_putEntry]
        rw [get?_cons] at h hu
        split
        · rename_i he
          subst he
          obtain ⟨v, hv, hu⟩ := Option.bind_eq_some_iff.mp hu
          rw [hv, Option.bind_some] at h
          rw [hv]
          exact ih h q u hu
        · exact ⟨u, hu, rfl⟩

/-- What does not lie on the way to `p`, nor below it, is what it was. -/
theorem get?_put_apart (hp : ¬ p <+: q) (hq : ¬ q <+: p) : (put new p t).get? q = t.get? q := by
  induction p generalizing t q with
  | nil => exact absurd List.nil_prefix hp
  | cons n p ih =>
    cases t with
    | file b => rw [put_file]
    | dir es =>
      cases q with
      | nil => exact absurd List.nil_prefix hq
      | cons m q =>
        rw [put_dir, get?_cons, get?_cons, lookup_putEntry]
        split
        · rename_i he
          subst he
          rw [List.prefix_cons_inj] at hp hq
          rw [Option.bind_some, ih hp hq]
          cases es.lookup m with
          | some u => rfl
          | none =>
            cases q with
            | nil => exact absurd List.nil_prefix hq
            | cons k q => simp [get?_cons]
        · rfl

/-- What lies on the way after something was put. -/
theorem get?_put_above (h : t.Clear p) :
    (put new (p ++ q) t).get? p = some (put new q ((t.get? p).getD (dir []))) := by
  rw [put_append, get?_put_self h]

/-- A directory after a file was put at `p` lies on the way to it, with one entry changed or made,
or it was there before. -/
theorem get?_put_dir (hp : t.Clear p) (h : (put (file b) p t).get? q = some (dir es)) :
    t.get? q = some (dir es) ∨
      q <+: p ∧ ∃ n v es', es = putEntry n v es' ∧ (t.get? q).getD (dir []) = dir es' := by
  by_cases hq : q <+: p
  · obtain ⟨r, rfl⟩ := hq
    rw [get?_put_above (hp.upTo (List.prefix_append q r))] at h
    cases r with
    | nil => simp at h
    | cons n r =>
      cases hu : t.get? q with
      | none =>
        rw [hu, Option.getD_none, put_dir] at h
        cases h
        exact .inr ⟨List.prefix_append .., n, _, [], rfl, rfl⟩
      | some u =>
        obtain ⟨es', rfl⟩ := (hp.upTo (List.prefix_append ..)).dir hu
        rw [hu, Option.getD_some, put_dir] at h
        cases h
        exact .inr ⟨List.prefix_append .., n, _, es', rfl, rfl⟩
  · by_cases hpq : p <+: q
    · obtain ⟨r, rfl⟩ := hpq
      rw [get?_append, get?_put_self hp, Option.bind_some] at h
      cases r with
      | nil => simp at h
      | cons n r => simp [get?_file] at h
    · exact .inl (by rwa [get?_put_apart hpq hq] at h)

/-! ## The files of a tree -/

/-- The entries of each directory are in order. -/
def Sorted (t : FileTree) : Prop :=
  ∀ p es, t.get? p = some (dir es) → es.Pairwise fun e f => e.1 < f.1

theorem mem_keys_putEntry {e : String × FileTree} (he : e ∈ putEntry n v es) :
    e.1 = n ∨ e ∈ es := by
  induction es with
  | nil => simp_all [putEntry]
  | cons f es ih =>
    obtain ⟨m, w⟩ := f
    unfold putEntry at he
    split at he
    · rcases List.mem_cons.mp he with rfl | he
      · exact .inl rfl
      · exact .inr he
    · split at he
      · rcases List.mem_cons.mp he with rfl | he
        · exact .inl rfl
        · exact .inr (List.mem_cons_of_mem _ he)
      · rcases List.mem_cons.mp he with rfl | he
        · exact .inr List.mem_cons_self
        · exact (ih he).imp_right (List.mem_cons_of_mem _)

theorem sorted_putEntry (h : es.Pairwise fun e f => e.1 < f.1) :
    (putEntry n v es).Pairwise fun e f => e.1 < f.1 := by
  induction es with
  | nil => simp [putEntry]
  | cons f es ih =>
    obtain ⟨m, w⟩ := f
    obtain ⟨hm, hes⟩ := List.pairwise_cons.mp h
    unfold putEntry
    split
    · rename_i hlt
      refine .cons (fun e he => ?_) h
      rcases List.mem_cons.mp he with rfl | he
      · exact hlt
      · exact hlt.trans (hm e he)
    · rename_i hle
      split
      · rename_i he
        exact .cons (he ▸ hm) hes
      · rename_i hne
        refine .cons (fun e he => ?_) (ih hes)
        rcases mem_keys_putEntry he with he | he
        · exact he ▸ lt_of_le_of_ne (not_lt.mp hle) (Ne.symm hne)
        · exact hm e he

theorem Sorted.put (h : t.Sorted) (hp : t.Clear p) : (put (file b) p t).Sorted := by
  intro q es hq
  rcases get?_put_dir hp hq with hq | ⟨hq, n, v, es', rfl, he⟩
  · exact h q es hq
  · refine sorted_putEntry ?_
    cases hu : t.get? q with
    | none =>
      rw [hu] at he
      cases he
      exact .nil
    | some u =>
      rw [hu, Option.getD_some] at he
      exact h q es' (he ▸ hu)

theorem Sorted.lookup (h : (dir es).Sorted) (hu : es.lookup n = some u) : u.Sorted :=
  fun p es' hp => h (n :: p) es' (by rw [get?_cons, hu, Option.bind_some, hp])

theorem lookup_none_of_lt (h : ∀ e ∈ es, n < e.1) : es.lookup n = none := by
  rw [List.lookup_eq_none_iff]
  intro e he
  simpa using (h e he).ne

theorem putEntry_split (h : es.Pairwise fun e f => e.1 < f.1) :
    ∃ before after, es = before ++ ((es.lookup n).map (n, ·)).toList ++ after ∧
      ∀ v, putEntry n v es = before ++ (n, v) :: after := by
  induction es with
  | nil => exact ⟨[], [], rfl, fun v => rfl⟩
  | cons f es ih =>
    obtain ⟨m, w⟩ := f
    obtain ⟨hm, hes⟩ := List.pairwise_cons.mp h
    by_cases hlt : n < m
    · refine ⟨[], (m, w) :: es, ?_, fun v => by simp [putEntry, hlt]⟩
      rw [lookup_none_of_lt fun e he => ?_]
      · rfl
      · rcases List.mem_cons.mp he with rfl | he
        · exact hlt
        · exact hlt.trans (hm e he)
    · by_cases heq : n = m
      · subst heq
        exact ⟨[], es, by simp, fun v => by simp [putEntry]⟩
      · obtain ⟨before, after, he, hput⟩ := ih hes
        refine ⟨(m, w) :: before, after, ?_, fun v => by simp [putEntry, hlt, heq, hput]⟩
        have hbeq : (n == m) = false := by simpa using heq
        rw [List.lookup_cons, hbeq]
        simpa using he

theorem entryFiles_append (es fs : List (String × FileTree)) :
    entryFiles (es ++ fs) = entryFiles es ++ entryFiles fs := by
  induction es with
  | nil => simp [entryFiles]
  | cons e es ih => simp [entryFiles, ih, List.append_assoc]

theorem entryFiles_middle (before after : List (String × FileTree)) (n : String) (u : FileTree) :
    entryFiles (before ++ (n, u) :: after) =
      entryFiles before ++ (u.files.map (fun (p, b) => (n :: p, b)) ++ entryFiles after) := by
  rw [entryFiles_append, entryFiles]

theorem files_put_empty (b : ByteArray) (p : List String) :
    (put (file b) p (dir [])).files = [(p, b)] := by
  induction p with
  | nil => simp [files]
  | cons n p ih => simp [put_dir, putEntry, files, entryFiles, ih]

/-- A file that is put at a free place is one more. -/
theorem files_put (hs : t.Sorted) (h : t.Free p) :
    (put (file b) p t).files.Perm ((p, b) :: t.files) := by
  induction p generalizing t with
  | nil => exact absurd h.missing (by simp)
  | cons n p ih =>
    cases t with
    | file c => exact absurd get?_nil (h.clear [] List.nil_prefix c)
    | dir es =>
      obtain ⟨before, after, he, hput⟩ := putEntry_split (n := n) (hs [] es get?_nil)
      rw [put_dir, hput, files, files, entryFiles_middle]
      cases hu : es.lookup n with
      | none =>
        rw [hu] at he
        rw [Option.getD_none, files_put_empty, he]
        simp [entryFiles_append]
      | some u =>
        rw [hu] at he
        have hfree : u.Free p := ⟨h.clear.cons hu, by simpa [get?_cons, hu] using h.missing⟩
        have hperm := (ih (hs.lookup hu) hfree).map fun (q, c) => (n :: q, c)
        rw [Option.getD_some, he]
        simp only [Option.map_some, Option.toList_some, List.append_assoc, List.singleton_append,
          entryFiles_middle]
        exact ((hperm.append_right _).append_left _).trans List.perm_middle

theorem mem_files (h : t.get? p = some (file b)) : (p, b) ∈ t.files := by
  induction p generalizing t with
  | nil =>
    rw [get?_nil] at h
    cases h
    simp [files]
  | cons n p ih =>
    cases t with
    | file c => simp [get?_file] at h
    | dir es =>
      rw [get?_cons] at h
      obtain ⟨u, hu, hp⟩ := Option.bind_eq_some_iff.mp h
      obtain ⟨before, after, rfl, -⟩ := List.lookup_eq_some_iff.mp hu
      rw [files, entryFiles_middle]
      refine List.mem_append_right _ (List.mem_append_left _ ?_)
      exact List.mem_map.mpr ⟨(p, b), ih hp, rfl⟩

end AvroLink.FileTree
