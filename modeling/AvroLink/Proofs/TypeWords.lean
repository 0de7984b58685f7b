import AvroLink.Proofs.Output
import AvroLink.Proofs.Qualifier
import AvroLink.Proofs.TypeTree

/-!
# Types that are called like a built-in one

The words that built-in types are written with (`typeWords`) are no global names: a named type that
is called like one of them keeps this name in the files, whether it is declared there or imported.
Only the first such type that a file mentions does (`IsFirst`), since the others then find the name
taken. `Worded` is the invariant that says so of the names in use.
-/

namespace AvroLink.TypeScript

variable {sc : Scope} {seen ts us : List FullName} {t : FullName} {l base : String} {k : Nat}

/-- The words, but for the global names, that the built-in types of a schema are written with. -/
def typeWords : List String := ["null", "boolean", "number", "string"]

theorem text_primitiveType (p : Primitive) : (primitiveType p).text = p.typeWord := by
  cases p <;> rfl

theorem text_logicalType (l : LogicalType) : (logicalType l).text = l.typeWord := by
  cases l <;> rfl

theorem mem_typeWords_iff {w : String} : w ∈ typeWords ↔ w ∉ globals ∧
    ((∃ p, (primitiveType p).text = w) ∨ ∃ l, (logicalType l).text = w) := by
  simp only [text_primitiveType, text_logicalType]
  constructor
  · intro h
    simp only [typeWords, List.mem_cons, List.not_mem_nil, or_false] at h
    rcases h with rfl | rfl | rfl | rfl
    · exact ⟨by decide, .inl ⟨.null, rfl⟩⟩
    · exact ⟨by decide, .inl ⟨.boolean, rfl⟩⟩
    · exact ⟨by decide, .inl ⟨.int, rfl⟩⟩
    · exact ⟨by decide, .inl ⟨.string, rfl⟩⟩
  · rintro ⟨hglobal, ⟨p, rfl⟩ | ⟨l, rfl⟩⟩
    · cases p <;> first | decide | exact absurd (by decide) hglobal
    · cases l <;> first | decide | exact (show "string" ∈ typeWords by decide)

/-! ## Identifiers -/

theorem isLower_of_mem_typeWords {w : String} (h : w ∈ typeWords) {c : Char} (hc : c ∈ w.toList) :
    c.isLower = true := by
  have hall : ∀ w ∈ typeWords, w.toList.all Char.isLower = true := by decide
  exact List.all_eq_true.mp (hall w h) c hc

theorem name_not_mem_globals (h : t.name ∈ typeWords) : t.name ∉ globals :=
  (mem_typeWords_iff.mp h).1

theorem declaredIdentifier_eq_name (h : t.name ∈ typeWords) : declaredIdentifier t = t.name :=
  if_neg (name_not_mem_globals h)

theorem numbered_mem_typeWords (h : numbered base "" k ∈ typeWords) : k = 0 := by
  cases k with
  | zero => rfl
  | succ k =>
    obtain ⟨c, hc⟩ := List.exists_mem_of_ne_nil (toString (k + 2)).toList (by simp)
    have hd : c.isDigit = true :=
      Nat.isDigit_of_mem_toDigits (b := 10) (n := k + 2) (by decide) (by decide) (by simpa using hc)
    have hl := isLower_of_mem_typeWords h (c := c) (by
      rw [toList_numbered_succ]
      exact List.mem_append_right _ (List.mem_append_right _ hc))
    simp only [Char.isDigit, Bool.and_eq_true, decide_eq_true_eq] at hd
    exact absurd (UInt32.le_trans (Text.isLower_iff.mp hl).1 hd.2) (by decide)

/-- A qualified name starts with a capital or a digit, unless nothing stands before the name. -/
theorem qualifiedIdentifier_mem_typeWords (h : qualifiedIdentifier t ∈ typeWords) :
    qualifiedIdentifier t = t.name := by
  have hhead := head?_qualifiedIdentifier t
  cases hc : t.lead? with
  | none => rw [qualifiedIdentifier, qualifier_eq_empty.mpr hc, String.empty_append]
  | some c =>
    rw [hc] at hhead
    have hl := isLower_of_mem_typeWords h (List.mem_of_mem_head? hhead)
    rw [Text.isLower_toUpper] at hl
    cases hl

theorem Spells.eq_name (h : Spells t l) (hl : l ∈ typeWords) : l = t.name := by
  rcases h with rfl | ⟨k, rfl⟩
  · unfold declaredIdentifier at hl ⊢
    split
    · next hglobal =>
      rw [if_pos hglobal] at hl
      cases hs : t.space with
      | some ns =>
        rw [hs] at hl
        exact qualifiedIdentifier_mem_typeWords hl
      | none =>
        rw [hs] at hl
        have htype : ∀ g ∈ globals, g ++ "Type" ∉ typeWords := by decide
        exact absurd hl (htype _ hglobal)
    · rfl
  · cases numbered_mem_typeWords hl
    exact qualifiedIdentifier_mem_typeWords hl

theorem declaredIdentifier_mem_typeWords :
    declaredIdentifier t ∈ typeWords ↔ t.name ∈ typeWords := by
  constructor
  · intro h
    exact Spells.eq_name (.inl rfl) h ▸ h
  · intro h
    exact (declaredIdentifier_eq_name h).symm ▸ h

/-- A type not mentioned before is called by such a word when that is its name and not taken. -/
theorem Scope.choose_mem_typeWords :
    sc.choose t ∈ typeWords ↔ t.name ∈ typeWords ∧ t.name ∉ sc.taken := by
  constructor
  · intro h
    have hname := (sc.spells_choose t).eq_name h
    have hfree := sc.choose_not_mem t
    rw [hname] at h hfree
    exact ⟨h, hfree⟩
  · rintro ⟨h, hfree⟩
    rw [← declaredIdentifier_eq_name h] at hfree
    rw [choose_eq_declaredIdentifier hfree, declaredIdentifier_eq_name h]
    exact h

/-! ## The names in use -/

/-- The type `t` is the first one of `ts` with its simple name. -/
def IsFirst (ts : List FullName) (t : FullName) : Prop := ts.find? (·.name = t.name) = some t

instance : Decidable (IsFirst ts t) := inferInstanceAs (Decidable (_ = _))

theorem isFirst_append (h : t ∈ ts) : IsFirst (ts ++ us) t ↔ IsFirst ts t := by
  have hfound : (ts.find? (·.name = t.name)).isSome := List.find?_isSome.mpr ⟨t, h, by simp⟩
  obtain ⟨u, hu⟩ := Option.isSome_iff_exists.mp hfound
  rw [IsFirst, IsFirst, List.find?_append, hu, Option.some_or]

theorem isFirst_concat (h : t ∉ ts) : IsFirst (ts ++ [t]) t ↔ ∀ u ∈ ts, u.name ≠ t.name := by
  rw [IsFirst, List.find?_append]
  cases hf : ts.find? (·.name = t.name) with
  | none => simpa using List.find?_eq_none.mp hf
  | some u =>
    have hu := List.mem_of_find?_eq_some hf
    refine iff_of_false (fun he => ?_) fun hall => hall u hu (by simpa using List.find?_some hf)
    cases he
    exact h hu

/-- The names in use after the types `seen` were mentioned: of those called by the same type word,
the first one keeps it. -/
structure Worded (sc : Scope) (seen : List FullName) : Prop where
  mentioned : Mentioned sc seen
  unambiguous : sc.Unambiguous
  words : ∀ e ∈ sc.locals,
    e.2 ∈ typeWords ↔ e.1.name ∈ typeWords ∧ IsFirst (sc.self :: seen) e.1

namespace Worded

theorem empty {self : FullName} (h : self.Valid) : Worded (.empty self) [] :=
  ⟨.empty h, .empty self, by simp [Scope.empty]⟩

theorem mem_seen (h : Worded sc seen) {e : FullName × String} (he : e ∈ sc.locals) :
    e.1 ∈ seen ∧ e.1 ≠ sc.self :=
  (h.mentioned.known e.1).mp (List.mem_map_of_mem he)

/-- Such a word is taken once a type that is called like it was declared or mentioned. -/
theorem name_mem_taken (h : Worded sc seen) (ht : t.name ∈ typeWords) :
    t.name ∈ sc.taken ↔ ∃ u ∈ sc.self :: seen, u.name = t.name := by
  simp only [Scope.taken, List.cons_append, List.mem_cons, List.mem_append, List.mem_map]
  constructor
  · rintro (hself | hglobal | ⟨e, he, hident⟩)
    · refine ⟨sc.self, .inl rfl, ?_⟩
      rw [hself] at ht ⊢
      exact (Spells.eq_name (.inl rfl) ht).symm
    · exact absurd hglobal (name_not_mem_globals ht)
    · refine ⟨e.1, .inr (h.mem_seen he).1, ?_⟩
      rw [← hident] at ht ⊢
      exact ((h.unambiguous.spells e he).eq_name ht).symm
  · rintro ⟨u, hu, hname⟩
    -- the first type of this name has taken it
    have hfound : ((sc.self :: seen).find? (·.name = t.name)).isSome :=
      List.find?_isSome.mpr ⟨u, List.mem_cons.mpr hu, by simpa using hname⟩
    obtain ⟨v, hv⟩ := Option.isSome_iff_exists.mp hfound
    have hvname : v.name = t.name := by simpa using List.find?_some hv
    have hfirst : IsFirst (sc.self :: seen) v := by rw [IsFirst, hvname, hv]
    rw [← hvname] at ht ⊢
    by_cases hself : v = sc.self
    · subst hself
      exact .inl (declaredIdentifier_eq_name ht).symm
    · have hseen := (List.mem_cons.mp (List.mem_of_find?_eq_some hv)).resolve_left hself
      obtain ⟨e, he, rfl⟩ := List.mem_map.mp ((h.mentioned.known v).mpr ⟨hseen, hself⟩)
      have hword := (h.words e he).mpr ⟨ht, hfirst⟩
      exact .inr (.inr ⟨e, he, (h.unambiguous.spells e he).eq_name hword⟩)

/-- One more type does not change which of those before are the first of their names. -/
theorem words_concat (h : Worded sc seen) (t : FullName) {e : FullName × String}
    (he : e ∈ sc.locals) :
    e.2 ∈ typeWords ↔ e.1.name ∈ typeWords ∧ IsFirst (sc.self :: (seen ++ [t])) e.1 := by
  have hmem : e.1 ∈ sc.self :: seen := List.mem_cons_of_mem _ (h.mem_seen he).1
  rw [← List.cons_append, isFirst_append hmem]
  exact h.words e he

theorem mention (h : Worded sc seen) (ht : t.Valid) : Worded (sc.mention t).2 (seen ++ [t]) := by
  refine ⟨(h.mentioned.mention ht).1, (h.unambiguous.mention t).1, ?_⟩
  rcases sc.mention_cases t with ⟨-, hm⟩ | ⟨l, -, hm⟩ | ⟨hself, hnew, hm⟩ <;> rw [hm]
  · exact fun e he => h.words_concat t he
  · exact fun e he => h.words_concat t he
  · intro e he
    rcases List.mem_append.mp he with he | he
    · exact h.words_concat t he
    · obtain rfl := List.mem_singleton.mp he
      have hunseen : t ∉ sc.self :: seen := fun hm => (List.mem_cons.mp hm).elim hself
        fun hseen => hnew ((h.mentioned.known t).mpr ⟨hseen, hself⟩)
      rw [← List.cons_append, isFirst_concat hunseen, Scope.choose_mem_typeWords]
      refine and_congr_right fun hword => ?_
      rw [h.name_mem_taken hword]
      simp

theorem mapM {remap : Remap} {targets : List FullName} (h : Worded sc seen)
    (ht : ∀ t ∈ targets, (remap.applyName t).Valid) :
    Worded (targets.mapM (refer remap) sc).2 (seen ++ targets.map remap.applyName) := by
  induction targets generalizing sc seen with
  | nil =>
    rw [List.map_nil, List.append_nil]
    exact h
  | cons t targets ih =>
    obtain ⟨hvalid, hall⟩ := List.forall_mem_cons.mp ht
    have hrest := ih (h.mention hvalid) hall
    rw [List.append_assoc] at hrest
    rw [List.mapM_cons]
    exact hrest

end Worded

/-- In the file of a type, only the first of those called by the same type word has this word for
its identifier. -/
theorem declaration_worded {remap : Remap} (config : Config) (hr : remap.Valid) {s : Schema}
    (hs : s.name? ≠ none) (hw : s.WellFormed) {self : FullName} (hself : self.Valid) :
    Worded (declaration config remap s (.empty self)).2 (s.fieldMentions.map remap.applyName) := by
  have hvalid := (declaration_spec config hr hs hw hself).1.valid
  rw [declaration_asks]
  exact (Worded.empty hself).mapM fun t ht => hvalid _ (List.mem_map_of_mem ht)

end AvroLink.TypeScript

namespace AvroLink.RunOptions

open TypeScript

variable {o : RunOptions} {config : Config} {r : Resolve.AvroResolution}
  {artifacts : List Artifact} {entries : List String} {ds : List Definition}

/-- The declared type has a type word for its identifier exactly when it is called by this word. Of
the other types that are mentioned in a file, each of which is imported, the first one that is
called by the word has it, unless the declared type is called so, and no other one has. -/
theorem generate_typeWords_iff (hm : Remap.parse entries = .ok o.remap) (hr : o.resolve ds = .ok r)
    (hg : o.generate config r = .ok artifacts) :
    ∀ a ∈ artifacts, ∃ n s, (n, s) ∈ r.types.entries ∧
      a = emit config o.remap (o.remap.applyName n) s ∧
      declaredNames a = [declaredIdentifier (o.remap.applyName n)] ∧
      (declaredIdentifier (o.remap.applyName n) ∈ typeWords ↔ n.name ∈ typeWords) ∧
      ∃ locals : List (FullName × String),
        (∀ t, t ∈ locals.map Prod.fst ↔
          t ≠ o.remap.applyName n ∧ ∃ m ∈ s.fieldMentions, o.remap.applyName m = t) ∧
        (importLines a).map (· ++ "\n") =
          locals.map (fun e => (importOf (o.remap.applyName n) e).line) ∧
        ∀ e ∈ locals, e.2 ∈ typeWords ↔ e.1.name ∈ typeWords ∧
          IsFirst ((n :: s.fieldMentions).map o.remap.applyName) e.1 := by
  have hremap := Remap.parse_valid hm
  obtain ⟨named, emitted, rfl⟩ := generate_emitted hm hr hg
  intro a ha
  obtain ⟨⟨self, s⟩, he, rfl⟩ := List.mem_map.mp ha
  obtain ⟨hself, hw, hs⟩ := emitted.valid _ he
  obtain ⟨n, hn, rfl⟩ := (emitted.mem self s).mp he
  obtain ⟨himports, hdeclared⟩ := emit_lines config hremap hs hw hself
  have hworded := declaration_worded config hremap hs hw hself
  have hscself := (declaration_spec config hremap hs hw hself).2.1
  generalize (declaration config o.remap s (.empty (o.remap.applyName n))).2 = sc at *
  obtain ⟨locals, hlocals, hperm⟩ := hworded.mentioned.sorted
  have hword : declaredIdentifier (o.remap.applyName n) ∈ typeWords ↔ n.name ∈ typeWords := by
    rw [declaredIdentifier_mem_typeWords, Remap.applyName_name]
  refine ⟨n, s, hn, rfl, hdeclared, hword, locals, fun t => ?_, ?_, fun e he => ?_⟩
  · rw [(hperm.map Prod.fst).mem_iff, hworded.mentioned.known, hscself, List.mem_map, and_comm]
  · rw [himports, hlocals, hscself, List.map_map]
    rfl
  · have hiff := hworded.words e (hperm.mem_iff.mp he)
    rw [hscself] at hiff
    exact hiff

/-- Types called `string`, and a record with fields of them and of the built-in type. -/
def stringUser : List Definition :=
  [⟨"a", "\x7b\"type\":\"fixed\",\"name\":\"a.string\",\"size\":4\x7d"⟩,
    ⟨"b", "\x7b\"type\":\"fixed\",\"name\":\"b.string\",\"size\":8\x7d"⟩,
    ⟨"user", "\x7b\"type\":\"record\",\"name\":\"a.User\",\"fields\":[" ++
      "\x7b\"name\":\"f\",\"type\":\"a.string\"\x7d," ++
      "\x7b\"name\":\"g\",\"type\":\"b.string\"\x7d," ++
      "\x7b\"name\":\"h\",\"type\":\"string\"\x7d]\x7d"⟩]

def plainRun : RunOptions := ⟨.empty, none⟩

/-- In the file of the record, `string` is the identifier of the type that is mentioned first. -/
theorem generate_typeWords_iff_user : ∃ r artifacts a, plainRun.resolve stringUser = .ok r ∧
    plainRun.generate .default r = .ok artifacts ∧ a ∈ artifacts ∧ a.path = "a/User.ts" ∧
    ∃ locals : List (FullName × String),
      (∀ t, t ∈ locals.map Prod.fst ↔ t ∈ [⟨some "a", "string"⟩, ⟨some "b", "string"⟩]) ∧
      ∀ e ∈ locals, e.2 ∈ typeWords ↔ e.1 = ⟨some "a", "string"⟩ := by
  have heval : (plainRun.run .default stringUser).toOption.map
      (fun p => (p.1.types.entries.map fun e => (e.1, e.2.fieldMentions), p.2.map Artifact.path)) =
      some ([(⟨some "a", "string"⟩, []), (⟨some "b", "string"⟩, []),
        (⟨some "a", "User"⟩, [⟨some "a", "string"⟩, ⟨some "b", "string"⟩])],
        ["a/string.ts", "b/string.ts", "a/User.ts"]) := by
    decide +kernel
  obtain ⟨⟨r, artifacts⟩, hrun, heval⟩ := Option.map_eq_some_iff.mp heval
  obtain ⟨hentries, hpaths⟩ := Prod.mk.inj heval
  simp only at hentries hpaths
  obtain ⟨hr, hg⟩ := run_ok (ok_of_toOption hrun)
  obtain ⟨a, ha, hpath⟩ : ∃ a ∈ artifacts, a.path = "a/User.ts" :=
    List.mem_map.mp (hpaths ▸ by decide)
  have hm : Remap.parse [] = .ok plainRun.remap := rfl
  obtain ⟨n, s, hn, rfl, -, -, locals, hmem, -, hwords⟩ := generate_typeWords_iff hm hr hg a ha
  have hs : (n, s.fieldMentions) ∈ r.types.entries.map fun e => (e.1, e.2.fieldMentions) :=
    List.mem_map.mpr ⟨_, hn, rfl⟩
  have hpath' : filePath (plainRun.remap.applyName n) = "a/User.ts" := hpath
  refine ⟨r, artifacts, _, hr, hg, ha, hpath, locals, ?_⟩
  rw [hentries] at hs
  simp only [List.mem_cons, List.not_mem_nil, or_false, Prod.mk.injEq] at hs
  rcases hs with ⟨rfl, -⟩ | ⟨rfl, -⟩ | ⟨rfl, hmentions⟩
  · exact absurd hpath' (by decide +kernel)
  · exact absurd hpath' (by decide +kernel)
  · rw [hmentions] at hmem hwords
    have hself : plainRun.remap.applyName ⟨some "a", "User"⟩ = ⟨some "a", "User"⟩ := by
      decide +kernel
    have hothers : [⟨some "a", "string"⟩, ⟨some "b", "string"⟩].map plainRun.remap.applyName =
        [⟨some "a", "string"⟩, ⟨some "b", "string"⟩] := by
      decide +kernel
    have hlocals : ∀ t, t ∈ locals.map Prod.fst ↔
        t ∈ [⟨some "a", "string"⟩, ⟨some "b", "string"⟩] := fun t => by
      rw [hmem, ← List.mem_map, hself, hothers]
      exact and_iff_right_of_imp fun ht he => absurd (he ▸ ht) (by decide)
    rw [List.map_cons, hself, hothers] at hwords
    refine ⟨hlocals, fun e he => (hwords e he).trans ?_⟩
    have hfirst : ∀ t ∈ [⟨some "a", "string"⟩, ⟨some "b", "string"⟩], t.name ∈ typeWords ∧
        IsFirst [⟨some "a", "User"⟩, ⟨some "a", "string"⟩, ⟨some "b", "string"⟩] t ↔
        t = ⟨some "a", "string"⟩ := by decide
    exact hfirst e.1 ((hlocals e.1).mp (List.mem_map_of_mem he))

/-- Types called `string` are declared under this name, and in the file of the record `string`
stands for one of them and for the built-in type. -/
theorem run_stringUser : "string" ∈ typeWords ∧
    (plainRun.run .default stringUser).toOption.map
      (fun p => (p.1.unresolved.length, p.2.map Artifact.contents)) =
    some (0, ["/** Fixed size: 4 bytes. */\nexport type string = Uint8Array;\n",
      "/** Fixed size: 8 bytes. */\nexport type string = Uint8Array;\n",
      "import type \x7b string as Bstring \x7d from \"../b/string\";\n" ++
        "import type \x7b string \x7d from \"./string\";\n\n" ++
        "export interface User \x7b\n  f: string;\n  g: Bstring;\n  h: string;\n\x7d\n"]) := by
  decide +kernel

end AvroLink.RunOptions
