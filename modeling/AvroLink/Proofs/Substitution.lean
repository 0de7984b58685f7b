import Mathlib.Data.List.Induction
import Mathlib.Data.List.Nodup
import AvroLink.Proofs.Renaming

/-!
# Renaming puts another front before a namespace

A namespace is a list of `segments`, and a source is a front of it when its segments are the first
ones of that list. A table that was read from entries replaces the longest source that is a front
(`Longest`) by its last target, and leaves a namespace without such a source as it is. So the order
of entries with different sources does not count.
-/

namespace AvroLink

namespace Text

variable {sep : Char}

theorem flatMap_eq_glue {ps : List (List Char)} (h : ps ≠ []) :
    ps.flatMap (sep :: ·) = sep :: glue sep ps := by
  induction ps with
  | nil => exact absurd rfl h
  | cons p ps ih =>
    cases ps with
    | nil => simp [glue]
    | cons q ps => rw [List.flatMap_cons, ih (by simp)]; rfl

theorem glue_append {ps qs : List (List Char)} (h : ps ≠ []) :
    glue sep (ps ++ qs) = glue sep ps ++ qs.flatMap (sep :: ·) := by
  induction ps with
  | nil => exact absurd rfl h
  | cons p ps ih =>
    cases ps with
    | nil =>
      cases qs with
      | nil => simp [glue]
      | cons q qs => rw [flatMap_eq_glue (by simp)]; rfl
    | cons p' ps =>
      have ih := ih (by simp)
      simp only [List.cons_append, glue] at ih ⊢
      rw [ih]
      simp

theorem pieces_append_flatMap (cs : List Char) {ps : List (List Char)} (h : ∀ p ∈ ps, sep ∉ p) :
    pieces sep (cs ++ ps.flatMap (sep :: ·)) = pieces sep cs ++ ps := by
  induction ps using List.reverseRecOn with
  | nil => simp
  | append_singleton ps p ih =>
    have hp : pieces sep p = [p] := pieces_of_not_mem (h p (by simp))
    rw [List.flatMap_append, List.flatMap_singleton, ← List.append_assoc, pieces_append,
      ih fun q hq => h q (List.mem_append_left _ hq), hp, List.append_assoc]

end Text

namespace Remap

variable {source target space : String} {rules rules' : List (String × String)} {r r' : Remap}

/-! ## Fronts -/

def segments (space : String) : List (List Char) := Text.pieces '.' space.toList

/-- The segments of a source are the first ones of a namespace. -/
def IsFront (source space : String) : Prop := segments source <+: segments space

instance (source space : String) : Decidable (IsFront source space) :=
  inferInstanceAs (Decidable (_ <+: _))

theorem segments_inj {a b : String} (h : segments a = segments b) : a = b := by
  have h := congrArg (Text.glue '.') h
  rw [segments, segments, Text.glue_pieces, Text.glue_pieces] at h
  exact String.toList_inj.mp h

theorem afterSegments_append {front rest : List Char} (h : rest = [] ∨ ∃ cs, rest = '.' :: cs) :
    afterSegments front (front ++ rest) = some rest := by
  induction front with
  | nil => rcases h with rfl | ⟨cs, rfl⟩ <;> simp [afterSegments]
  | cons f front ih => simpa [afterSegments] using ih

theorem afterSegments_eq_some_iff {rest : List Char} :
    afterSegments source.toList space.toList = some rest ↔
      ∃ more, segments space = segments source ++ more ∧ rest = more.flatMap ('.' :: ·) := by
  constructor
  · intro h
    obtain ⟨hspace, rfl | ⟨cs, rfl⟩⟩ := afterSegments_eq h
    · exact ⟨[], by simp [segments, hspace], rfl⟩
    · refine ⟨Text.pieces '.' cs, by rw [segments, hspace, Text.pieces_append]; rfl, ?_⟩
      rw [Text.flatMap_eq_glue (Text.pieces_ne_nil _ _), Text.glue_pieces]
  · rintro ⟨more, hmore, rfl⟩
    have hspace : space.toList = source.toList ++ more.flatMap ('.' :: ·) := by
      rw [← Text.glue_pieces '.' space.toList, ← segments, hmore, segments,
        Text.glue_append (Text.pieces_ne_nil _ _), Text.glue_pieces]
    rw [hspace]
    refine afterSegments_append ?_
    cases more with
    | nil => exact .inl rfl
    | cons p ps => exact .inr ⟨_, rfl⟩

theorem afterSegments_eq_none_iff :
    afterSegments source.toList space.toList = none ↔ ¬ IsFront source space := by
  rw [← Option.not_isSome_iff_eq_none, Option.isSome_iff_exists, not_iff_not]
  simp only [afterSegments_eq_some_iff]
  exact ⟨fun ⟨_, more, h, _⟩ => ⟨more, h.symm⟩, fun ⟨more, h⟩ => ⟨_, more, h.symm, rfl⟩⟩

/-- Of two fronts of a namespace, the one with less behind it has more segments. -/
theorem length_segments_le {source' : String} {rest rest' : List Char}
    (h : afterSegments source.toList space.toList = some rest)
    (h' : afterSegments source'.toList space.toList = some rest')
    (hle : rest.length ≤ rest'.length) :
    (segments source').length ≤ (segments source).length := by
  obtain ⟨more, hmore, rfl⟩ := afterSegments_eq_some_iff.mp h
  obtain ⟨more', hmore', rfl⟩ := afterSegments_eq_some_iff.mp h'
  by_contra hlt
  -- then what is behind the longer front is the shorter of the two
  obtain ⟨mid, hmid⟩ := List.prefix_of_prefix_length_le ⟨more, hmore.symm⟩ ⟨more', hmore'.symm⟩
    (Nat.le_of_not_le hlt)
  have hne : mid ≠ [] := by
    rintro rfl
    rw [List.append_nil] at hmid
    exact hlt (hmid ▸ Nat.le_refl _)
  have hsplit : more = mid ++ more' := by
    rw [hmore', ← hmid, List.append_assoc] at hmore
    exact (List.append_cancel_left hmore).symm
  rw [hsplit, List.flatMap_append, List.length_append, Text.flatMap_eq_glue hne,
    List.length_cons] at hle
  omega

/-! ## Tables -/

theorem mem_of_lookup (h : rules.lookup source = some target) : (source, target) ∈ rules := by
  obtain ⟨before, after, rfl, -⟩ := List.lookup_eq_some_iff.mp h
  simp

theorem exists_lookup {rule : String × String} (h : rule ∈ rules) :
    ∃ t, rules.lookup rule.1 = some t := by
  refine Option.ne_none_iff_exists'.mp fun hn => ?_
  simpa using List.lookup_eq_none_iff.mp hn rule h

theorem lookup_of_mem (hd : (rules.map Prod.fst).Nodup) (h : (source, target) ∈ rules) :
    rules.lookup source = some target := by
  obtain ⟨t, ht⟩ := exists_lookup h
  have hrule : (source, t) = (source, target) :=
    List.inj_on_of_nodup_map hd (mem_of_lookup ht) h rfl
  exact (Prod.mk.inj hrule).2 ▸ ht

theorem lookup_cons (s : String) (rule : String × String) (rules : List (String × String)) :
    (rule :: rules).lookup s = if s = rule.1 then some rule.2 else rules.lookup s := by
  rw [List.lookup_cons]
  by_cases h : s = rule.1
  · simp [h]
  · rw [beq_false_of_ne h, if_neg h]

theorem lookup_putRule (source target : String) (rules : List (String × String)) (s : String) :
    (putRule source target rules).lookup s =
      if s = source then some target else rules.lookup s := by
  induction rules with
  | nil => exact lookup_cons s (source, target) []
  | cons rule rules ih =>
    rw [putRule]
    split <;> simp only [lookup_cons, ih] <;> grind

theorem keys_putRule (source target : String) (rules : List (String × String)) :
    (putRule source target rules).map Prod.fst =
      if source ∈ rules.map Prod.fst then rules.map Prod.fst
      else rules.map Prod.fst ++ [source] := by
  induction rules with
  | nil => rfl
  | cons rule rules ih =>
    rw [putRule]
    split
    · next h => simp [h]
    · next h =>
      rw [List.map_cons, List.map_cons, ih]
      by_cases hm : source ∈ rules.map Prod.fst
      · rw [if_pos hm, if_pos (List.mem_cons_of_mem _ hm)]
      · rw [if_neg hm, if_neg (List.not_mem_cons_of_ne_of_not_mem (Ne.symm h) hm)]
        rfl

theorem nodup_putRule (h : (rules.map Prod.fst).Nodup) :
    ((putRule source target rules).map Prod.fst).Nodup := by
  rw [keys_putRule]
  split
  · exact h
  · next hm => simpa using h.concat hm

/-- The rules that entries spell, in the order of the entries. -/
def given (entries : List String) : List (String × String) :=
  entries.filterMap fun e => (sides e).toOption

theorem addEntries_isOk (r : Remap) (entries : List String) :
    (∃ r', addEntries r entries = .ok r') ↔ ∀ e ∈ entries, ∃ rule, sides e = .ok rule := by
  induction entries generalizing r with
  | nil => simp [addEntries]
  | cons e es ih =>
    rw [addEntries, List.forall_mem_cons]
    cases hs : sides e with
    | error x => simp [bind, Except.bind]
    | ok rule => simpa [bind, Except.bind] using ih _

/-- What a source is looked up as after entries were added: the target that was given for it last,
or else what it was looked up as before. -/
theorem addEntries_spec {entries : List String} (h : addEntries r entries = .ok r')
    (hd : (r.rules.map Prod.fst).Nodup) :
    (r'.rules.map Prod.fst).Nodup ∧
      ∀ s, r'.rules.lookup s = ((given entries).reverse.lookup s).or (r.rules.lookup s) := by
  induction entries generalizing r with
  | nil =>
    cases h
    exact ⟨hd, fun s => rfl⟩
  | cons e es ih =>
    rw [addEntries] at h
    cases hs : sides e with
    | error _ => rw [hs] at h; cases h
    | ok rule =>
      rw [hs] at h
      obtain ⟨hnodup, hlookup⟩ := ih h (nodup_putRule hd)
      refine ⟨hnodup, fun s => ?_⟩
      have hgiven : given (e :: es) = rule :: given es := by simp [given, hs, Except.toOption]
      rw [hlookup, hgiven, List.reverse_cons, List.lookup_append, Option.or_assoc, insert,
        lookup_putRule, lookup_cons]
      split <;> rfl

/-! ## The longest source -/

/-- Either no source matches, or the chosen rule leaves the least that any match leaves. -/
theorem best_least (space : List Char) (rules : List (String × String)) :
    (best space rules = none ∧ ∀ rule ∈ rules, afterSegments rule.1.toList space = none) ∨
    ∃ s t rest, best space rules = some (s, t, rest) ∧
      ∀ rule ∈ rules, ∀ rest' ∈ afterSegments rule.1.toList space, rest.length ≤ rest'.length := by
  induction rules with
  | nil => exact .inl ⟨rfl, by simp⟩
  | cons rule rules ih =>
    obtain ⟨s₀, t₀⟩ := rule
    simp only [List.forall_mem_cons]
    cases hfirst : afterSegments s₀.toList space with
    | none =>
      rcases ih with ⟨hlater, hrules⟩ | ⟨s, t, rest, hlater, hrules⟩
      · exact .inl ⟨by simp [best, hfirst, hlater], rfl, hrules⟩
      · exact .inr ⟨s, t, rest, by simp [best, hfirst, hlater], by simp, hrules⟩
    | some rest₀ =>
      rcases ih with ⟨hlater, hrules⟩ | ⟨s, t, rest, hlater, hrules⟩
      · refine .inr ⟨s₀, t₀, rest₀, by simp [best, hfirst, hlater], by simp, fun rule hm => ?_⟩
        simp [hrules rule hm]
      · by_cases hlt : rest₀.length < rest.length
        · refine .inr ⟨s₀, t₀, rest₀, by simp [best, hfirst, hlater, hlt], by simp, ?_⟩
          exact fun rule hm rest' h => Nat.le_trans (Nat.le_of_lt hlt) (hrules rule hm rest' h)
        · exact .inr ⟨s, t, rest, by simp [best, hfirst, hlater, hlt], by simpa using hlt, hrules⟩

/-- The rule for a namespace: its source is the longest front of it among the sources of `rules`,
and its target the last one that is given for this source. -/
structure Longest (rules : List (String × String)) (space source target : String) : Prop where
  last : rules.reverse.lookup source = some target
  front : IsFront source space
  longest : ∀ rule ∈ rules, IsFront rule.1 space →
    (segments rule.1).length ≤ (segments source).length

theorem Longest.mem (h : Longest rules space source target) : (source, target) ∈ rules :=
  List.mem_reverse.mp (mem_of_lookup h.last)

theorem exists_mem_of_last (hlast : ∀ s, rules.reverse.lookup s = rules'.reverse.lookup s)
    {rule : String × String} (h : rule ∈ rules) : ∃ t, (rule.1, t) ∈ rules' := by
  obtain ⟨t, ht⟩ := exists_lookup (List.mem_reverse.mpr h)
  exact ⟨t, List.mem_reverse.mp (mem_of_lookup (hlast rule.1 ▸ ht))⟩

/-- Only one source is the longest, and only one target is the last. -/
theorem Longest.unique {source' target' : String} (h : Longest rules space source target)
    (h' : Longest rules' space source' target')
    (hlast : ∀ s, rules.reverse.lookup s = rules'.reverse.lookup s) :
    source = source' ∧ target = target' := by
  obtain ⟨t, hmem⟩ := exists_mem_of_last hlast h.mem
  obtain ⟨t', hmem'⟩ := exists_mem_of_last (fun s => (hlast s).symm) h'.mem
  have hlength : (segments source).length = (segments source').length :=
    Nat.le_antisymm (h'.longest _ hmem h.front) (h.longest _ hmem' h'.front)
  have hsource : source = source' := segments_inj <|
    (List.prefix_of_prefix_length_le h.front h'.front (Nat.le_of_eq hlength)).eq_of_length hlength
  subst hsource
  exact ⟨rfl, Option.some.inj (h.last.symm.trans ((hlast source).trans h'.last))⟩

/-- A namespace without a source in front stays, and in another one the longest source is replaced.
-/
theorem parse_apply {entries : List String} (h : parse entries = .ok r) (space : String) :
    ((∀ rule ∈ given entries, ¬ IsFront rule.1 space) ∧ r.apply space = space) ∨
    ∃ source target, Longest (given entries) space source target ∧
      segments (r.apply space) =
        segments target ++ (segments space).drop (segments source).length := by
  obtain ⟨hnodup, hlookup⟩ := addEntries_spec h List.nodup_nil
  have hlookup : ∀ s, r.rules.lookup s = (given entries).reverse.lookup s := fun s => by
    rw [hlookup]
    exact Option.or_none
  -- the table has the sources of the entries
  have hkeys : ∀ rule ∈ given entries, ∃ t, (rule.1, t) ∈ r.rules := fun rule hrule => by
    obtain ⟨t, ht⟩ := exists_lookup (List.mem_reverse.mpr hrule)
    exact ⟨t, mem_of_lookup ((hlookup rule.1).trans ht)⟩
  unfold apply
  rcases best_least space.toList r.rules with ⟨hbest, hrules⟩ | ⟨s, t, rest, hbest, hrules⟩ <;>
    rw [hbest]
  · refine .inl ⟨fun rule hrule => ?_, rfl⟩
    obtain ⟨t, hmem⟩ := hkeys rule hrule
    exact afterSegments_eq_none_iff.mp (hrules (rule.1, t) hmem)
  · obtain ⟨hmem, hafter⟩ := best_mem hbest
    obtain ⟨more, hmore, hrest⟩ := afterSegments_eq_some_iff.mp hafter
    refine .inr ⟨s, t, ⟨?_, ⟨more, hmore.symm⟩, fun rule hrule hfront => ?_⟩, ?_⟩
    · rw [← hlookup, lookup_of_mem hnodup hmem]
    · obtain ⟨t', hmem'⟩ := hkeys rule hrule
      obtain ⟨rest', hafter'⟩ := Option.ne_none_iff_exists'.mp
        (mt afterSegments_eq_none_iff.mp (not_not.mpr hfront))
      exact length_segments_le hafter hafter' (hrules _ hmem' rest' hafter')
    · have hdots : ∀ p ∈ more, '.' ∉ p := fun p hp =>
        Text.not_mem_of_mem_pieces (hmore ▸ List.mem_append_right _ hp : p ∈ segments space)
      rw [hmore, List.drop_left, hrest, segments, String.toList_append, String.toList_ofList,
        Text.pieces_append_flatMap _ hdots]
      rfl

/-- What a table does depends on the target that was given last for each source. -/
theorem parse_apply_congr {entries entries' : List String} (h : parse entries = .ok r)
    (h' : parse entries' = .ok r')
    (hlast : ∀ s, (given entries).reverse.lookup s = (given entries').reverse.lookup s)
    (space : String) : r.apply space = r'.apply space := by
  rcases parse_apply h space with ⟨hnone, hstays⟩ | ⟨s, t, hlong, hsegments⟩ <;>
    rcases parse_apply h' space with ⟨hnone', hstays'⟩ | ⟨s', t', hlong', hsegments'⟩
  · rw [hstays, hstays']
  · obtain ⟨u, hmem⟩ := exists_mem_of_last (fun s => (hlast s).symm) hlong'.mem
    exact absurd hlong'.front (hnone _ hmem)
  · obtain ⟨u, hmem⟩ := exists_mem_of_last hlast hlong.mem
    exact absurd hlong.front (hnone' _ hmem)
  · obtain ⟨rfl, rfl⟩ := hlong.unique hlong' hlast
    exact segments_inj (hsegments.trans hsegments'.symm)

/-! ## The order of entries -/

theorem lookup_filter (rules : List (String × String)) (s : String) :
    (rules.filter (·.1 = s)).lookup s = rules.lookup s := by
  induction rules with
  | nil => rfl
  | cons rule rules ih =>
    rw [List.filter_cons]
    split
    · next h => simp only [lookup_cons, ih]
    · next h => rw [ih, lookup_cons, if_neg (by simpa [eq_comm] using h)]

/-- What a source was given last depends on the entries with this source only. -/
theorem lookup_reverse_congr {s : String}
    (h : rules.filter (·.1 = s) = rules'.filter (·.1 = s)) :
    rules.reverse.lookup s = rules'.reverse.lookup s := by
  rw [← lookup_filter, List.filter_reverse, h, ← List.filter_reverse, lookup_filter]

/-- Renaming is the substitution of the longest front. A namespace stays when no source is a front
of it; otherwise the longest source is replaced by the target that was given for it last, and the
other segments follow. The result is a namespace. Entries in another order have the same effect when
those with the same source keep their order. -/
theorem apply_substitutes {entries : List String} (h : parse entries = .ok r)
    (hspace : isValidNamespace space = true) :
    (((∀ rule ∈ given entries, ¬ IsFront rule.1 space) ∧ r.apply space = space) ∨
      ∃ source target, Longest (given entries) space source target ∧
        segments (r.apply space) =
          segments target ++ (segments space).drop (segments source).length) ∧
    isValidNamespace (r.apply space) = true ∧
    ∀ entries' : List String, entries'.Perm entries →
      (∀ s, (given entries').filter (·.1 = s) = (given entries).filter (·.1 = s)) →
      ∃ r', parse entries' = .ok r' ∧ r'.apply space = r.apply space := by
  refine ⟨parse_apply h space, apply_valid (parse_valid h) hspace, fun entries' hperm hsame => ?_⟩
  obtain ⟨r', h'⟩ := (addEntries_isOk empty entries').mpr fun e he =>
    (addEntries_isOk empty entries).mp ⟨r, h⟩ e (hperm.mem_iff.mp he)
  exact ⟨r', h', parse_apply_congr h' h (fun s => lookup_reverse_congr (hsame s)) space⟩

/-- The source `com.acme` is longer than `com`, and of its two targets the second counts, wherever
the entry for `com` stands. -/
theorem apply_substitutes_acme :
    parse ["com.acme:first", "com:root", "com.acme:app.models"] =
      .ok ⟨[("com.acme", "app.models"), ("com", "root")]⟩ ∧
    (∃ source target,
      Longest [("com.acme", "first"), ("com", "root"), ("com.acme", "app.models")]
        "com.acme.billing" source target ∧
      segments "app.models.billing" =
        segments target ++ (segments "com.acme.billing").drop (segments source).length) ∧
    ∃ r', parse ["com:root", "com.acme:first", "com.acme:app.models"] = .ok r' ∧
      r'.apply "com.acme.billing" = "app.models.billing" := by
  have hparse : parse ["com.acme:first", "com:root", "com.acme:app.models"] =
      .ok ⟨[("com.acme", "app.models"), ("com", "root")]⟩ := by decide +kernel
  have hgiven : given ["com.acme:first", "com:root", "com.acme:app.models"] =
      [("com.acme", "first"), ("com", "root"), ("com.acme", "app.models")] := by decide +kernel
  have hgiven' : given ["com:root", "com.acme:first", "com.acme:app.models"] =
      [("com", "root"), ("com.acme", "first"), ("com.acme", "app.models")] := by decide +kernel
  have happly : apply ⟨[("com.acme", "app.models"), ("com", "root")]⟩ "com.acme.billing" =
      "app.models.billing" := by decide +kernel
  have hspace : isValidNamespace "com.acme.billing" = true := by decide
  obtain ⟨hcases, -, horder⟩ := apply_substitutes hparse hspace
  rw [hgiven, happly] at hcases
  rw [hgiven, happly] at horder
  refine ⟨hparse, hcases.resolve_left fun hnone => ?_, ?_⟩
  · exact absurd hnone.2 (by decide)
  · refine horder _ (.swap _ _ _) fun s => ?_
    rw [hgiven']
    by_cases hs : "com" = s
    · subst hs
      decide
    · simp [List.filter_cons, hs]

end Remap

end AvroLink
