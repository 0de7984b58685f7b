import AvroLink.Proofs.Below

/-!
# The components of a path, step by step

A step behind a path adds the component of its own (`components_join`), an empty one and `.` add
none. A path is `Plain` when it goes down by names only. Two spellings of a plain path have
components of their own: a slash at the end adds none, `./` in front adds one.
-/

namespace AvroLink

namespace Path

variable {path piece : String} {ps qs : List String} {cs rest : List Component}

/-! ## Components of pieces -/

/-- The components of the pieces of a directory, where only the first one may be empty. -/
def ofPieces : List String → List Component
  | [] => []
  | first :: rest =>
    (if first = "" then [.root] else if first = "." then [.here]
      else (innerComponent? first).toList) ++ rest.filterMap innerComponent?

theorem ofPieces_append (h : ps ≠ []) :
    ofPieces (ps ++ qs) = ofPieces ps ++ qs.filterMap innerComponent? := by
  cases ps with
  | nil => exact absurd rfl h
  | cons p ps => simp [ofPieces]

theorem innerComponent?_empty : innerComponent? "" = none := rfl

theorem base_ne_nil (h : path ≠ "") : base path ≠ [] := by
  intro hb
  rcases pieces_eq_base path with ⟨hp, -⟩ | hp
  · exact pieces_ne_nil path (hp.trans hb)
  · rw [hb, List.nil_append] at hp
    have hjoin := joinWith_pieces path
    rw [hp] at hjoin
    exact h hjoin.symm

theorem components_eq_ofPieces (h : path ≠ "") : components path = ofPieces (base path) := by
  obtain ⟨first, rest, hb⟩ := List.exists_cons_of_ne_nil (base_ne_nil h)
  have habs : isAbsolute path = true ↔ first = "" := by rw [isAbsolute_base, hb]; simp
  have hp : ∃ blank, pieces path = first :: (rest ++ blank) ∧
      blank.filterMap innerComponent? = [] := by
    rcases pieces_eq_base path with ⟨hp, -⟩ | hp
    · exact ⟨[], by rw [hp, hb, List.append_nil], rfl⟩
    · exact ⟨[""], by rw [hp, hb, List.cons_append], rfl⟩
  obtain ⟨blank, hp, hblank⟩ := hp
  rw [components, hp, hb, ofPieces]
  simp only [habs, List.filterMap_append, hblank, List.append_nil]

theorem innerComponent?_down {piece : String} (h : piece ≠ "..") :
    ∀ c ∈ (innerComponent? piece).toList, c.name?.isSome = true := by
  rw [innerComponent?, if_neg h]
  split <;> simp [Component.name?]

theorem slash_mem_join (h : path ≠ "") (piece : String) : '/' ∈ (join path piece).toList := by
  unfold join
  split
  · rename_i habs
    exact List.mem_of_head? (by simpa [isAbsolute] using habs)
  · split
    · rename_i hend
      rw [String.toList_append]
      exact List.mem_append_left _ (List.mem_of_getLast? (hend.resolve_left h))
    · simp

theorem join_ne_empty_of_ne (h : path ≠ "") : join path piece ≠ "" := fun he => by
  simpa [he] using slash_mem_join h piece

theorem join_ne_here (h : path ≠ "") : join path piece ≠ "." := fun he => by
  have := slash_mem_join h piece
  rw [he] at this
  exact absurd this (by decide)

/-- One step further on a path. -/
theorem components_join (h : path ≠ "") (hp : '/' ∉ piece.toList) :
    components (join path piece) = components path ++ (innerComponent? piece).toList := by
  have hpiece : pieces piece = [piece] := by simp [pieces, Text.pieces_of_not_mem hp]
  have habs : isAbsolute piece = false := by
    rw [← Bool.not_eq_true, isAbsolute_iff, hpiece]
    simp
  have hjoin : pieces (join path piece) = base path ++ [piece] := by
    rw [join_eq habs, hpiece, pieces_joinWith (by simp)]
    intro s hs
    rcases List.mem_append.mp hs with hs | hs
    · exact not_mem_of_mem_pieces (mem_base hs)
    · exact List.mem_singleton.mp hs ▸ hp
  rw [components_eq_ofPieces (join_ne_empty_of_ne h), components_eq_ofPieces h]
  rcases pieces_eq_base (join path piece) with ⟨hb, -⟩ | hb
  · rw [← hb, hjoin, ofPieces_append (base_ne_nil h)]
    cases hi : innerComponent? piece <;> simp [hi]
  · rw [hjoin] at hb
    obtain ⟨hb, hlast⟩ := List.append_inj' hb rfl
    cases List.cons.inj hlast |>.1
    rw [← hb, innerComponent?_empty, Option.toList_none, List.append_nil]

theorem components_piece (hp : '/' ∉ piece.toList) (hne : piece ≠ "") (hhere : piece ≠ ".") :
    components piece = (innerComponent? piece).toList := by
  have hpiece : pieces piece = [piece] := by simp [pieces, Text.pieces_of_not_mem hp]
  have hbase : base piece = [piece] := by
    rw [base_self hne fun h => hp (List.mem_of_getLast? h), hpiece]
  rw [components_eq_ofPieces hne, hbase, ofPieces, if_neg hne, if_neg hhere]
  simp

/-! ## Spellings of a directory -/

theorem isAbsolute_slash (h : path ≠ "") : isAbsolute (path ++ "/") = isAbsolute path := by
  obtain ⟨c, cs, hc⟩ := List.exists_cons_of_ne_nil (mt String.toList_eq_nil_iff.mp h)
  rw [isAbsolute, isAbsolute, String.toList_append, hc]
  rfl

theorem components_slash (h : path ≠ "") : components (path ++ "/") = components path := by
  have hne : path ++ "/" ≠ "" := by simp
  rw [components_eq_ofPieces hne, components_eq_ofPieces h, base_slash]
  rcases pieces_eq_base path with ⟨hb, -⟩ | hb
  · rw [hb]
  · rw [hb, ofPieces_append (base_ne_nil h)]
    simp [innerComponent?_empty]

/-- A relative path that goes down by names only. -/
def Plain (path : String) : Prop := ∀ c ∈ components path, c.name?.isSome = true

instance (path : String) : Decidable (Plain path) :=
  inferInstanceAs (Decidable (∀ c ∈ components path, c.name?.isSome = true))

def names (path : String) : List String := (components path).filterMap Component.name?

theorem eq_map_name (h : ∀ c ∈ cs, c.name?.isSome = true) :
    cs = (cs.filterMap Component.name?).map .name := by
  induction cs with
  | nil => rfl
  | cons c cs ih =>
    obtain ⟨hc, hcs⟩ := List.forall_mem_cons.mp h
    cases c with
    | name n => simpa [Component.name?] using ih hcs
    | _ => cases hc

theorem Plain.components_eq (h : Plain path) : components path = (names path).map .name :=
  eq_map_name h

theorem Plain.base_eq (h : Plain path) (hne : path ≠ "") :
    ∃ first rest, base path = first :: rest ∧ first ≠ "" ∧ first ≠ "." := by
  obtain ⟨first, rest, hb⟩ := List.exists_cons_of_ne_nil (base_ne_nil hne)
  have hc : components path = ofPieces (first :: rest) := hb ▸ components_eq_ofPieces hne
  have hroot : first ≠ "" := by
    intro he
    have := h .root (by rw [hc, ofPieces, if_pos he]; simp)
    cases this
  have hhere : first ≠ "." := by
    intro he
    have := h .here (by rw [hc, ofPieces, if_neg hroot, if_pos he]; simp)
    cases this
  exact ⟨first, rest, hb, hroot, hhere⟩

theorem Plain.names_ne_nil (h : Plain path) (hne : path ≠ "") : names path ≠ [] := by
  obtain ⟨first, rest, hb, hroot, hhere⟩ := h.base_eq hne
  intro hnil
  have hempty := h.components_eq
  rw [hnil, components_eq_ofPieces hne, hb, ofPieces, if_neg hroot, if_neg hhere, innerComponent?,
    if_neg (by simp [hroot, hhere])] at hempty
  split at hempty <;> cases hempty

theorem Plain.pieces_eq (h : Plain path) :
    isAbsolute path = false ∧ (pieces path).filterMap innerComponent? = components path := by
  by_cases hne : path = ""
  · subst hne
    decide
  obtain ⟨first, rest, hb, hroot, hhere⟩ := h.base_eq hne
  have hpieces : (pieces path).filterMap innerComponent? =
      (base path).filterMap innerComponent? := by
    rcases pieces_eq_base path with ⟨hp, -⟩ | hp
    · rw [hp]
    · rw [hp, List.filterMap_append]
      exact List.append_nil _
  constructor
  · rw [← Bool.not_eq_true, isAbsolute_base, hb]
    simpa using hroot
  · rw [hpieces, components_eq_ofPieces hne, hb, ofPieces, if_neg hroot, if_neg hhere]
    cases hi : innerComponent? first <;> simp [hi]

theorem pieces_here (path : String) : pieces ("./" ++ path) = "." :: pieces path :=
  pieces_slash "." path

theorem isAbsolute_here (path : String) : isAbsolute ("./" ++ path) = false := by
  simp [isAbsolute]

theorem components_here (h : Plain path) :
    components ("./" ++ path) = .here :: components path := by
  rw [components, pieces_here]
  simp only [isAbsolute_here, h.pieces_eq.2]
  rfl

/-! ## Identifiers -/

theorem after?_append (cs rest : List Component) : after? cs (cs ++ rest) = some rest := by
  induction cs with
  | nil => rfl
  | cons c cs ih => simpa [after?] using ih

/-- A path below the directory is called by what follows it. -/
theorem identifier_below {root : String} (h : components path = components root ++ rest) :
    identifier root path = Text.joinWith "/" (rest.filterMap Component.name?) := by
  simp only [identifier, h, after?_append, Option.getD_some]

/-- With `./` in front, a plain directory is not at the front of any path of names; its own names
stay. -/
theorem identifier_here {root : String} (h : Plain root) (hne : names root ≠ [])
    (hp : components path = components root ++ rest) :
    identifier ("./" ++ root) path =
      Text.joinWith "/" (names root ++ rest.filterMap Component.name?) := by
  have hafter : after? (Component.here :: components root) (components path) = none := by
    rw [hp, h.components_eq]
    cases hn : names root with
    | nil => exact absurd hn hne
    | cons n ns => rfl
  rw [identifier, components_here h]
  simp only [hafter, Option.getD_none]
  rw [hp, List.filterMap_append]
  rfl

theorem identifier_slash {root : String} (h : root ≠ "") (path : String) :
    identifier (root ++ "/") path = identifier root path := by
  simp only [identifier, components_slash h]

end Path

end AvroLink
