import AvroLink.Proofs.WellFormed

/-!
# Inside a definition

A definition inside a well-formed schema is well-formed, and what it defines and refers to is
defined and referred to by the schema (`Within`).
-/

namespace AvroLink.Schema

/-- A well-formed definition whose own definitions and references are among `defs` and `refs`. -/
structure Within (defs : List Schema) (refs : List FullName) (d : Schema) : Prop where
  wellFormed : d.WellFormed
  definitions : ∀ e ∈ d.definitions, e ∈ defs
  refs : ∀ n ∈ d.refs, n ∈ refs

theorem Within.mono {defs defs' : List Schema} {refs refs' : List FullName} {d : Schema}
    (h : Within defs refs d) (hd : ∀ e ∈ defs, e ∈ defs') (hr : ∀ n ∈ refs, n ∈ refs') :
    Within defs' refs' d :=
  ⟨h.wellFormed, fun e he => hd e (h.definitions e he), fun n hn => hr n (h.refs n hn)⟩

theorem Within.self {s : Schema} (h : s.WellFormed) : Within s.definitions s.refs s :=
  ⟨h, fun _ he => he, fun _ hn => hn⟩

mutual

theorem within_of_mem : ∀ {s d : Schema}, s.WellFormed → d ∈ s.definitions →
    Within s.definitions s.refs d
  | .primitive _, _, _, hd => by simp [definitions] at hd
  | .logical _ base, d, hw, hd => by
    simp only [definitions, refs] at hd ⊢
    exact within_of_mem hw.2 hd
  | .array items, d, hw, hd => by
    simp only [definitions, refs] at hd ⊢
    exact within_of_mem hw hd
  | .map values, d, hw, hd => by
    simp only [definitions, refs] at hd ⊢
    exact within_of_mem hw hd
  | .union branches, d, hw, hd => by
    simp only [definitions, refs] at hd ⊢
    exact within_of_mem_branches hw.2.2 hd
  | .record h fields, d, hw, hd => by
    rcases List.mem_cons.mp (by simpa only [definitions] using hd) with rfl | hf
    · exact .self hw
    · simp only [definitions, refs]
      exact (within_of_mem_fields hw.2.2 hf).mono (fun e he => List.mem_cons_of_mem _ he)
        fun _ hn => hn
  | .enum e, d, hw, hd => by
    cases List.mem_singleton.mp (by simpa only [definitions] using hd)
    exact .self hw
  | .fixed f, d, hw, hd => by
    cases List.mem_singleton.mp (by simpa only [definitions] using hd)
    exact .self hw
  | .ref _, _, _, hd => by simp [definitions] at hd

theorem within_of_mem_branches : ∀ {ss : List Schema} {d : Schema}, BranchesWellFormed ss →
    d ∈ branchDefinitions ss → Within (branchDefinitions ss) (branchRefs ss) d
  | [], _, _, hd => by simp [branchDefinitions] at hd
  | s :: ss, d, hw, hd => by
    simp only [branchDefinitions, branchRefs, List.mem_append] at hd ⊢
    rcases hd with hd | hd
    · exact (within_of_mem hw.2.1 hd).mono (fun e he => List.mem_append_left _ he)
        fun n hn => List.mem_append_left _ hn
    · exact (within_of_mem_branches hw.2.2 hd).mono (fun e he => List.mem_append_right _ he)
        fun n hn => List.mem_append_right _ hn

theorem within_of_mem_fields : ∀ {fs : List (FieldOf Schema)} {d : Schema}, FieldsWellFormed fs →
    d ∈ fieldDefinitions fs → Within (fieldDefinitions fs) (fieldRefs fs) d
  | [], _, _, hd => by simp [fieldDefinitions] at hd
  | ⟨_, _, s, _⟩ :: fs, d, hw, hd => by
    simp only [fieldDefinitions, fieldRefs, List.mem_append] at hd ⊢
    rcases hd with hd | hd
    · exact (within_of_mem hw.2.1 hd).mono (fun e he => List.mem_append_left _ he)
        fun n hn => List.mem_append_left _ hn
    · exact (within_of_mem_fields hw.2.2 hd).mono (fun e he => List.mem_append_right _ he)
        fun n hn => List.mem_append_right _ hn

end

theorem WellFormed.valid_of_mem {s d : Schema} {n : FullName} (hw : s.WellFormed)
    (hd : d ∈ s.definitions) (hn : d.name? = some n) : n.Valid :=
  (within_of_mem hw hd).wellFormed.title (title?_of_name? hn)

end AvroLink.Schema
