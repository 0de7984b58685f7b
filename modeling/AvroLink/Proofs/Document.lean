import AvroLink.Proofs.Compare

/-!
# Parsing a document

`reading` is the walk behind `parse`. `parse_names` compares two successful parses of one document:
they register the same names, and their schemas are alike. `parse_clash` says that more names known
beforehand can only make a document fail on a name that it defines itself.
-/

namespace AvroLink.Schema

variable {text : String} {N N' M M' : Namespace} {s s' : Schema}

def reading (text : String) : Walk Schema :=
  match Json.read text.toList with
  | .error f => throw (.ofFault text.toList f)
  | .ok v => walk (Text.findQuoted text.toList) v none

theorem parse_eq (text : String) (ns : Namespace) :
    parse text ns = ((reading text ⟨ns, []⟩).1, (reading text ⟨ns, []⟩).2.types) := by
  simp only [parse, reading]
  cases Json.read text.toList <;> rfl

theorem reading_sound (text : String) : Sound definitions refs WellFormed (reading text) := by
  unfold reading
  split
  · exact fun sc => .fail (.refl sc)
  · exact walk_sound _ none

theorem reading_agree {sc sc' : Scope} (hl : Linked N N' sc sc') :
    Agree N N' (Alike (Bound N N') none) (reading text) (reading text) sc sc' := by
  unfold reading
  split
  · exact .fail hl
  · exact walk_agree _ none hl

theorem parse_reads (h : parse text N = (.ok s, M)) :
    Reads ⟨N, []⟩ ⟨M, []⟩ s.definitions s.refs ∧ s.WellFormed := by
  rw [parse_eq] at h
  have hs := reading_sound text ⟨N, []⟩
  rcases hr : reading text ⟨N, []⟩ with ⟨_ | t, types, opened⟩ <;> rw [hr] at h <;> cases h
  obtain ⟨⟨new, hg, hrest⟩, hw⟩ := hs.ok hr
  cases hg.opened
  exact ⟨⟨new, hg, hrest⟩, hw⟩

theorem parse_agree (text : String) (N N' : Namespace) :
    Agree N N' (Alike (Bound N N') none) (reading text) (reading text) ⟨N, []⟩ ⟨N', []⟩ :=
  reading_agree (.refl N N')

theorem parse_names (h : parse text N = (.ok s, M)) (h' : parse text N' = (.ok s', M')) :
    (∃ added, M.names = N.names ++ added ∧ M'.names = N'.names ++ added) ∧
      Alike (Bound N N') none s s' := by
  have ha := parse_agree text N N'
  rw [parse_eq] at h h'
  unfold Agree at ha
  rcases hr : reading text ⟨N, []⟩ with ⟨_ | t, sc⟩ <;> rw [hr] at h <;> cases h
  rcases hr' : reading text ⟨N', []⟩ with ⟨_ | t', sc'⟩ <;> rw [hr'] at h' <;> cases h'
  rw [hr, hr'] at ha
  exact ⟨ha.2.names, ha.1⟩

/-- A document that fails on top of more names defines one of them. -/
theorem parse_clash (hsub : N ⊆ N') (h : parse text N = (.ok s, M)) {e : ParseError}
    (h' : parse text N' = (.error e, M')) :
    ∃ n, e.cause = .duplicateName n ∧ n ∈ M ∧ n ∈ N' ∧ n ∉ N := by
  have ha := parse_agree text N N'
  rw [parse_eq] at h h'
  unfold Agree at ha
  rcases hr : reading text ⟨N, []⟩ with ⟨_ | t, sc⟩ <;> rw [hr] at h <;> cases h
  rcases hr' : reading text ⟨N', []⟩ with ⟨e' | t', sc'⟩ <;> rw [hr'] at h' <;> cases h'
  rw [hr, hr'] at ha
  exact ha hsub

theorem parse_added (h : parse text N = (.ok s, M)) :
    ∃ added, M.names = N.names ++ added ∧ ∀ n ∈ added, n ∉ N := by
  obtain ⟨⟨new, hg, -⟩, -⟩ := parse_reads h
  exact ⟨new.map Prod.fst, names_eq_of_entries hg.entries, fun n hn hN => hg.not_mem_new hN hn⟩

end AvroLink.Schema
