import AvroLink.Proofs.Document

/-!
# What a parse depends on

A parse looks at its text only to place an error, and at the namespace only to see which names are
in it. `parse_congr` compares the parses of two texts that spell one JSON value, on top of two
namespaces with the same names: both succeed with the same schema or both fail for the same cause
(`SameButSpan`), and both add the same entries in the same order. Values are the same when they are
equal, so `0.0` and `-0.0` are two of them.
-/

namespace AvroLink

/-- Outcomes that are the same but for the place of the error. -/
def SameButSpan {α : Type} : Except ParseError α → Except ParseError α → Prop
  | .ok a, .ok b => a = b
  | .error e, .error e' => e.cause = e'.cause
  | _, _ => False

namespace Schema

variable {N N' : Namespace} {space : Option String} {sc sc' : Scope}

/-! ## On top of the same names -/

theorem Alike.eq_of_names {s t : Schema} (h : Alike (Bound N N') space s t) (hs : N ⊆ N')
    (hs' : N' ⊆ N) : s = t :=
  (h.mono fun _ _ _ _ _ hb => hb.eq hs hs').eq

theorem EntryAlike.eq {e e' : Entry} (h : EntryAlike N N' e e') (hs : N ⊆ N') (hs' : N' ⊆ N) :
    e = e' :=
  Prod.ext h.1 (h.2.eq_of_names hs hs')

theorem Linked.same_entries (h : Linked N N' sc sc') (hs : N ⊆ N') (hs' : N' ⊆ N) :
    ∃ new, sc.types.entries = N.entries ++ new ∧ sc'.types.entries = N'.entries ++ new := by
  obtain ⟨new, new', he, he', hnew⟩ := h.added
  have hsame : new = new' := by
    rw [← List.forall₂_eq_eq_eq]
    exact hnew.imp fun _ _ hee => hee.eq hs hs'
  exact ⟨new, he, hsame ▸ he'⟩

theorem Agree.same {m m' : Walk Schema} (h : Agree N N' (Alike (Bound N N') space) m m' sc sc')
    (hs : N ⊆ N') (hs' : N' ⊆ N) :
    SameButSpan (m sc).1 (m' sc').1 ∧ Linked N N' (m sc).2 (m' sc').2 := by
  unfold Agree at h
  rcases hm : m sc with ⟨e | s, _⟩ <;> rcases hm' : m' sc' with ⟨e' | t, _⟩ <;> rw [hm, hm'] at h
  · exact h hs hs'
  · exact absurd hs' (h hs).1
  · obtain ⟨n, -, -, hN', hN⟩ := h hs
    exact absurd (hs' n hN') hN
  · exact ⟨h.1.eq_of_names hs hs', h.2⟩

/-! ## Documents -/

/-- The walk over a value does not depend on where names are found in the text, nor on what the
known names stand for. -/
theorem ofJson_congr {locate locate' : Locate} (v : Json.Value) (hs : N ⊆ N') (hs' : N' ⊆ N) :
    SameButSpan (ofJson locate v N).1 (ofJson locate' v N').1 ∧
      ∃ new, (ofJson locate v N).2.entries = N.entries ++ new ∧
        (ofJson locate' v N').2.entries = N'.entries ++ new := by
  have hwalk : Agree N N' (Alike (Bound N N') none) (walk locate v none) (walk locate' v none)
      ⟨N, []⟩ ⟨N', []⟩ := walk_agree v none (.refl N N')
  obtain ⟨hsame, hlinked⟩ := hwalk.same hs hs'
  exact ⟨hsame, hlinked.same_entries hs hs'⟩

theorem parse_of_read {text : String} {v : Json.Value} (h : Json.read text.toList = .ok v) :
    parse text N = ofJson (Text.findQuoted text.toList) v N := by
  simp only [parse, h]

/-- A parse depends only on the JSON value of its text and on the names in its namespace. -/
theorem parse_congr (text text' : String) (v : Json.Value) (N N' : Namespace)
    (h : Json.read text.toList = .ok v) (h' : Json.read text'.toList = .ok v)
    (hnames : ∀ n, n ∈ N ↔ n ∈ N') :
    SameButSpan (parse text N).1 (parse text' N').1 ∧
      ∃ new, (parse text N).2.entries = N.entries ++ new ∧
        (parse text' N').2.entries = N'.entries ++ new := by
  rw [parse_of_read h, parse_of_read h']
  exact ofJson_congr v (fun n => (hnames n).mp) fun n => (hnames n).mpr

/-! ## One value in two layouts -/

/-- A union of a fixed type and an unknown one. -/
def compact : String := "[\x7b\"type\":\"fixed\",\"name\":\"F\",\"size\":2\x7d,\"Gone\"]"

/-- The same with other layout, members in another order and an escape. -/
def relaid : String :=
  "[\n  \x7b \"size\": 2, \"name\": \"\\u0046\", \"type\": \"fixed\" \x7d,\n  \"Gone\"\n]\n"

def spelled : Json.Value := .array [
  .object [("name", .string "F"), ("size", .number (.int 2)), ("type", .string "fixed")],
  .string "Gone"]

theorem read_compact : Json.read compact.toList = .ok spelled := by
  with_unfolding_all rfl

theorem read_relaid : Json.read relaid.toList = .ok spelled := by
  with_unfolding_all rfl

def known : Namespace :=
  (Namespace.empty.insert ⟨none, "A"⟩ (.fixed ⟨⟨none, "A"⟩, [], 1⟩) (by decide) rfl).insert
    ⟨none, "B"⟩ (.enum ⟨⟨none, "B"⟩, none, [], ["X"], none⟩) (by decide) rfl

/-- The names of `known` in another order and with other types. -/
def knownOtherwise : Namespace :=
  (Namespace.empty.insert ⟨none, "B"⟩ (.fixed ⟨⟨none, "B"⟩, [], 2⟩) (by decide) rfl).insert
    ⟨none, "A"⟩ (.fixed ⟨⟨none, "A"⟩, [], 4⟩) (by decide) rfl

/-- Both parses leave the fixed type behind and fail on the name that is unknown. -/
theorem parse_congr_relaid :
    SameButSpan (parse compact known).1 (parse relaid knownOtherwise).1 ∧
      (∃ new, (parse compact known).2.entries = known.entries ++ new ∧
        (parse relaid knownOtherwise).2.entries = knownOtherwise.entries ++ new) ∧
      (parse compact known).1.isOk = false ∧
      (parse compact known).2.names = [⟨none, "A"⟩, ⟨none, "B"⟩, ⟨none, "F"⟩] ∧
      (parse relaid knownOtherwise).2.names = [⟨none, "B"⟩, ⟨none, "A"⟩, ⟨none, "F"⟩] := by
  have hnames : ∀ n, n ∈ known ↔ n ∈ knownOtherwise := by
    intro n
    change n ∈ [⟨none, "A"⟩, ⟨none, "B"⟩] ↔ n ∈ [⟨none, "B"⟩, ⟨none, "A"⟩]
    rw [List.mem_pair, List.mem_pair, or_comm]
  obtain ⟨hsame, hnew⟩ := parse_congr compact relaid spelled known knownOtherwise read_compact
    read_relaid hnames
  refine ⟨hsame, hnew, ?_, ?_, ?_⟩
  · rw [parse_of_read read_compact]
    decide +kernel
  · rw [parse_of_read read_compact]
    decide +kernel
  · rw [parse_of_read read_relaid]
    decide +kernel

end Schema

end AvroLink
