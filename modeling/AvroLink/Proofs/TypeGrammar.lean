import AvroLink.Proofs.Identifiers

/-!
# How a type expression is read

`tokens` cuts a text into words and marks. `Derives` is the grammar of types: brackets bind tighter
than a bar, parentheses group, and `Record` takes its arguments between angle brackets. A text has
at most one tree in it (`ReadsAs.unique`), and a printed type expression has the tree that it stands
for (`readsAs_text`).
-/

namespace AvroLink.TypeScript

/-! ## Tokens -/

inductive Token where
  | word (cs : List Char)
  | mark (c : Char)
  deriving DecidableEq, Repr

/-- Whether a text starts with a letter, a digit or an underscore. -/
def startsWord (cs : List Char) : Bool := cs.head?.any isNameRest

/-- Put a character in front of the word that starts a list of tokens. -/
def extendWord (c : Char) : List Token → List Token
  | .word w :: ts => .word (c :: w) :: ts
  | ts => .word [c] :: ts

/-- The words and marks of a text; blanks stand between them. -/
def tokens : List Char → List Token
  | [] => []
  | c :: cs =>
    if isNameRest c then if startsWord cs then extendWord c (tokens cs) else .word [c] :: tokens cs
    else if c = ' ' then tokens cs
    else .mark c :: tokens cs

theorem tokens_startsWord {cs : List Char} (h : startsWord cs = true) :
    ∃ w ts, tokens cs = .word w :: ts := by
  cases cs with
  | nil => cases h
  | cons c cs =>
    have hc : isNameRest c = true := h
    rw [tokens, if_pos hc]
    split
    · cases tokens cs with
      | nil => exact ⟨_, _, rfl⟩
      | cons t ts => cases t <;> exact ⟨_, _, rfl⟩
    · exact ⟨_, _, rfl⟩

/-- Texts that do not meet in a word are cut on their own. -/
theorem tokens_append {cs ds : List Char}
    (h : cs.getLast?.any isNameRest = false ∨ startsWord ds = false) :
    tokens (cs ++ ds) = tokens cs ++ tokens ds := by
  induction cs with
  | nil => rfl
  | cons c cs ih =>
    cases cs with
    | nil =>
      simp only [List.cons_append, List.nil_append, tokens]
      by_cases hc : isNameRest c = true
      · have hd : startsWord ds = false := h.resolve_left (by simp [hc])
        rw [if_pos hc, if_pos hc, hd]
        rfl
      · rw [if_neg hc, if_neg hc]
        split <;> rfl
    | cons d cs =>
      have ih := ih (by simpa using h)
      have hs : startsWord (d :: cs ++ ds) = startsWord (d :: cs) := rfl
      rw [List.cons_append, tokens, tokens, hs, ih]
      split
      · split
        · next hw =>
          obtain ⟨w, ts, ht⟩ := tokens_startsWord hw
          rw [ht]
          rfl
        · rfl
      · split <;> rfl

theorem tokens_word {cs : List Char} (h : ∀ c ∈ cs, isNameRest c = true) (hne : cs ≠ []) :
    tokens cs = [.word cs] := by
  induction cs with
  | nil => exact absurd rfl hne
  | cons c cs ih =>
    obtain ⟨hc, hcs⟩ := List.forall_mem_cons.mp h
    rw [tokens, if_pos hc]
    cases cs with
    | nil => rfl
    | cons d cs =>
      have hd : startsWord (d :: cs) = true := hcs d List.mem_cons_self
      rw [if_pos hd, ih hcs (by simp)]
      rfl

/-! ## Grammar -/

/-- What a type may stand in: brackets behind it, a bar beside it, or neither. -/
inductive Level where
  | primary
  | array
  | union

/-- A union of one type is that type. -/
def oneOf : List TypeExpr → TypeExpr
  | [t] => t
  | ts => .union ts

/-- The tokens in front of the values of a dictionary. -/
def dictionaryFront : List Token :=
  [.word "Record".toList, .mark '<', .word "string".toList, .mark ',']

/-- The types that stand with bars between them in a list of tokens. -/
inductive Derives : Level → List Token → List TypeExpr → Prop
  | name (w : List Char) : Derives .primary [.word w] [.name (String.ofList w)]
  | dictionary {ts : List Token} {us : List TypeExpr} : Derives .union ts us →
      Derives .primary (dictionaryFront ++ ts ++ [.mark '>']) [.dictionary (oneOf us)]
  | parens {ts : List Token} {us : List TypeExpr} : Derives .union ts us →
      Derives .primary ([.mark '('] ++ ts ++ [.mark ')']) [oneOf us]
  | primary {ts : List Token} {us : List TypeExpr} : Derives .primary ts us → Derives .array ts us
  | array {ts : List Token} {t : TypeExpr} : Derives .array ts [t] →
      Derives .array (ts ++ [.mark '[', .mark ']']) [.array t]
  | single {ts : List Token} {us : List TypeExpr} : Derives .array ts us → Derives .union ts us
  | bar {ts ts' : List Token} {us us' : List TypeExpr} : Derives .array ts us →
      Derives .union ts' us' → Derives .union (ts ++ [.mark '|'] ++ ts') (us ++ us')

/-- The text is a type with this tree. -/
def ReadsAs (text : String) (t : TypeExpr) : Prop :=
  ∃ us, Derives .union (tokens text.toList) us ∧ t = oneOf us

/-! ## One tree for a text -/

/-- What was read so far: the types in front of each open bracket, and those behind the last one. -/
structure Reading where
  before : List (List TypeExpr)
  types : List TypeExpr

/-- Read one more token. Nothing is refused here: this only says which tree a derivation can have.
-/
def Reading.next : Reading → Token → Reading
  | ⟨bs, us⟩, .word w => ⟨bs, us ++ [.name (String.ofList w)]⟩
  | ⟨bs, us⟩, .mark '(' => ⟨us :: bs, []⟩
  | ⟨b :: bs, us⟩, .mark ')' => ⟨bs, b ++ [oneOf us]⟩
  | ⟨bs, us⟩, .mark '<' => ⟨us.dropLast :: bs, []⟩
  | ⟨bs, _⟩, .mark ',' => ⟨bs, []⟩
  | ⟨b :: bs, us⟩, .mark '>' => ⟨bs, b ++ [.dictionary (oneOf us)]⟩
  | ⟨bs, us⟩, .mark '[' => ⟨bs, us.dropLast ++ us.getLast?.toList.map .array⟩
  | r, _ => r

theorem Derives.read {level : Level} {ts : List Token} {us : List TypeExpr}
    (h : Derives level ts us) (r : Reading) :
    ts.foldl Reading.next r = ⟨r.before, r.types ++ us⟩ := by
  induction h generalizing r with
  | name w => rfl
  | dictionary _ ih => simp [dictionaryFront, Reading.next, ih]
  | parens _ ih => simp [Reading.next, ih]
  | primary _ ih => exact ih r
  | array _ ih => simp [Reading.next, ih]
  | single _ ih => exact ih r
  | bar _ _ ih ih' => simp [Reading.next, ih, ih']

theorem ReadsAs.unique {text : String} {t t' : TypeExpr} (h : ReadsAs text t)
    (h' : ReadsAs text t') : t = t' := by
  obtain ⟨us, hd, rfl⟩ := h
  obtain ⟨us', hd', rfl⟩ := h'
  have hread := (hd.read ⟨[], []⟩).symm.trans (hd'.read ⟨[], []⟩)
  simpa using congrArg oneOf (Reading.mk.inj hread).2

/-! ## Printed types -/

namespace TypeExpr

def isUnion : TypeExpr → Bool
  | union _ => true
  | _ => false

mutual

/-- Names are words, and unions have branches, none of which is a union. -/
def Plain : TypeExpr → Prop
  | name s => s ≠ "" ∧ Word s
  | array items => Plain items
  | dictionary values => Plain values
  | union branches => branches ≠ [] ∧ PlainBranches branches

def PlainBranches : List TypeExpr → Prop
  | [] => True
  | t :: ts => t.isUnion = false ∧ Plain t ∧ PlainBranches ts

end

mutual

/-- The type without unions of one type. -/
def tree : TypeExpr → TypeExpr
  | name s => name s
  | array items => array (tree items)
  | dictionary values => dictionary (tree values)
  | union branches => oneOf (trees branches)

def trees : List TypeExpr → List TypeExpr
  | [] => []
  | t :: ts => tree t :: trees ts

end

/-- The trees that stand with bars between them in a printed type. -/
def between : TypeExpr → List TypeExpr
  | union branches => trees branches
  | t => [t.tree]

theorem oneOf_between (t : TypeExpr) : oneOf t.between = t.tree := by
  cases t <;> rfl

theorem between_eq {t : TypeExpr} (h : t.Plain) (hbar : t.hasBar = false) :
    t.between = [t.tree] := by
  match t, h, hbar with
  | union [], h, _ => exact absurd rfl h.1
  | union [b], _, _ => rfl
  | name _, _, _ | array _, _, _ | dictionary _, _, _ => rfl

theorem hasBar_of_isUnion {t : TypeExpr} (h : t.isUnion = false) : t.hasBar = false := by
  cases t with
  | union => cases h
  | _ => rfl

theorem text_array (items : TypeExpr) : (array items).text =
    if items.hasBar then "(" ++ items.text ++ ")[]" else items.text ++ "[]" := rfl

theorem text_dictionary (values : TypeExpr) :
    (dictionary values).text = "Record<string, " ++ values.text ++ ">" := rfl

theorem tokens_parens (cs : List Char) : tokens ("(".toList ++ cs ++ ")[]".toList) =
    [.mark '('] ++ tokens cs ++ [.mark ')'] ++ [.mark '[', .mark ']'] := by
  have hclose : tokens ")[]".toList = [.mark ')'] ++ [.mark '[', .mark ']'] := rfl
  rw [tokens_append (.inr rfl), tokens_append (.inl rfl), hclose, List.append_assoc,
    List.append_assoc, List.append_assoc]
  rfl

theorem tokens_array (cs : List Char) :
    tokens (cs ++ "[]".toList) = tokens cs ++ [.mark '[', .mark ']'] :=
  tokens_append (.inr rfl)

theorem tokens_dictionary (cs : List Char) : tokens ("Record<string, ".toList ++ cs ++ ">".toList) =
    dictionaryFront ++ tokens cs ++ [.mark '>'] := by
  rw [tokens_append (.inr rfl), tokens_append (.inl rfl)]
  rfl

theorem tokens_bar (cs ds : List Char) :
    tokens (cs ++ " | ".toList ++ ds) = tokens cs ++ [.mark '|'] ++ tokens ds := by
  rw [tokens_append (.inl (by simp; decide)), tokens_append (.inr rfl)]
  rfl

mutual

/-- A printed type is a union of its types, and without a bar brackets may follow it. -/
theorem derives_text : ∀ t : TypeExpr, t.Plain →
    Derives .union (tokens t.text.toList) t.between ∧
      (t.hasBar = false → Derives .array (tokens t.text.toList) t.between)
  | name s, h => by
    have hprimary : Derives .primary (tokens s.toList) [name s] := by
      rw [tokens_word h.2 (mt String.toList_eq_nil_iff.mp h.1)]
      simpa using Derives.name s.toList
    exact ⟨.single (.primary hprimary), fun _ => .primary hprimary⟩
  | array items, h => by
    have h : items.Plain := h
    have harray : Derives .array (tokens (array items).text.toList) [array items.tree] := by
      obtain ⟨hunion, hitems⟩ := derives_text items h
      rw [text_array]
      split
      · rw [String.toList_append, String.toList_append, tokens_parens, ← oneOf_between]
        exact .array (.primary (.parens hunion))
      · next hbar =>
        have hbar : items.hasBar = false := by simpa using hbar
        rw [String.toList_append, tokens_array]
        exact .array (between_eq h hbar ▸ hitems hbar)
    exact ⟨.single harray, fun _ => harray⟩
  | dictionary values, h => by
    have hprimary : Derives .primary (tokens (dictionary values).text.toList)
        [dictionary values.tree] := by
      rw [text_dictionary, String.toList_append, String.toList_append, tokens_dictionary,
        ← oneOf_between]
      exact .dictionary (derives_text values h).1
    exact ⟨.single (.primary hprimary), fun _ => .primary hprimary⟩
  | union branches, h => by
    refine ⟨derives_texts branches h.1 h.2, fun hbar => ?_⟩
    match branches, h, hbar with
    | [b], h, _ =>
      have hb := hasBar_of_isUnion h.2.1
      have := (derives_text b h.2.2.1).2 hb
      rwa [between_eq h.2.2.1 hb] at this

theorem derives_texts : ∀ ts : List TypeExpr, ts ≠ [] → PlainBranches ts →
    Derives .union (tokens (Text.joinWith " | " (texts ts)).toList) (trees ts)
  | [t], _, h => by
    have := (derives_text t h.2.1).1
    rwa [between_eq h.2.1 (hasBar_of_isUnion h.1)] at this
  | t :: u :: us, _, h => by
    have hbar := hasBar_of_isUnion h.1
    have hfirst := (derives_text t h.2.1).2 hbar
    rw [between_eq h.2.1 hbar] at hfirst
    have hjoin : Text.joinWith " | " (texts (t :: u :: us)) =
        t.text ++ " | " ++ Text.joinWith " | " (texts (u :: us)) := rfl
    rw [hjoin, String.toList_append, String.toList_append, tokens_bar]
    exact .bar hfirst (derives_texts (u :: us) (by simp) h.2.2)

end

/-- A printed type is read as its tree and as no other one. -/
theorem readsAs_text {t u : TypeExpr} (h : t.Plain) : ReadsAs t.text u ↔ u = t.tree := by
  have htree : ReadsAs t.text t.tree :=
    ⟨t.between, (derives_text t h).1, t.oneOf_between.symm⟩
  exact ⟨fun hu => hu.unique htree, fun hu => hu ▸ htree⟩

end TypeExpr

end AvroLink.TypeScript
