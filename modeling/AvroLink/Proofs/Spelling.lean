import AvroLink.Proofs.Walk
import AvroLink.Proofs.WellFormed

/-!
# Spelling a schema in JSON

`Schema.spell` writes a schema as the JSON value that spells it with full names. A name is always
dotted, so that it means the same in every namespace; an attribute stands only where the schema has
something to say in it.
-/

namespace AvroLink

namespace Json.Members

/-- The object with these members; of members with the same key the first one counts. -/
def ofList : List (String × Value) → Members
  | [] => []
  | (key, v) :: ms => put key v (ofList ms)

/-- A member that may be left out. -/
def optional (key : String) (v : Option Value) : List (String × Value) :=
  match v with
  | some v => [(key, v)]
  | none => []

@[simp] theorem get?_nil (key : String) : get? [] key = none := rfl

@[simp] theorem get?_cons (k : String) (w : Value) (ms : Members) (key : String) :
    get? ((k, w) :: ms) key = if key = k then some w else ms.get? key := by
  rw [get?, get?, List.lookup_cons]
  by_cases h : key = k
  · simp [h]
  · rw [beq_false_of_ne h, if_neg h]

theorem get?_put (ms : Members) (key key' : String) (v : Value) :
    (put key v ms).get? key' = if key' = key then some v else ms.get? key' := by
  induction ms with
  | nil => rw [put, get?_cons]
  | cons m ms ih =>
    obtain ⟨k, w⟩ := m
    simp only [put]
    split
    · rw [get?_cons]
    · split
      · next hk =>
        subst hk
        simp only [get?_cons]
        split <;> rfl
      · next hk =>
        simp only [get?_cons, ih]
        grind

@[simp] theorem get?_ofList (ms : List (String × Value)) (key : String) :
    (ofList ms).get? key = get? ms key := by
  induction ms with
  | nil => rfl
  | cons m ms ih => rw [ofList, get?_put, ih, get?_cons]

@[simp] theorem get?_append (ms ms' : List (String × Value)) (key : String) :
    get? (ms ++ ms') key = (get? ms key).or (get? ms' key) := List.lookup_append

@[simp] theorem get?_optional (key key' : String) (v : Option Value) :
    get? (optional key v) key' = if key' = key then v else none := by
  cases v with
  | none => simp [optional]
  | some v => simp [optional]

end Json.Members

namespace FullName

/-- The text that denotes a name in every namespace. A name of the null namespace starts with a
dot. -/
def dotted (n : FullName) : String := n.space.getD "" ++ "." ++ n.name

theorem toList_dotted (n : FullName) :
    n.dotted.toList = (n.space.getD "").toList ++ '.' :: n.name.toList := by
  simp [dotted]

theorem dot_mem_dotted (n : FullName) : '.' ∈ n.dotted.toList := by
  simp [toList_dotted]

theorem Valid.space_ne_empty {n : FullName} (h : n.Valid) : n.space ≠ some "" := by
  intro hs
  have := h.space "" hs
  simp [isValidNamespace, isNamespaceText, Text.pieces, isNameText] at this

theorem Valid.spaceOf_space {n : FullName} (h : n.Valid) : spaceOf n.space = n.space := by
  unfold spaceOf
  split
  · next hs => exact absurd hs h.space_ne_empty
  · rfl

theorem Valid.resolve_parts {n : FullName} (h : n.Valid) {text : String} {enclosing : Option String}
    (hne : text ≠ "") (hname : (parts text enclosing).2 = n.name)
    (hspace : spaceOf (parts text enclosing).1 = n.space) :
    resolve text enclosing = .ok n := by
  rw [resolve_eq, if_neg hne, hname, if_pos h.name, hspace]
  obtain ⟨_ | ns, name⟩ := n
  · rfl
  · exact if_pos (h.space ns rfl)

theorem Valid.resolve_dotted {n : FullName} (h : n.Valid) (enclosing : Option String) :
    resolve n.dotted enclosing = .ok n := by
  have hparts : parts n.dotted enclosing = (some (n.space.getD ""), n.name) := by
    simp only [parts, toList_dotted, Text.cutLast_append h.dot_not_mem, String.ofList_toList]
  refine h.resolve_parts (fun he => ?_) (congrArg Prod.snd hparts) ?_
  · have hm := n.dot_mem_dotted
    simp [he] at hm
  · rw [hparts]
    have hs := h.spaceOf_space
    cases hn : n.space with
    | none => rfl
    | some ns => rwa [hn] at hs

theorem Valid.parse_text {n : FullName} (h : n.Valid) : parse n.text = .ok n := by
  cases hs : n.space with
  | some ns =>
    have htext : n.text = n.dotted := by simp [text, dotted, hs]
    rw [htext]
    exact h.resolve_dotted none
  | none =>
    have htext : n.text = n.name := by simp [text, hs]
    have hparts : parts n.text none = (none, n.name) := by
      rw [htext, parts, Text.cutLast_eq_none.mpr h.dot_not_mem]
    refine h.resolve_parts (htext ▸ h.name_ne_empty) (congrArg Prod.snd hparts) ?_
    rw [hparts, hs]
    rfl

end FullName

namespace Schema

open Json.Members

def spellNames (names : List FullName) : Json.Value :=
  .array (names.map fun n => .string n.dotted)

def spellNat (n : Nat) : Json.Value := .number (.int n)

def docMember (doc : Option String) : List (String × Json.Value) :=
  optional "doc" (doc.map .string)

def aliasesMember (names : List FullName) : List (String × Json.Value) :=
  optional "aliases" (if names = [] then none else some (spellNames names))

/-- What a logical type adds to the object that spells the type it is laid over. -/
def logicalMembers (l : LogicalType) : List (String × Json.Value) :=
  ("logicalType", .string l.keyword) ::
    match l with
    | .decimal precision scale => [("precision", spellNat precision), ("scale", spellNat scale)]
    | _ => []

def recordMembers (h : RecordHead) (fields : List Json.Value) : List (String × Json.Value) :=
  [("type", .string "record"), ("name", .string h.name.dotted), ("fields", .array fields)] ++
    docMember h.doc ++ aliasesMember h.aliases

def fieldMembers (f : Field) (type : Json.Value) : List (String × Json.Value) :=
  [("name", .string f.name), ("type", type)] ++ docMember f.doc ++ optional "default" f.default

def enumMembers (e : EnumType) : List (String × Json.Value) :=
  [("type", .string "enum"), ("name", .string e.name.dotted),
    ("symbols", .array (e.symbols.map .string))] ++
    docMember e.doc ++ aliasesMember e.aliases ++ optional "default" (e.default.map .string)

def fixedMembers (f : FixedType) : List (String × Json.Value) :=
  [("type", .string "fixed"), ("name", .string f.name.dotted), ("size", spellNat f.size)] ++
    aliasesMember f.aliases

/-- A type as an object. -/
def typeMembers : Json.Value → List (String × Json.Value)
  | .object ms => ms
  | v => [("type", v)]

mutual

/-- The JSON value that spells a schema with full names. -/
def spell : Schema → Json.Value
  | primitive p => .string p.keyword
  | logical l base => .object (ofList (typeMembers (spell base) ++ logicalMembers l))
  | array items => .object (ofList [("type", .string "array"), ("items", spell items)])
  | map values => .object (ofList [("type", .string "map"), ("values", spell values)])
  | union branches => .array (spellBranches branches)
  | record h fields => .object (ofList (recordMembers h (spellFields fields)))
  | enum e => .object (ofList (enumMembers e))
  | fixed f => .object (ofList (fixedMembers f))
  | ref n => .string n.dotted

def spellBranches : List Schema → List Json.Value
  | [] => []
  | s :: ss => spell s :: spellBranches ss

def spellFields : List (FieldOf Schema) → List Json.Value
  | [] => []
  | ⟨name, doc, s, default⟩ :: fs =>
    .object (ofList (fieldMembers ⟨name, doc, s, default⟩ (spell s))) :: spellFields fs

end

end Schema

end AvroLink
