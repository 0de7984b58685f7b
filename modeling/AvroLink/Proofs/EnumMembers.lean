import AvroLink.Proofs.FileText
import AvroLink.Proofs.Qualifier

/-!
# The members of an enum

Every symbol of an enum becomes a member with a name of its own. `NamedInTurn used symbols members`
says how the names are found: one symbol after another takes the first name of its row, the
`memberBase` and then the numbered ones, that is not in use. Such names differ from each other,
whatever the symbols are, and are valid when the symbols are.
-/

namespace AvroLink.TypeScript

variable {used symbols members : List String} {config : Config} {remap : Remap}

/-- What the names of a symbol are made of. -/
def memberBase (symbol : String) : String :=
  let pascal := Text.pascal symbol
  if pascal.toList.head?.any Char.isAlpha then pascal else symbol

/-- The names of the members, each the first of its row that is not in use. -/
inductive NamedInTurn : (used symbols members : List String) → Prop where
  | nil (used : List String) : NamedInTurn used [] []
  | cons {used symbols members : List String} {symbol : String} {k : Nat} :
      IsFirstFree used (numbered (memberBase symbol) "_") k →
      NamedInTurn (used ++ [numbered (memberBase symbol) "_" k]) symbols members →
      NamedInTurn used (symbol :: symbols) (numbered (memberBase symbol) "_" k :: members)

/-! ## The search -/

theorem memberName_spec (used : List String) (symbol : String) :
    ∃ k, memberName used symbol = numbered (memberBase symbol) "_" k ∧
      IsFirstFree used (numbered (memberBase symbol) "_") k :=
  firstFree_spec used (numbered_injective _ _)

theorem memberNames_inTurn (symbols used : List String) : ∃ members,
    NamedInTurn used symbols members ∧ memberNames used symbols = members.zip symbols := by
  induction symbols generalizing used with
  | nil => exact ⟨[], .nil used, rfl⟩
  | cons symbol symbols ih =>
    obtain ⟨k, hk, hfree⟩ := memberName_spec used symbol
    obtain ⟨members, hturn, hzip⟩ := ih (used ++ [memberName used symbol])
    rw [hk] at hturn
    refine ⟨_, .cons hfree hturn, ?_⟩
    rw [memberNames, hzip, hk, List.zip_cons_cons]

/-! ## The names -/

/-- A valid symbol gives a valid base: its Pascal case when that begins with a letter, and otherwise
the symbol as it is. -/
theorem isValidName_memberBase {symbol : String} (h : isValidName symbol = true) :
    isValidName (memberBase symbol) = true := by
  simp only [memberBase]
  split
  · next hhead =>
    refine isValidName_iff.mpr ⟨(Word.of_isValidName h).pascal, ?_⟩
    cases hc : (Text.pascal symbol).toList.head? with
    | none => simp [hc] at hhead
    | some c =>
      rw [hc, Option.any_some] at hhead
      rw [Option.any_some, isNameStart, hhead, Bool.true_or]
  · exact h

theorem isValidName_numbered_of {base : String} (h : isValidName base = true) (k : Nat) :
    isValidName (numbered base "_" k) = true := by
  cases k with
  | zero => exact h
  | succ k =>
    rw [numbered, String.append_assoc]
    exact isValidName_append h (Word.append_iff.mpr ⟨by decide, Word.toString_nat _⟩)

namespace NamedInTurn

theorem length_eq (h : NamedInTurn used symbols members) : members.length = symbols.length := by
  induction h with
  | nil => rfl
  | cons _ _ ih => simp [ih]

theorem fresh (h : NamedInTurn used symbols members) :
    (∀ m ∈ members, m ∉ used) ∧ members.Nodup := by
  induction h with
  | nil => simp
  | cons hfree _ ih =>
    obtain ⟨hnew, hnodup⟩ := ih
    simp only [List.mem_append, List.mem_singleton, not_or] at hnew
    refine ⟨List.forall_mem_cons.mpr ⟨hfree.free, fun m hm => (hnew m hm).1⟩, ?_⟩
    exact List.nodup_cons.mpr ⟨fun hm => (hnew _ hm).2 rfl, hnodup⟩

theorem valid (h : NamedInTurn used symbols members)
    (hs : ∀ s ∈ symbols, isValidName s = true) : ∀ m ∈ members, isValidName m = true := by
  induction h with
  | nil => simp
  | cons _ _ ih =>
    obtain ⟨hsymbol, hsymbols⟩ := List.forall_mem_cons.mp hs
    refine List.forall_mem_cons.mpr ⟨?_, ih hsymbols⟩
    exact isValidName_numbered_of (isValidName_memberBase hsymbol) _

end NamedInTurn

/-! ## The declaration -/

/-- The line of a member: its name, and the literal of its symbol. -/
def memberLine (member symbol : String) : String :=
  "  " ++ member ++ " = " ++ Text.literal symbol ++ ",\n"

theorem enumBody_enum (ident : String) (symbols : List String) :
    enumBody .enum ident symbols = "enum " ++ ident ++ " \x7b\n" ++
      String.join ((memberNames [] symbols).map fun p => memberLine p.1 p.2) ++ "\x7d\n" := rfl

/-- The declaration of an enum with members has one of them for each symbol in order, set to the
literal of this symbol. The search for each name ends, and the names are different and valid. -/
theorem declaration_enum_members (hstyle : config.enums = .enum) (remap : Remap) (e : EnumType)
    (sc : Scope) (hs : ∀ s ∈ e.symbols, isValidName s = true) :
    ∃ members : List String,
      (declaration config remap (.enum e) sc).1 =
        docComment "" e.doc.toList ++ exportWord config ++
          "enum " ++ declaredIdentifier sc.self ++ " \x7b\n" ++
          String.join (members.zipWith memberLine e.symbols) ++ "\x7d\n" ∧
      members.length = e.symbols.length ∧ NamedInTurn [] e.symbols members ∧
      members.Nodup ∧ ∀ m ∈ members, isValidName m = true := by
  obtain ⟨members, hturn, hzip⟩ := memberNames_inTurn e.symbols []
  refine ⟨members, ?_, hturn.length_eq, hturn, hturn.fresh.2, hturn.valid hs⟩
  rw [declaration_enum, hstyle, enumBody_enum, hzip, List.zip_eq_zipWith, List.map_zipWith]
  simp only [String.append_assoc]

/-- Symbols that fall together in Pascal case, and one that keeps its own spelling. -/
def lookalikes : EnumType := ⟨⟨none, "E"⟩, none, [], ["a", "A", "_a", "_9"], none⟩

def memberStyle : Config := ⟨true, .undefined, .enum, none⟩

theorem declaration_enum_members_lookalikes :
    (declaration memberStyle .empty (.enum lookalikes) (.empty lookalikes.name)).1 =
      "export enum E \x7b\n" ++ "  A = \"a\",\n" ++ "  A_2 = \"A\",\n" ++ "  A_3 = \"_a\",\n" ++
        "  _9 = \"_9\",\n" ++ "\x7d\n" ∧
    ∃ members : List String,
      (declaration memberStyle .empty (.enum lookalikes) (.empty lookalikes.name)).1 =
        "export enum E \x7b\n" ++ String.join (members.zipWith memberLine lookalikes.symbols) ++
          "\x7d\n" ∧
      members.length = 4 ∧ members.Nodup ∧ ∀ m ∈ members, isValidName m = true := by
  have hstyle : memberStyle.enums = .enum := rfl
  have hsymbols : ∀ s ∈ lookalikes.symbols, isValidName s = true := by decide
  obtain ⟨members, htext, hlength, -, hnodup, hvalid⟩ :=
    declaration_enum_members hstyle .empty lookalikes (.empty lookalikes.name) hsymbols
  exact ⟨by decide +kernel, members, htext, hlength, hnodup, hvalid⟩

end AvroLink.TypeScript
