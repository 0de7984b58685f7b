import AvroLink.Proofs.Boundary
import AvroLink.Proofs.Document

/-!
# Where an error points

`Raised locate e` lists the errors of a walk, each with the name that is looked for to place it. A
place that is found lies in the text, and the quotes around the name stand directly before and
behind it (`Quotes`). An error of the JSON reader points to the place where reading stopped, which
is kept inside the text.
-/

namespace AvroLink

namespace Text

theorem eq_append_of_find? {needle cs : List Char} {i : Nat} (h : find? needle cs = some i) :
    ∃ a b, cs = a ++ needle ++ b ∧ byteLen a = i := by
  induction cs generalizing i with
  | nil =>
    rw [find?] at h
    split at h
    · next hneedle =>
      cases h
      exact ⟨[], [], by rw [hneedle]; rfl, rfl⟩
    · cases h
  | cons c cs ih =>
    rw [find?] at h
    split at h
    · next hfront =>
      cases h
      obtain ⟨b, hb⟩ := List.isPrefixOf_iff_prefix.mp hfront
      exact ⟨[], b, hb.symm, rfl⟩
    · obtain ⟨j, hj, rfl⟩ := Option.map_eq_some_iff.mp h
      obtain ⟨a, b, rfl, rfl⟩ := ih hj
      exact ⟨c :: a, b, rfl, rfl⟩

end Text

/-- The range holds the name, and a quote stands directly before and behind it. -/
def Quotes (text : String) (range : Span) (name : String) : Prop :=
  ∃ before after, text = before ++ "\"" ++ name ++ "\"" ++ after ∧
    range.start = (before ++ "\"").utf8ByteSize ∧
    range.stop = (before ++ "\"" ++ name).utf8ByteSize

namespace Quotes

variable {text name : String} {range : Span}

theorem of_findQuoted (h : Text.findQuoted text.toList name = some range) :
    Quotes text range name := by
  obtain ⟨i, hi, rfl⟩ := Option.map_eq_some_iff.mp h
  obtain ⟨a, b, hab, rfl⟩ := Text.eq_append_of_find? hi
  have hquote : "\"".utf8ByteSize = 1 := by decide
  refine ⟨String.ofList a, String.ofList b, String.toList_inj.mp (by simp [hab]), ?_, ?_⟩
  · simp [Text.byteLen_eq, hquote]
  · simp [Text.byteLen_eq, hquote]

/-- The ends of the range are places at which the text can be cut, and they are in order. -/
theorem isValid (h : Quotes text range name) :
    (String.Pos.Raw.mk range.start).IsValid text ∧ (String.Pos.Raw.mk range.stop).IsValid text ∧
      range.start ≤ range.stop := by
  obtain ⟨before, after, rfl, hstart, hstop⟩ := h
  refine ⟨String.Pos.Raw.isValid_iff_exists_append.mpr
      ⟨before ++ "\"", name ++ "\"" ++ after, by simp only [String.append_assoc], ?_⟩,
    String.Pos.Raw.isValid_iff_exists_append.mpr
      ⟨before ++ "\"" ++ name, "\"" ++ after, by simp only [String.append_assoc], ?_⟩, ?_⟩
  · rw [hstart]
    rfl
  · rw [hstop]
    rfl
  · rw [hstart, hstop, String.utf8ByteSize_append (s := before ++ "\"")]
    exact Nat.le_add_right _ _

end Quotes

namespace Schema

variable {α β : Type} {locate : Locate} {ms : Json.Members} {enclosing : Option String}
  {P : ParseError → Prop}

/-! ## The errors of a walk -/

/-- The errors that a walk may end with. -/
inductive Raised (locate : Locate) : ParseError → Prop
  | unknownType (name : String) : Raised locate ⟨.unknownType name, locate name⟩
  | duplicateName (name : FullName) : Raised locate ⟨.duplicateName name, locate name.name⟩
  | invalidName (error : NameError) (text : String) :
    Raised locate ⟨.invalidName error, locate text⟩
  | invalidSchema (fault : SchemaFault) : Raised locate ⟨.invalidSchema fault, none⟩
  | invalidSchemaAt (fault : SchemaFault) (text : String) :
    Raised locate ⟨.invalidSchema fault, locate text⟩

/-- Every error of the walk is one of `P`. -/
def Fails (P : ParseError → Prop) (m : Walk α) : Prop :=
  ∀ sc, Ends m sc (fun _ _ => True) fun e _ => P e

namespace Fails

theorem pure (a : α) : Fails P (Pure.pure a : Walk α) := fun _ => .pure trivial

theorem fail {cause : ParseError.Cause} {span : Option Span} (h : P ⟨cause, span⟩) :
    Fails P (Schema.fail cause span : Walk α) := fun _ => .fail h

theorem invalid (fault : SchemaFault) : Fails (Raised locate) (Schema.invalid fault : Walk α) :=
  .fail (.invalidSchema fault)

theorem bind {m : Walk α} {k : α → Walk β} (hm : Fails P m) (hk : ∀ a, Fails P (k a)) :
    Fails P (m >>= k) :=
  fun sc => .bind ((hm sc).mono (fun a sc' _ => hk a sc') fun _ _ h => h)

theorem get {k : Scope → Walk β} (hk : ∀ sc, Fails P (k sc)) : Fails P (MonadState.get >>= k) :=
  fun sc => .bind (.get (hk sc sc))

theorem map {m : Walk α} (f : α → β) (hm : Fails P m) : Fails P (do return f (← m)) :=
  hm.bind fun _ => .pure _

theorem opening {name : FullName} {m : Walk α} (hm : Fails P m) :
    Fails P (Schema.opening name m) :=
  fun sc => .opening (hm (sc.enter name))

end Fails

theorem required_fails (what key : String) : Fails (Raised locate) (required ms what key) := by
  unfold required
  split
  · exact .pure _
  · exact .invalid _

theorem requiredString_fails (what key : String) :
    Fails (Raised locate) (requiredString ms what key) := by
  refine (required_fails what key).bind fun v => ?_
  split
  · exact .pure _
  · exact .invalid _

theorem resolveName_fails (text : String) (enclosing : Option String) :
    Fails (Raised locate) (resolveName locate text enclosing) := by
  unfold resolveName
  split
  · exact .pure _
  · exact .fail (.invalidName _ text)

theorem namespaceOf_fails : Fails (Raised locate) (namespaceOf ms enclosing) := by
  unfold namespaceOf
  split
  · exact .pure _
  · exact .pure _
  · exact .pure _
  · exact .invalid _

theorem definedName_fails : Fails (Raised locate) (definedName locate ms enclosing) :=
  (requiredString_fails _ _).bind fun name => namespaceOf_fails.bind fun space =>
    resolveName_fails name space

theorem aliasList_fails (space : Option String) (vs : List Json.Value) :
    Fails (Raised locate) (aliasList locate space vs) := by
  induction vs with
  | nil => exact .pure _
  | cons v vs ih =>
    rw [aliasList]
    split
    · exact .invalid _
    · exact (resolveName_fails _ space).bind fun n => ih.map (n :: ·)

theorem aliases_fails (space : Option String) :
    Fails (Raised locate) (aliases locate ms space) := by
  unfold aliases
  split
  · exact .pure _
  · exact aliasList_fails space _
  · exact .invalid _

theorem reference_fails (text : String) :
    Fails (Raised locate) (reference locate text enclosing) := by
  refine (resolveName_fails text enclosing).bind fun name => .get fun sc => ?_
  split
  · exact .pure _
  · exact .fail (.unknownType text)

theorem typeName_fails (text : String) :
    Fails (Raised locate) (typeName locate text enclosing) := by
  unfold typeName
  split
  · exact .pure _
  · exact reference_fails text

theorem checkFresh_fails (name : FullName) : Fails (Raised locate) (checkFresh locate name) := by
  refine .get fun sc => ?_
  split
  · exact .fail (.duplicateName name)
  · exact .pure _

theorem register_fails (s : Schema) : Fails (Raised locate) (register locate s) := by
  refine .get fun sc => ?_
  split
  · exact fun sc => trivial
  · exact .fail (.duplicateName _)
  · exact .invalid _

theorem symbolList_fails (name : FullName) (vs : List Json.Value) (seen : List String) :
    Fails (Raised locate) (symbolList locate name seen vs) := by
  induction vs generalizing seen with
  | nil => exact .pure _
  | cons v vs ih =>
    rw [symbolList]
    split
    · exact .invalid _
    · split
      · exact .fail (.invalidName _ _)
      · split
        · exact .fail (.invalidSchemaAt _ _)
        · exact ih _

theorem defaultSymbol_fails (name : FullName) (symbols : List String) :
    Fails (Raised locate) (defaultSymbol ms name symbols) := by
  unfold defaultSymbol
  split
  · exact .pure _
  · exact .pure _
  · split
    · split
      · exact .pure _
      · exact .invalid _
    · exact .invalid _

theorem enumType_fails : Fails (Raised locate) (enumType locate ms enclosing) := by
  refine definedName_fails.bind fun name => (checkFresh_fails name).bind fun _ => ?_
  split
  · refine (symbolList_fails name _ []).bind fun symbols => ?_
    refine (defaultSymbol_fails name symbols).bind fun default => ?_
    exact (aliases_fails name.space).bind fun as => register_fails _
  · exact .fail (.invalidSchemaAt _ _)

theorem fixedType_fails : Fails (Raised locate) (fixedType locate ms enclosing) := by
  refine definedName_fails.bind fun name => (checkFresh_fails name).bind fun _ => ?_
  split
  · exact (aliases_fails name.space).bind fun as => register_fails _
  · exact .fail (.invalidSchemaAt _ _)

mutual

theorem walk_fails (v : Json.Value) (enclosing : Option String) :
    Fails (Raised locate) (walk locate v enclosing) := by
  match v with
  | .string s =>
    rw [walk]
    exact typeName_fails s
  | .array vs =>
    rw [walk]
    split
    · exact .invalid _
    · exact (walkBranches_fails vs enclosing []).map union
  | .object ms =>
    rw [walk]
    exact walkObject_fails ms enclosing
  | .null | .bool _ | .number _ =>
    rw [walk]
    · exact .invalid _
    all_goals simp
termination_by sizeOf v

theorem walkBranches_fails (vs : List Json.Value) (enclosing : Option String) (seen : List String) :
    Fails (Raised locate) (walkBranches locate vs enclosing seen) := by
  match vs with
  | [] =>
    rw [walkBranches]
    exact .pure _
  | v :: vs =>
    rw [walkBranches]
    refine (walk_fails v enclosing).bind fun s => ?_
    split
    · exact .invalid _
    · split
      · exact .fail (.invalidSchemaAt _ _)
      · exact (walkBranches_fails vs enclosing _).map (s :: ·)
termination_by sizeOf vs

theorem walkObject_fails (ms : Json.Members) (enclosing : Option String) :
    Fails (Raised locate) (walkObject locate ms enclosing) := by
  rw [walkObject]
  split
  · exact .invalid _
  · rename_i inner h
    have : 1 + sizeOf inner < sizeOf ms := by simpa using Json.Members.sizeOf_lt_of_get? h
    exact walk_fails (.object inner) enclosing
  · rename_i inner h
    have : 1 + sizeOf inner < sizeOf ms := by simpa using Json.Members.sizeOf_lt_of_get? h
    exact walk_fails (.array inner) enclosing
  · rename_i type h
    split
    · refine definedName_fails.bind fun name => (checkFresh_fails name).bind fun _ => ?_
      split
      · rename_i vs hf
        have : sizeOf vs < sizeOf ms := by
          have := Json.Members.sizeOf_lt_of_get? hf
          simp at this
          omega
        refine (walkFields_fails vs name.space []).opening.bind fun fields => ?_
        exact (aliases_fails name.space).bind fun as => register_fails _
      · exact .fail (.invalidSchemaAt _ _)
    · split
      · exact enumType_fails
      · split
        · exact fixedType_fails.map (withLogical ms)
        · split
          · split
            · exact .invalid _
            · rename_i items hi
              have := Json.Members.sizeOf_lt_of_get? hi
              exact (walk_fails items enclosing).map array
          · split
            · split
              · exact .invalid _
              · rename_i values hv
                have := Json.Members.sizeOf_lt_of_get? hv
                exact (walk_fails values enclosing).map map
            · exact (typeName_fails type).map (withLogical ms)
  · exact .invalid _
termination_by sizeOf ms

theorem walkFields_fails (vs : List Json.Value) (space : Option String) (seen : List String) :
    Fails (Raised locate) (walkFields locate vs space seen) := by
  match vs with
  | [] =>
    rw [walkFields]
    exact .pure _
  | .object ms :: vs =>
    rw [walkFields]
    refine (requiredString_fails _ _).bind fun name => ?_
    split
    · exact .fail (.invalidName _ _)
    · split
      · exact .fail (.invalidSchemaAt _ _)
      · split
        · exact .invalid _
        · rename_i type h
          have := Json.Members.sizeOf_lt_of_get? h
          refine (walk_fails type space).bind fun s => ?_
          exact (walkFields_fails vs space _).map (_ :: ·)
  | .null :: _ | .bool _ :: _ | .number _ :: _ | .string _ :: _ | .array _ :: _ =>
    rw [walkFields]
    · exact .invalid _
    all_goals simp
termination_by sizeOf vs

end

/-! ## Documents -/

theorem reading_fails (text : String) :
    Fails (fun e => (∃ f, e = .ofFault text.toList f) ∨
      Raised (Text.findQuoted text.toList) e) (reading text) := by
  unfold reading
  split
  · next f _ => exact fun sc => .inl ⟨f, rfl⟩
  · exact fun sc => (walk_fails _ none sc).mono (fun _ _ h => h) fun _ _ h => .inr h

theorem raised_of_parse {text : String} {N : Namespace} {e : ParseError}
    (h : (parse text N).1 = .error e) :
    (∃ f, e = .ofFault text.toList f) ∨ Raised (Text.findQuoted text.toList) e := by
  have hr := reading_fails text ⟨N, []⟩
  rw [parse_eq] at h
  unfold Ends at hr
  split at hr
  · next hok => rw [hok] at h; cases h
  · next herr => rw [herr] at h; cases h; exact hr

theorem Raised.quotes {text : String} {e : ParseError} {range : Span}
    (h : Raised (Text.findQuoted text.toList) e) (hrange : e.span = some range) :
    ∃ name, Quotes text range name ∧ (∀ n, e.cause = .unknownType n → n = name) ∧
      ∀ n, e.cause = .duplicateName n → n.name = name := by
  cases h with
  | unknownType name => exact ⟨name, .of_findQuoted hrange, by simp, by simp⟩
  | duplicateName name => exact ⟨name.name, .of_findQuoted hrange, by simp, by simp⟩
  | invalidName error name => exact ⟨name, .of_findQuoted hrange, by simp, by simp⟩
  | invalidSchema fault => cases hrange
  | invalidSchemaAt fault name => exact ⟨name, .of_findQuoted hrange, by simp, by simp⟩

theorem offset_le (text : String) (p : Position) : p.offset text.toList ≤ text.utf8ByteSize := by
  rw [← Text.byteLen_toList]
  exact Nat.min_le_right _ _

/-- Where an error points to a part of the text, that part exists. A name that is not known, or
defined a second time, stands there between quotes. The place of an error in the JSON is in the
text whatever the line and the column are that the reader stopped at. -/
theorem parse_error_points (text : String) (N : Namespace) (e : ParseError) (range : Span)
    (h : (parse text N).1 = .error e) (hrange : e.span = some range) :
    range.start ≤ range.stop ∧ range.stop ≤ text.utf8ByteSize ∧
      (∀ name, e.cause = .unknownType name → Quotes text range name ∧
        (String.Pos.Raw.mk range.start).IsValid text ∧
        (String.Pos.Raw.mk range.stop).IsValid text) ∧
      (∀ name, e.cause = .duplicateName name → Quotes text range name.name ∧
        (String.Pos.Raw.mk range.start).IsValid text ∧
        (String.Pos.Raw.mk range.stop).IsValid text) ∧
      (∀ cause p, e.cause = .json cause p →
        range = ⟨p.offset text.toList, p.offset text.toList⟩) ∧
      ∀ p : Position, p.offset text.toList ≤ text.utf8ByteSize := by
  rcases raised_of_parse h with ⟨f, rfl⟩ | hr
  · cases hrange
    refine ⟨Nat.le_refl _, offset_le text _, ?_, ?_, ?_, offset_le text⟩
    · intro _ hc
      cases hc
    · intro _ hc
      cases hc
    · intro _ _ hc
      cases hc
      rfl
  · obtain ⟨name, hq, hunknown, hduplicate⟩ := hr.quotes hrange
    obtain ⟨hstart, hstop, hle⟩ := hq.isValid
    refine ⟨hle, hstop.le_rawEndPos, ?_, ?_, ?_, offset_le text⟩
    · intro n hc
      exact ⟨hunknown n hc ▸ hq, hstart, hstop⟩
    · intro n hc
      exact ⟨hduplicate n hc ▸ hq, hstart, hstop⟩
    · intro cause p hc
      cases hr <;> cases hc

/-- A reference behind a text with an accent, which takes two bytes. -/
def strayReference : String := "[\"null\",\x7b\"doc\":\"é\",\"type\":\"a.Foo\"\x7d]"

/-- The error points to the name, not to the quotes around it. -/
theorem parse_error_points_stray : ∃ e name,
    (parse strayReference .empty).1 = .error e ∧ e.cause = .unknownType name ∧
      e.span = some ⟨28, 33⟩ ∧ Quotes strayReference ⟨28, 33⟩ name := by
  have hlook : (match (parse strayReference .empty).1 with
      | .error e => e.isUnknownType && decide (e.span = some ⟨28, 33⟩)
      | .ok _ => false) = true := by decide +kernel
  rcases he : (parse strayReference .empty).1 with ⟨cause, span⟩ | s
  · rw [he] at hlook
    obtain ⟨hunknown, hspan⟩ := Bool.and_eq_true_iff.mp hlook
    obtain rfl : span = some ⟨28, 33⟩ := of_decide_eq_true hspan
    cases cause with
    | unknownType name =>
      have hpoints := parse_error_points _ _ _ _ he rfl
      exact ⟨_, name, rfl, rfl, rfl, (hpoints.2.2.1 name rfl).1⟩
    | _ => cases hunknown
  · rw [he] at hlook
    cases hlook

end Schema

end AvroLink
