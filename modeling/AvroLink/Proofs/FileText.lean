import AvroLink.Proofs.Mentions

/-!
# The lines of a generated file

`importLines` and `declaredNames` read a file back: its import lines, and the names that it
declares. All other lines are inert. What a file declares and imports is what it was emitted for,
whatever the texts in its header, comments and literals are.
-/

namespace AvroLink.TypeScript

open Text

/-! ## Reading a file -/

/-- What follows `front` in a text. -/
def afterText? (front cs : List Char) : Option (List Char) :=
  if front.isPrefixOf cs then some (cs.drop front.length) else none

def isImportLine (line : List Char) : Bool := "import ".toList.isPrefixOf line

def keywords : List String := ["interface ", "type ", "enum "]

/-- The name that a line declares, if it begins a declaration. -/
def declaredName? (line : List Char) : Option (List Char) :=
  let rest := (afterText? "export ".toList line).getD line
  (keywords.findSome? fun w => afterText? w.toList rest).map (·.takeWhile (· ≠ ' '))

def importLines (a : Artifact) : List String :=
  ((pieces '\n' a.contents.toList).filter isImportLine).map String.ofList

def declaredNames (a : Artifact) : List String :=
  ((pieces '\n' a.contents.toList).filterMap declaredName?).map String.ofList

theorem Inert.not_import {l : List Char} (h : Inert l) : isImportLine l = false := by
  cases l with
  | nil => rfl
  | cons c cs => rcases h c rfl with rfl | rfl | rfl <;> rfl

theorem Inert.declares_nothing {l : List Char} (h : Inert l) : declaredName? l = none := by
  cases l with
  | nil => rfl
  | cons c cs =>
    rcases h c rfl with rfl | rfl | rfl <;> rfl

theorem filter_inert {cs : List Char} (h : Block Inert cs) (ds : List Char) :
    (pieces '\n' (cs ++ ds)).filter isImportLine = (pieces '\n' ds).filter isImportLine ∧
      (pieces '\n' (cs ++ ds)).filterMap declaredName? =
        (pieces '\n' ds).filterMap declaredName? := by
  obtain ⟨ls, rfl, hl⟩ := h
  rw [pieces_ofLines fun l h => (hl l h).1, List.filter_append, List.filterMap_append]
  constructor
  · rw [List.filter_eq_nil_iff.mpr fun l h => by simp [(hl l h).2.not_import], List.nil_append]
  · rw [List.filterMap_eq_nil_iff.mpr fun l h => (hl l h).2.declares_nothing, List.nil_append]

/-! ## Declarations -/

theorem declaredName?_eq (config : Config) {w : String} (hw : w ∈ keywords) {ident : String}
    (hi : Word ident) (rest : List Char) :
    let line := (exportWord config).toList ++ w.toList ++ ident.toList ++ ' ' :: rest
    isImportLine line = false ∧ declaredName? line = some ident.toList := by
  have htake : (ident.toList ++ ' ' :: rest).takeWhile (· ≠ ' ') = ident.toList := by
    rw [List.takeWhile_append_of_pos]
    · simp
    · intro c hc
      simpa using fun hs : c = ' ' => hi.space_not_mem (hs ▸ hc)
  simp only [keywords, List.mem_cons, List.not_mem_nil, or_false] at hw
  unfold exportWord
  rcases hw with rfl | rfl | rfl <;> split <;>
    simp_all [isImportLine, declaredName?, afterText?, keywords, List.isPrefixOf_cons_cons]

/-- A declaration of `ident`: comments, the line that begins it, and its members. -/
structure Declaration (ident : String) (cs : List Char) : Prop where
  parts : ∃ docs line members, cs = docs ++ (line ++ '\n' :: members) ∧ Block Inert docs ∧
    Block Inert members ∧ '\n' ∉ line ∧ isImportLine line = false ∧
    declaredName? line = some ident.toList
  ending : ∃ front c, cs = front ++ [c, '\n'] ∧ isSpace c = false

theorem Declaration.read {ident : String} {cs : List Char} (h : Declaration ident cs) :
    (pieces '\n' cs).filter isImportLine = [] ∧
      (pieces '\n' cs).filterMap declaredName? = [ident.toList] := by
  obtain ⟨docs, line, members, rfl, hdocs, hmembers, hline, himport, hname⟩ := h.parts
  have hd := filter_inert hdocs (line ++ '\n' :: members)
  have hm := filter_inert hmembers []
  have hblank : (pieces '\n' []).filter isImportLine = [] := rfl
  have hblank' : (pieces '\n' []).filterMap declaredName? = [] := rfl
  rw [List.append_nil, hblank, hblank'] at hm
  rw [hd.1, hd.2, pieces_append, pieces_of_not_mem hline, List.filter_append,
    List.filterMap_append, hm.1, hm.2]
  simp only [List.filter_cons, List.filter_nil, List.filterMap_cons, List.filterMap_nil, himport,
    hname]
  exact ⟨rfl, rfl⟩

theorem memberLine_block {a b c tail : String} (ha : OneLine a) (hb : OneLine b) (hc : OneLine c)
    (t : List Char) (htail : tail.toList = t ++ ['\n']) (ht : '\n' ∉ t) :
    Block Inert ("  " ++ a ++ b ++ c ++ tail).toList := by
  refine .line (("  " ++ a ++ b ++ c).toList ++ t) (by simp [htail]) ?_ ?_
  · have : OneLine ("  " ++ a ++ b ++ c) := by
      simp only [oneLine_append, ha, hb, hc]
      decide
    exact fun hm => (List.mem_append.mp hm).elim this ht
  · simp [Inert]

section

variable {config : Config} {remap : Remap}

theorem fieldLine_refers (hr : remap.Valid) {f : Field} (hname : isValidName f.name = true)
    (hw : f.schema.WellFormed) :
    Refers (fieldLine config remap f) (f.schema.mentions.map remap.applyName)
      fun line => Block Inert line.toList := by
  have hf := oneLine_of_isValidName hname
  unfold fieldLine
  split
  · rename_i s hs _
    rw [← Schema.mentions_of_nullable? hs]
    refine (typeOf_refers hr s (hw.of_nullable? hs)).map fun t ht => ?_
    exact memberLine_block hf (by decide) ht [';'] rfl (by decide)
  · rename_i s hs _
    rw [← Schema.mentions_of_nullable? hs]
    refine (typeOf_refers hr s (hw.of_nullable? hs)).map fun t ht => ?_
    exact memberLine_block hf (by decide) ht " | null;".toList rfl (by decide)
  · refine (typeOf_refers hr f.schema hw).map fun t ht => ?_
    exact memberLine_block hf (by decide) ht [';'] rfl (by decide)

theorem fieldTexts_refers (config : Config) (hr : remap.Valid) {fs : List Field}
    (hw : Schema.FieldsWellFormed fs) :
    Refers (fieldTexts config remap fs)
      ((fs.flatMap fun f => f.schema.mentions).map remap.applyName)
      fun text => Block Inert text.toList := by
  induction fs with
  | nil => exact .pure .nil
  | cons f fs ih =>
    have hdocs := docComment_block "  " (by simp) (fieldDocs f)
    rw [fieldTexts, List.flatMap_cons, List.map_append]
    refine (fieldLine_refers hr hw.1 hw.2.1).bind fun line hline => ?_
    refine (ih hw.2.2).map fun text htext => ?_
    rw [String.toList_append, String.toList_append]
    exact (hdocs.append hline).append htext

theorem word_memberName {used : List String} {symbol : String} (h : Word symbol) :
    Word (memberName used symbol) := by
  unfold memberName
  refine word_firstFree fun k => word_numbered ?_ (by decide) k
  split
  · exact h.pascal
  · exact h

theorem word_memberNames {symbols : List String} (h : ∀ s ∈ symbols, Word s) (used : List String) :
    ∀ m ∈ memberNames used symbols, Word m.1 := by
  induction symbols generalizing used with
  | nil => simp [memberNames]
  | cons s ss ih =>
    have hm : Word (memberName used s) := word_memberName (h s List.mem_cons_self)
    intro m hmem
    rw [memberNames] at hmem
    rcases List.mem_cons.mp hmem with rfl | hmem
    · exact hm
    · exact ih (fun t ht => h t (List.mem_cons_of_mem _ ht)) _ m hmem

theorem Declaration.intro (config : Config) {docs w ident tail : String}
    (hdocs : Block Inert docs.toList) (hw : w ∈ keywords) (hi : Word ident) (t members : List Char)
    (htail : tail.toList = ' ' :: t ++ '\n' :: members) (ht : '\n' ∉ t) (hm : Block Inert members)
    (hend : ∃ front c, tail.toList = front ++ [c, '\n'] ∧ isSpace c = false) :
    Declaration ident (docs ++ exportWord config ++ w ++ ident ++ tail).toList where
  parts := by
    have hline := declaredName?_eq config hw hi t
    refine ⟨docs.toList, (exportWord config).toList ++ w.toList ++ ident.toList ++ ' ' :: t,
      members, by simp [htail], hdocs, hm, ?_, hline⟩
    have hexport : OneLine (exportWord config) := by unfold exportWord; split <;> decide
    have hword : OneLine w := by
      simp only [keywords, List.mem_cons, List.not_mem_nil, or_false] at hw
      rcases hw with rfl | rfl | rfl <;> decide
    simp only [List.mem_append, List.mem_cons, not_or]
    exact ⟨⟨⟨hexport, hword⟩, hi.oneLine⟩, by decide, ht⟩
  ending := by
    obtain ⟨front, c, he, hc⟩ := hend
    exact ⟨(docs ++ exportWord config ++ w ++ ident).toList ++ front, c, by simp [he], hc⟩

theorem enumMembers_block {symbols : List String} (hs : ∀ s ∈ symbols, Word s) :
    Block Inert (String.join ((memberNames [] symbols).map fun (m, s) =>
      "  " ++ m ++ " = " ++ literal s ++ ",\n")).toList := by
  rw [String.toList_join]
  refine .flatMap fun l hl => ?_
  obtain ⟨⟨m, s⟩, hm, rfl⟩ := List.mem_map.mp hl
  exact memberLine_block (word_memberNames hs [] _ hm).oneLine (by decide) (oneLine_literal s)
    [','] rfl (by decide)

theorem oneLine_enumUnion (symbols : List String) :
    OneLine (if symbols.isEmpty then "never" else joinWith " | " (symbols.map literal)) := by
  split
  · decide
  · refine oneLine_joinWith (by decide) fun l hl => ?_
    obtain ⟨s, -, rfl⟩ := List.mem_map.mp hl
    exact oneLine_literal s

theorem Declaration.braces (config : Config) {docs w ident members : String}
    (hdocs : Block Inert docs.toList) (hw : w ∈ keywords) (hi : Word ident) (hm : Block Inert members.toList) :
    Declaration ident
      (docs ++ exportWord config ++ w ++ ident ++ (" \x7b\n" ++ members ++ "\x7d\n")).toList := by
  have hclose : Block Inert ['\x7d', '\n'] := .line ['\x7d'] rfl (by decide) (by simp [Inert])
  exact .intro config hdocs hw hi ['\x7b'] (members.toList ++ ['\x7d', '\n']) (by simp) (by decide)
    (hm.append hclose) ⟨(" \x7b\n" ++ members).toList, '\x7d', by simp, by decide⟩

theorem Declaration.short (config : Config) {docs ident body : String}
    (hdocs : Block Inert docs.toList) (hi : Word ident) (hb : OneLine body) :
    Declaration ident
      (docs ++ exportWord config ++ "type " ++ ident ++ (" = " ++ body ++ ";\n")).toList := by
  refine .intro config hdocs (by decide) hi (("= " ++ body).toList ++ [';']) [] (by simp) ?_ .nil
    ⟨(" = " ++ body).toList, ';', by simp, by decide⟩
  simpa [OneLine] using hb

theorem enumBody_declares {docs : String} (hdocs : Block Inert docs.toList) {ident : String}
    (hi : Word ident) {symbols : List String} (hs : ∀ s ∈ symbols, Word s) (style : EnumStyle) :
    Declaration ident (docs ++ exportWord config ++ enumBody style ident symbols).toList := by
  cases style with
  | union =>
    have h := Declaration.short config hdocs hi (oneLine_enumUnion symbols)
    rw [enumBody]
    simpa only [String.append_assoc] using h
  | enum =>
    have h := Declaration.braces config (w := "enum ") hdocs (by decide) hi
      (enumMembers_block hs)
    rw [enumBody]
    simpa only [String.append_assoc] using h

theorem declaration_record (h : RecordHead) (fields : List Field) (sc : Scope) :
    declaration config remap (.record h fields) sc =
      (docComment "" h.doc.toList ++ exportWord config ++ "interface " ++
        declaredIdentifier sc.self ++ " \x7b\n" ++ (fieldTexts config remap fields sc).1 ++
        "\x7d\n",
        (fieldTexts config remap fields sc).2) := rfl

theorem declaration_enum (e : EnumType) (sc : Scope) :
    declaration config remap (.enum e) sc =
      (docComment "" e.doc.toList ++ exportWord config ++
        enumBody config.enums (declaredIdentifier sc.self) e.symbols, sc) := rfl

theorem declaration_fixed (f : FixedType) (sc : Scope) :
    declaration config remap (.fixed f) sc =
      (docComment "" [s!"Fixed size: {f.size} bytes."] ++ exportWord config ++ "type " ++
        declaredIdentifier sc.self ++ " = Uint8Array;\n", sc) := rfl

/-- A declaration mentions the types in the fields of a record, and declares its own name. -/
theorem declaration_spec (config : Config) (hr : remap.Valid) {s : Schema} (hs : s.name? ≠ none)
    (hw : s.WellFormed) {self : FullName} (hself : self.Valid) :
    Mentioned (declaration config remap s (Scope.empty self)).2
        (s.fieldMentions.map remap.applyName) ∧
      (declaration config remap s (Scope.empty self)).2.self = self ∧
      Declaration (declaredIdentifier self)
        (declaration config remap s (Scope.empty self)).1.toList := by
  have hi := word_declaredIdentifier hself
  have hempty := Mentioned.empty hself
  cases s with
  | record h fields =>
    obtain ⟨hm, hself', hbody⟩ := fieldTexts_refers config hr hw.2.2 _ _ hempty
    rw [declaration_record]
    refine ⟨hm, hself', ?_⟩
    have hd := Declaration.braces config (w := "interface ")
      (docComment_block "" (by simp) h.doc.toList) (by decide) hi hbody
    simpa only [Scope.empty, String.append_assoc] using hd
  | enum e =>
    have hw : e.WellFormed := hw
    rw [declaration_enum]
    refine ⟨hempty, rfl, ?_⟩
    exact enumBody_declares (docComment_block _ (by simp) _) hi
      (fun s hs => .of_isValidName (hw.symbols s hs)) config.enums
  | fixed f =>
    rw [declaration_fixed]
    refine ⟨hempty, rfl, ?_⟩
    have hd := Declaration.short config
      (docComment_block "" (by simp) [s!"Fixed size: {f.size} bytes."]) hi
      (show OneLine "Uint8Array" by decide)
    have he : " = " ++ "Uint8Array" ++ ";\n" = " = Uint8Array;\n" := by decide
    rw [he] at hd
    exact hd
  | _ => exact absurd rfl hs

/-! ## Files -/

theorem headerText_block (header : Option String) : Block Inert (headerText header).toList := by
  unfold headerText
  split
  · exact .nil
  · rename_i h
    rw [String.toList_append, String.toList_join, List.flatMap_map]
    refine .append (.flatMap fun l hl => ?_) (.line [] (by simp) (by simp) (by simp [Inert]))
    split
    · exact .line "//".toList rfl (by decide) (by simp [Inert])
    · have hn := newline_not_mem_lines hl
      exact .line ("// ".toList ++ l) (by simp) (by simpa using hn) (by simp [Inert])

theorem oneLine_importPath {source target : FullName} (ht : target.Valid) :
    OneLine (importPath source target) := by
  obtain ⟨common, up, down, -, -, he, -, hv⟩ := importSteps_eq source ht
  have hsteps : ∀ s ∈ importSteps source target, OneLine s := by
    intro s hs
    rw [he] at hs
    rcases List.mem_append.mp hs with hs | hs
    · obtain ⟨_, _, rfl⟩ := List.mem_map.mp hs
      decide
    · exact oneLine_of_isValidName (hv s hs)
  have hjoin := oneLine_joinWith (show OneLine "/" by decide) hsteps
  unfold importPath
  simp only
  split
  · exact hjoin
  · exact oneLine_append.mpr ⟨by decide, hjoin⟩

theorem import_line {i : Import} (he : OneLine i.exported) (hl : OneLine i.localName)
    (hp : OneLine i.path) : ∃ line, i.line = String.ofList line ++ "\n" ∧ '\n' ∉ line ∧
      isImportLine line = true ∧ declaredName? line = none := by
  have hnames : OneLine (if i.exported = i.localName then i.exported
      else i.exported ++ " as " ++ i.localName) := by
    split
    · exact he
    · simp only [oneLine_append, he, hl]
      decide
  unfold Import.line
  generalize (if i.exported = i.localName then i.exported
    else i.exported ++ " as " ++ i.localName) = names at hnames
  refine ⟨("import type \x7b " ++ names ++ " \x7d from \"" ++ i.path ++ "\";").toList,
    ?_, ?_, ?_, ?_⟩
  · rw [String.ofList_toList]
    simp only [String.append_assoc]
    rfl
  · show OneLine _
    simp only [oneLine_append, hnames, hp]
    decide
  · simp [isImportLine]
  · simp [declaredName?, afterText?, keywords]

/-- The names in an import stand on one line. -/
def Import.Plain (i : Import) : Prop := OneLine i.exported ∧ OneLine i.localName ∧ OneLine i.path

/-- Import lines at the front of a text are its first import lines, and declare nothing. -/
theorem filter_imports {imports : List Import} (h : ∀ i ∈ imports, i.Plain) (cs : List Char) :
    ((pieces '\n' ((imports.flatMap fun i => i.line.toList) ++ cs)).filter isImportLine).map
        (fun l => String.ofList l ++ "\n") =
      imports.map Import.line ++
        ((pieces '\n' cs).filter isImportLine).map (fun l => String.ofList l ++ "\n") ∧
    (pieces '\n' ((imports.flatMap fun i => i.line.toList) ++ cs)).filterMap declaredName? =
      (pieces '\n' cs).filterMap declaredName? := by
  induction imports with
  | nil => exact ⟨rfl, rfl⟩
  | cons i is ih =>
    obtain ⟨he, hl, hp⟩ := h i List.mem_cons_self
    obtain ⟨line, hi, hn, himport, hname⟩ := import_line he hl hp
    have ih := ih fun j hj => h j (List.mem_cons_of_mem _ hj)
    have htext : ((i :: is).flatMap fun i => i.line.toList) ++ cs =
        line ++ '\n' :: ((is.flatMap fun i => i.line.toList) ++ cs) := by simp [hi]
    rw [htext, pieces_append, pieces_of_not_mem hn]
    simp [himport, hname, ih.1, ih.2, hi]

theorem filter_importText {imports : List Import} (h : ∀ i ∈ imports, i.Plain) (cs : List Char) :
    ((pieces '\n' ((importText imports).toList ++ cs)).filter isImportLine).map
        (fun l => String.ofList l ++ "\n") =
      imports.map Import.line ++
        ((pieces '\n' cs).filter isImportLine).map (fun l => String.ofList l ++ "\n") ∧
    (pieces '\n' ((importText imports).toList ++ cs)).filterMap declaredName? =
      (pieces '\n' cs).filterMap declaredName? := by
  unfold importText
  split
  · rename_i he
    cases List.isEmpty_iff.mp he
    exact ⟨rfl, rfl⟩
  · have hblank : pieces '\n' ('\n' :: cs) = [] :: pieces '\n' cs := rfl
    have := filter_imports h ('\n' :: cs)
    rw [hblank] at this
    rw [String.toList_append, String.toList_join, List.flatMap_map, List.append_assoc]
    exact this

/-- A text that ends with a newline after something that is no blank stays as it is. -/
theorem endOnce_eq {s : String} (h : ∃ front c, s.toList = front ++ [c, '\n'] ∧ isSpace c = false) :
    endOnce s = s := by
  obtain ⟨front, c, hs, hc⟩ := h
  rw [← String.toList_inj, endOnce, String.toList_ofList, hs,
    trimEnd_append hc (show ∀ b ∈ ['\n'], isSpace b = true by simp; decide)]
  simp

/-- The file of a type has the imports that its declaration asks for, and declares the type. -/
theorem emit_lines (config : Config) (hr : remap.Valid) {s : Schema} (hs : s.name? ≠ none)
    (hw : s.WellFormed) {self : FullName} (hself : self.Valid) :
    (importLines (emit config remap self s)).map (· ++ "\n") =
        (declaration config remap s (Scope.empty self)).2.imports.map Import.line ∧
      declaredNames (emit config remap self s) = [declaredIdentifier self] := by
  obtain ⟨hm, -, hd⟩ := declaration_spec config hr hs hw hself
  rcases hdecl : declaration config remap s (Scope.empty self) with ⟨body, sc⟩
  rw [hdecl] at hm hd
  have hplain : ∀ i ∈ sc.imports, i.Plain := by
    intro i hi
    obtain ⟨link, hl, rfl⟩ := List.mem_map.mp (hm.imports.mem_iff.mp hi)
    have hv := hm.valid _ ((hm.known _).mp (List.mem_map_of_mem hl)).1
    exact ⟨(word_declaredIdentifier hv).oneLine, (hm.words _ hl).oneLine, oneLine_importPath hv⟩
  have htext : (emit config remap self s).contents =
      headerText config.header ++ importText sc.imports ++ body := by
    simp only [emit, hdecl]
    refine endOnce_eq ?_
    obtain ⟨front, c, he, hc⟩ := hd.ending
    exact ⟨(headerText config.header ++ importText sc.imports).toList ++ front, c,
      by simp [he], hc⟩
  have hheader := filter_inert (headerText_block config.header)
    ((importText sc.imports).toList ++ body.toList)
  have himports := filter_importText hplain body.toList
  have hread := hd.read
  unfold importLines declaredNames
  simp only [htext, String.toList_append, List.append_assoc]
  rw [hheader.1, hheader.2, himports.2, hread.2]
  refine ⟨?_, by simp⟩
  rw [List.map_map]
  exact himports.1.trans (by simp [hread.1])

theorem emit_spec (config : Config) (hr : remap.Valid) {s : Schema} (hs : s.name? ≠ none)
    (hw : s.WellFormed) {self : FullName} (hself : self.Valid) :
    ∃ sc, Mentioned sc (s.fieldMentions.map remap.applyName) ∧ sc.self = self ∧
      (importLines (emit config remap self s)).map (· ++ "\n") = sc.imports.map Import.line ∧
      declaredNames (emit config remap self s) = [declaredIdentifier self] := by
  obtain ⟨hm, hself', -⟩ := declaration_spec config hr hs hw hself
  exact ⟨_, hm, hself', emit_lines config hr hs hw hself⟩

end

end AvroLink.TypeScript
