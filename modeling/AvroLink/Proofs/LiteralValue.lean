import Mathlib.Logic.Function.Basic
import AvroLink.Json.Token
import AvroLink.Text.Literal

/-!
# The value of a literal

The value of a literal is a sequence of UTF-16 code units. `readString?` reads it as the language of
the generated files does, from behind the opening quote to the quote that closes the literal: in
between, a line end has no place and a backslash begins an escape sequence (`escapeSequence?`). The
literal of a text is read as the code units of that text (`stringValue`), whatever follows it, so no
two texts have the same literal.
-/

namespace AvroLink.Text

/-! ## Reading a literal -/

/-- The code units of a code point: itself, or a pair of surrogates. -/
def codeUnits (n : Nat) : List UInt16 :=
  if n < 0x10000 then [.ofNat n]
  else [.ofNat (0xD800 + (n - 0x10000) / 0x400), .ofNat (0xDC00 + (n - 0x10000) % 0x400)]

def stringValue (cs : List Char) : List UInt16 := cs.flatMap fun c => codeUnits c.toNat

/-- The number that hexadecimal digits write, of which there is at least one. -/
def hexNumber? (ds : List Char) : Option Nat :=
  if ds = [] then none else ds.foldlM (fun n d => (Json.hexVal? d).map (16 * n + ·)) 0

/-- A code point in braces, by the text behind the opening one, and the rest. -/
def bracedCodePoint? (cs : List Char) : Option (Nat × List Char) :=
  match cs.dropWhile (· ≠ '\x7d') with
  | [] => none
  | _ :: rest => ((hexNumber? (cs.takeWhile (· ≠ '\x7d'))).filter (· ≤ 0x10FFFF)).map (·, rest)

/-- What an escape sequence stands for, by the text behind its backslash, and the rest. A line end
stands for nothing. Numbers are hexadecimal; of the digits only a zero on its own may follow the
backslash. All that has no meaning of its own stands for itself. -/
def escapeSequence? : List Char → Option (List UInt16 × List Char)
  | [] => none
  | '\n' :: cs | '\u2028' :: cs | '\u2029' :: cs => some ([], cs)
  | '\r' :: '\n' :: cs => some ([], cs)
  | '\r' :: cs => some ([], cs)
  | 'b' :: cs => some ([0x08], cs)
  | 't' :: cs => some ([0x09], cs)
  | 'n' :: cs => some ([0x0A], cs)
  | 'v' :: cs => some ([0x0B], cs)
  | 'f' :: cs => some ([0x0C], cs)
  | 'r' :: cs => some ([0x0D], cs)
  | 'x' :: a :: b :: cs => (hexNumber? [a, b]).map fun n => (codeUnits n, cs)
  | 'u' :: '\x7b' :: cs => (bracedCodePoint? cs).map fun (n, rest) => (codeUnits n, rest)
  | 'u' :: a :: b :: c :: d :: cs => (hexNumber? [a, b, c, d]).map fun n => (codeUnits n, cs)
  | '0' :: cs => if cs.head?.any Char.isDigit then none else some ([0], cs)
  | c :: cs => if c.isDigit || c == 'x' || c == 'u' then none else some (codeUnits c.toNat, cs)

theorem length_bracedCodePoint? {cs rest : List Char} {n : Nat}
    (h : bracedCodePoint? cs = some (n, rest)) : rest.length < cs.length := by
  have hdrop := Json.length_dropWhile_le (· ≠ '\x7d') cs
  unfold bracedCodePoint? at h
  split at h
  · cases h
  · next hrest =>
    obtain ⟨m, -, hm⟩ := Option.map_eq_some_iff.mp h
    cases hm
    rw [hrest, List.length_cons] at hdrop
    omega

theorem length_escapeSequence? {cs rest : List Char} {us : List UInt16}
    (h : escapeSequence? cs = some (us, rest)) : rest.length < cs.length := by
  have hmap : ∀ {o : Option Nat} {r : List Char},
      (o.map fun n => (codeUnits n, r)) = some (us, rest) → r = rest := fun h => by
    obtain ⟨n, -, he⟩ := Option.map_eq_some_iff.mp h
    exact (Prod.mk.inj he).2
  unfold escapeSequence? at h
  split at h
  -- a number in braces, one of two and one of four digits; all other rests stand in the pattern
  case h_14 cs =>
    obtain ⟨⟨n, r⟩, hbraced, he⟩ := Option.map_eq_some_iff.mp h
    cases he
    have := length_bracedCodePoint? hbraced
    simp only [List.length_cons]
    omega
  case h_13 | h_15 =>
    rw [← hmap h]
    simp only [List.length_cons]
    omega
  all_goals grind

/-- The value of a literal, by the text behind its opening quote, and the rest behind the quote that
closes it. -/
def readString? (cs : List Char) : Option (List UInt16 × List Char) :=
  match cs with
  | [] => none
  | c :: cs =>
    if c = '"' then some ([], cs)
    else if c = '\n' ∨ c = '\r' then none
    else if c = '\\' then
      match _h : escapeSequence? cs with
      | none => none
      | some (us, rest) => (readString? rest).map fun (vs, rest) => (us ++ vs, rest)
    else (readString? cs).map fun (vs, rest) => (codeUnits c.toNat ++ vs, rest)
termination_by cs.length
decreasing_by
  · have := length_escapeSequence? _h
    simp
    omega
  · simp

/-- Whether every quote in a text is escaped, and so will be the one behind it not. A backslash
escapes the character behind it. -/
def quotesEscaped : List Char → Bool
  | [] => true
  | ['\\'] => false
  | '\\' :: _ :: cs => quotesEscaped cs
  | c :: cs => c ≠ '"' && quotesEscaped cs

/-! ## Code units of a text -/

/-- The code units at the front of a sequence tell the character they stand for. -/
theorem codeUnits_append_inj {c d : Char} {us vs : List UInt16}
    (h : codeUnits c.toNat ++ us = codeUnits d.toNat ++ vs) : c = d ∧ us = vs := by
  have hc : c.toNat < 0xD800 ∨ 0xDFFF < c.toNat ∧ c.toNat < 0x110000 := c.valid
  have hd : d.toNat < 0xD800 ∨ 0xDFFF < d.toNat ∧ d.toNat < 0x110000 := d.valid
  have hunit : ∀ {m n : Nat}, UInt16.ofNat m = UInt16.ofNat n → m % 2 ^ 16 = n % 2 ^ 16 :=
    fun h => by simpa only [UInt16.toNat_ofNat'] using congrArg UInt16.toNat h
  have hchar : c.toNat = d.toNat → c = d := Char.toNat_inj.mp
  unfold codeUnits at h
  -- no character is a surrogate, so a single unit is no first half of a pair
  split at h <;> split at h <;>
    simp only [List.cons_append, List.nil_append, List.cons.injEq] at h
  · have := hunit h.1
    exact ⟨hchar (by omega), h.2⟩
  · have := hunit h.1
    omega
  · have := hunit h.1
    omega
  · have := hunit h.1
    have := hunit h.2.1
    exact ⟨hchar (by omega), h.2.2⟩

theorem stringValue_injective : Function.Injective stringValue := by
  have hne : ∀ n, codeUnits n ≠ [] := fun n => by unfold codeUnits; split <;> simp
  intro cs ds h
  induction cs generalizing ds with
  | nil =>
    cases ds with
    | nil => rfl
    | cons d ds => exact absurd (List.append_eq_nil_iff.mp h.symm).1 (hne _)
  | cons c cs ih =>
    cases ds with
    | nil => exact absurd (List.append_eq_nil_iff.mp h).1 (hne _)
    | cons d ds =>
      obtain ⟨rfl, hrest⟩ := codeUnits_append_inj h
      rw [ih hrest]

/-! ## Reading what was written -/

/-- What stands for a character in a literal is the character, or a backslash and another one that
make an escape sequence for it. -/
theorem escapeChar_cases (c : Char) :
    (escapeChar c = [c] ∧ c ≠ '"' ∧ c ≠ '\\' ∧ c ≠ '\n' ∧ c ≠ '\r') ∨
    ∃ e, escapeChar c = ['\\', e] ∧ e ≠ '\n' ∧ e ≠ '\r' ∧
      ∀ cs, escapeSequence? (e :: cs) = some (codeUnits c.toNat, cs) := by
  unfold escapeChar
  split
  case h_6 => exact .inl (by simp_all)
  all_goals exact .inr ⟨_, rfl, by decide, by decide, fun _ => rfl⟩

theorem readString?_escapeChar (c : Char) {s rest : List Char} {us : List UInt16}
    (h : readString? s = some (us, rest)) :
    readString? (escapeChar c ++ s) = some (codeUnits c.toNat ++ us, rest) := by
  rcases escapeChar_cases c with ⟨he, hquote, hback, hline, hreturn⟩ | ⟨e, he, -, -, hseq⟩
  · rw [he, List.singleton_append, readString?, if_neg hquote, if_neg (by simp [hline, hreturn]),
      if_neg hback, h, Option.map_some]
  · rw [he, List.cons_append, List.singleton_append, readString?, if_neg (by decide),
      if_neg (by decide), if_pos rfl]
    split
    · next hnone => simp [hseq] at hnone
    · next hsome =>
      rw [hseq] at hsome
      cases hsome
      rw [h, Option.map_some]

/-- A text that is written in a literal is read from there, up to the quote behind it. -/
theorem readString?_escape (cs rest : List Char) :
    readString? (escape cs ++ '"' :: rest) = some (stringValue cs, rest) := by
  induction cs with
  | nil => rw [escape, List.flatMap_nil, List.nil_append, readString?, if_pos rfl]; rfl
  | cons c cs ih =>
    rw [escape, List.flatMap_cons, List.append_assoc]
    exact readString?_escapeChar c ih

theorem quotesEscaped_escapeChar (c : Char) (s : List Char) :
    quotesEscaped (escapeChar c ++ s) = quotesEscaped s := by
  rcases escapeChar_cases c with ⟨he, hquote, hback, -⟩ | ⟨e, he, -⟩
  · rw [he, List.singleton_append]
    cases s <;> simp [quotesEscaped, hquote, hback]
  · rw [he]
    rfl

theorem quotesEscaped_escape (cs : List Char) : quotesEscaped (escape cs) = true := by
  induction cs with
  | nil => rfl
  | cons c cs ih =>
    rw [escape, List.flatMap_cons, quotesEscaped_escapeChar]
    exact ih

theorem lineEnd_not_mem_escape (cs : List Char) : '\n' ∉ escape cs ∧ '\r' ∉ escape cs := by
  have hchar : ∀ c, '\n' ∉ escapeChar c ∧ '\r' ∉ escapeChar c := by
    intro c
    rcases escapeChar_cases c with ⟨he, -, -, hline, hreturn⟩ | ⟨e, he, hline, hreturn, -⟩ <;>
      simp [he, Ne.symm hline, Ne.symm hreturn]
  simp only [escape, List.mem_flatMap, not_exists, not_and]
  exact ⟨fun c _ => (hchar c).1, fun c _ => (hchar c).2⟩

/-- A literal starts and ends with a quote; in between are no line ends, and all quotes are escaped
while the last one is not. From behind its opening quote it is read as the text that it was written
for, whatever follows it. So different texts have different literals. -/
theorem literal_reads :
    (∀ s : String, ∃ body : String, literal s = "\"" ++ body ++ "\"" ∧
      '\n' ∉ body.toList ∧ '\r' ∉ body.toList ∧ quotesEscaped body.toList = true ∧
      ∀ rest : String, readString? (body ++ "\"" ++ rest).toList =
        some (stringValue s.toList, rest.toList)) ∧
    Function.Injective literal := by
  have hliteral : ∀ s, (literal s).toList = '"' :: (escape s.toList ++ ['"']) := fun s => by
    simp [literal]
  refine ⟨fun s => ⟨String.ofList (escape s.toList), ?_, ?_, ?_, ?_, fun rest => ?_⟩, ?_⟩
  · rw [← String.toList_inj, hliteral]
    simp
  · rw [String.toList_ofList]
    exact (lineEnd_not_mem_escape _).1
  · rw [String.toList_ofList]
    exact (lineEnd_not_mem_escape _).2
  · rw [String.toList_ofList]
    exact quotesEscaped_escape _
  · simpa using readString?_escape s.toList rest.toList
  · intro s t h
    have hbody : escape s.toList ++ ['"'] = escape t.toList ++ ['"'] := by
      have h := congrArg String.toList h
      rw [hliteral, hliteral] at h
      exact (List.cons.inj h).2
    have hread := congrArg readString? hbody
    rw [readString?_escape, readString?_escape] at hread
    exact String.toList_inj.mp (stringValue_injective (Prod.mk.inj (Option.some.inj hread)).1)

end AvroLink.Text
