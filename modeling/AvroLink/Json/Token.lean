import AvroLink.Json.Fault

/-!
# Words, numbers and strings of JSON

Each reader takes the characters that are left and returns a value with the
characters left after it. A `Step` holds the proof that something was
consumed, so that what is built of such readers ends.

A number is an integer when it has neither fraction nor exponent and fits 64
bits; `-0` and all others are doubles. A double is computed from the leading
digits that fit 64 bits and a power of ten, each rounded.
-/

namespace AvroLink.Json

/-- A value read from `s` and what is left of `s`. -/
structure Step (s : List Char) (α : Type) where
  value : α
  rest : List Char
  shorter : rest.length < s.length

namespace Step

variable {s t : List Char} {α β : Type}

/-- The same step seen from a longer text. -/
def weaken (h : s.length ≤ t.length) (p : Step s α) : Step t α :=
  ⟨p.value, p.rest, Nat.lt_of_lt_of_le p.shorter h⟩

def map (f : α → β) (p : Step s α) : Step s β := ⟨f p.value, p.rest, p.shorter⟩

/-- A step over one character. -/
def first (c : Char) (r : List Char) (x : α) : Step (c :: r) α := ⟨x, r, Nat.lt_succ_self _⟩

/-- The same step seen from the character before it. -/
def behind (c : Char) (p : Step s α) : Step (c :: s) α := p.weaken (Nat.le_succ _)

end Step

def isBlank (c : Char) : Bool := c == ' ' || c == '\n' || c == '\t' || c == '\r'

def skipBlank (s : List Char) : List Char := s.dropWhile isBlank

theorem length_dropWhile_le {α : Type} (p : α → Bool) (s : List α) :
    (s.dropWhile p).length ≤ s.length :=
  (List.dropWhile_suffix p).length_le

theorem length_skipBlank_le (s : List Char) : (skipBlank s).length ≤ s.length :=
  length_dropWhile_le isBlank s

theorem length_le_of_skipBlank {s t : List Char} (h : skipBlank s = t) : t.length ≤ s.length :=
  h ▸ length_skipBlank_le s

theorem length_lt_of_skipBlank {s r : List Char} {c : Char} (h : skipBlank s = c :: r) :
    r.length < s.length :=
  length_le_of_skipBlank h

/-- The same step seen from before the blanks in front of it. -/
def Step.blanks {s r : List Char} {c : Char} {α : Type} (h : skipBlank s = c :: r)
    (p : Step (c :: r) α) : Step s α :=
  p.weaken (length_le_of_skipBlank h)

/-- The rest of a word whose first letter was read. -/
def word : List Char → List Char → Except Fault (List Char)
  | [], s => .ok s
  | _ :: _, [] => .error (.here .eofValue [])
  | w :: ws, c :: cs => if w = c then word ws cs else .error (.past 1 .expectedIdent (c :: cs))

theorem length_le_of_word {w s r : List Char} (h : word w s = .ok r) : r.length ≤ s.length := by
  induction w generalizing s with
  | nil => simp [word] at h; simp [h]
  | cons a w ih =>
    cases s with
    | nil => simp [word] at h
    | cons c s =>
      simp only [word] at h
      split at h
      · have := ih h
        simp
        omega
      · simp at h

/-! ## Numbers -/

/-- The parts of a number as written. -/
structure Numeral where
  negative : Bool
  whole : List Char
  fraction : List Char
  /-- Sign (negative or not) and digits of the exponent. -/
  exponent : Option (Bool × List Char)

def digitVal (c : Char) : Nat := c.toNat - '0'.toNat

def word64 : Nat := UInt64.size

/-- Take digits into `n` as long as it fits 64 bits; also the digits that did not. -/
def gather : Nat → List Char → Nat × List Char
  | n, [] => (n, [])
  | n, d :: ds =>
    if n * 10 + digitVal d < word64 then gather (n * 10 + digitVal d) ds else (n, d :: ds)

/-- `mantissa * 10 ^ exponent`, `none` when out of range. -/
def scale : Nat → Float → Int → Option Float
  | 0, x, _ => some x
  | fuel + 1, x, e =>
    if e.natAbs ≤ 308 then
      if 0 ≤ e then
        let y := x * Float.ofScientific 1 false e.natAbs
        if y.isInf then none else some y
      else some (x / Float.ofScientific 1 false e.natAbs)
    else if x == 0.0 then some x
    else if 0 ≤ e then none
    else scale fuel (x / Float.ofScientific 1 false 308) (e + 308)

/-- The digits of an exponent up to the first at which it no longer fits 31 bits, and the
digits after that one. -/
def gatherExponent : Nat → List Char → Nat ⊕ List Char
  | n, [] => .inl n
  | n, d :: ds =>
    if n * 10 + digitVal d < 2 ^ 31 then gatherExponent (n * 10 + digitVal d) ds else .inr ds

def signed (negative : Bool) (x : Float) : Float := if negative then -x else x

/-- The value of a numeral that `rest` follows. -/
def Numeral.value (n : Numeral) (rest : List Char) : Except Fault Number := do
  let (significand, spill) := gather 0 n.whole
  if spill = [] ∧ n.fraction = [] ∧ n.exponent = none then
    if n.negative then
      if significand = 0 ∨ word64 / 2 < significand then
        return .float (-(UInt64.ofNat significand).toFloat)
      else return .int (-significand)
    else return .int significand
  else
    let (significand, spare) := gather significand n.fraction
    let shift : Int := spill.length - (n.fraction.length - spare.length : Nat)
    let finish (e : Int) : Except Fault Number :=
      match scale (e.natAbs / 308 + 2) (UInt64.ofNat significand).toFloat e with
      | some x => .ok (.float (signed n.negative x))
      | none => .error (.here .numberOutOfRange rest)
    match n.exponent with
    | none => finish shift
    | some (minus, digits) =>
      match gatherExponent 0 digits with
      | .inl e => finish (if minus then shift - e else shift + e)
      | .inr tail =>
        if significand ≠ 0 ∧ ¬ minus then .error (.here .numberOutOfRange (tail ++ rest))
        else return .float (signed n.negative 0.0)

/-- Digits after a point, at least one. -/
def fractionPart : List Char → Except Fault (List Char × List Char)
  | '.' :: s =>
    match s.takeWhile Char.isDigit with
    | [] => .error (.past 1 (if s = [] then .eofValue else .invalidNumber) s)
    | ds => .ok (ds, s.dropWhile Char.isDigit)
  | s => .ok ([], s)

/-- Digits after an optional sign, at least one. -/
def exponentDigits (s : List Char) : Except Fault (List Char × List Char) :=
  match s.takeWhile Char.isDigit with
  | [] => .error (if s = [] then .here .eofValue s else .past 1 .invalidNumber s)
  | ds => .ok (ds, s.dropWhile Char.isDigit)

/-- The sign of an exponent, negative or not. -/
def exponentSign : List Char → Bool × List Char
  | '+' :: s => (false, s)
  | '-' :: s => (true, s)
  | s => (false, s)

def exponentPart : List Char → Except Fault (Option (Bool × List Char) × List Char)
  | c :: s =>
    if c = 'e' ∨ c = 'E' then do
      let (ds, r) ← exponentDigits (exponentSign s).2
      return (some ((exponentSign s).1, ds), r)
    else .ok (none, c :: s)
  | [] => .ok (none, [])

/-- A number after its sign. -/
def numeral (negative : Bool) (s : List Char) : Except Fault (Numeral × List Char) :=
  match s.takeWhile Char.isDigit with
  | [] => .error (if s = [] then .here .eofValue s else .past 1 .invalidNumber s)
  | '0' :: _ :: _ => .error (.past 2 .invalidNumber s)
  | whole => do
    let (fraction, s) ← fractionPart (s.dropWhile Char.isDigit)
    let (exponent, s) ← exponentPart s
    return (⟨negative, whole, fraction, exponent⟩, s)

theorem length_le_of_fractionPart {s : List Char} {p : List Char × List Char}
    (h : fractionPart s = .ok p) : p.2.length ≤ s.length := by
  unfold fractionPart at h
  split at h
  · rename_i s'
    split at h
    · simp at h
    · injection h with h
      subst h
      have := length_dropWhile_le Char.isDigit s'
      simp
      omega
  · injection h with h
    subst h
    simp

theorem length_le_of_exponentDigits {s : List Char} {p : List Char × List Char}
    (h : exponentDigits s = .ok p) : p.2.length ≤ s.length := by
  unfold exponentDigits at h
  split at h
  · simp at h
  · injection h with h
    subst h
    exact length_dropWhile_le Char.isDigit s

theorem length_exponentSign_le (s : List Char) : (exponentSign s).2.length ≤ s.length := by
  unfold exponentSign
  split <;> simp

theorem length_le_of_exponentPart {s : List Char} {p : Option (Bool × List Char) × List Char}
    (h : exponentPart s = .ok p) : p.2.length ≤ s.length := by
  cases s with
  | nil =>
    simp only [exponentPart] at h
    injection h with h
    subst h
    simp
  | cons c s =>
    simp only [exponentPart] at h
    split at h
    · simp only [bind, Except.bind, pure, Except.pure] at h
      split at h
      · simp at h
      · rename_i q hq
        have := length_le_of_exponentDigits hq
        have := length_exponentSign_le s
        injection h with h
        subst h
        simp only [List.length_cons]
        omega
    · injection h with h
      subst h
      simp

theorem length_lt_of_numeral {b : Bool} {s : List Char} {n : Numeral} {r : List Char}
    (h : numeral b s = .ok (n, r)) : r.length < s.length := by
  unfold numeral at h
  split at h
  · simp at h
  · simp at h
  · rename_i whole h1 h2
    have hlen : (s.dropWhile Char.isDigit).length < s.length := by
      have := congrArg List.length (List.takeWhile_append_dropWhile (p := Char.isDigit) (l := s))
      simp only [List.length_append] at this
      cases hw : s.takeWhile Char.isDigit with
      | nil => exact absurd hw h1
      | cons a b => simp [hw] at this; omega
    simp only [bind, Except.bind, pure, Except.pure] at h
    split at h
    · simp at h
    · rename_i q hq
      split at h
      · simp at h
      · rename_i q' hq'
        injection h with h
        injection h with _ h
        subst h
        have := length_le_of_fractionPart hq
        have := length_le_of_exponentPart hq'
        omega

/-- The number after its sign and what is left. -/
def number (negative : Bool) (s : List Char) : Except Fault (Step s Number) :=
  match h : numeral negative s with
  | .error e => .error e
  | .ok (n, r) => do return ⟨← n.value r, r, length_lt_of_numeral h⟩

/-! ## Strings -/

def hexVal? (c : Char) : Option Nat :=
  if c.isDigit then some (c.toNat - '0'.toNat)
  else if 'a' ≤ c ∧ c ≤ 'f' then some (c.toNat - 'a'.toNat + 10)
  else if 'A' ≤ c ∧ c ≤ 'F' then some (c.toNat - 'A'.toNat + 10)
  else none

def hex4? (a b c d : Char) : Option Nat := do
  return (((← hexVal? a) * 16 + (← hexVal? b)) * 16 + (← hexVal? c)) * 16 + (← hexVal? d)

/-- Four hexadecimal digits. -/
def hex4 (s : List Char) : Except Fault (Step s Nat) :=
  let bad := if Text.byteLen s < 4 then Fault.here .eofString [] else .past 4 .invalidEscape s
  match s with
  | a :: b :: c :: d :: r =>
    match hex4? a b c d with
    | some n => .ok ⟨n, r, by simp; omega⟩
    | none => .error bad
  | _ => .error bad

/-- The character after the first half of a pair `high`. -/
def lowSurrogate (high : Nat) (s : List Char) : Except Fault (Step s Char) :=
  match s with
  | [] => .error (.here .eofString [])
  | ['\\'] => .error (.here .eofString [])
  | '\\' :: 'u' :: r => do
    let p ← hex4 r
    if p.value < 0xDC00 ∨ 0xDFFF < p.value then .error (.here .loneSurrogate p.rest)
    else
      let c := Char.ofNat (0x10000 + (high - 0xD800) * 0x400 + (p.value - 0xDC00))
      return ⟨c, p.rest, by have := p.shorter; simp; omega⟩
  | '\\' :: r => .error (.past 1 .endOfHexEscape r)
  | r => .error (.past 1 .endOfHexEscape r)

/-- An escape after its backslash. -/
def escaped (s : List Char) : Except Fault (Step s Char) :=
  match s with
  | [] => .error (.here .eofString [])
  | c :: r =>
    let plain (x : Char) : Except Fault (Step (c :: r) Char) := .ok (.first c r x)
    if c = '"' ∨ c = '\\' ∨ c = '/' then plain c
    else if c = 'b' then plain '\x08'
    else if c = 'f' then plain '\x0c'
    else if c = 'n' then plain '\n'
    else if c = 'r' then plain '\r'
    else if c = 't' then plain '\t'
    else if c = 'u' then do
      let p ← hex4 r
      if 0xDC00 ≤ p.value ∧ p.value ≤ 0xDFFF then .error (.here .loneSurrogate p.rest)
      else if p.value < 0xD800 ∨ 0xDBFF < p.value then
        return (p.map Char.ofNat).behind c
      else
        let q ← lowSurrogate p.value p.rest
        return (q.weaken (Nat.le_of_lt p.shorter)).behind c
    else .error (.past 1 .invalidEscape (c :: r))

/-- The characters of a string after its first quote. -/
def stringChars (s : List Char) : Except Fault (Step s (List Char)) :=
  match s with
  | [] => .error (.here .eofString [])
  | c :: r =>
    if c = '"' then .ok ⟨[], r, by simp⟩
    else if c = '\\' then
      match escaped r with
      | .error e => .error e
      | .ok p => do
        have := p.shorter
        let q ← stringChars p.rest
        return ⟨p.value :: q.value, q.rest, by have := q.shorter; simp; omega⟩
    else if c.toNat < 0x20 then .error (.past 1 .controlCharacter (c :: r))
    else do
      let q ← stringChars r
      return ⟨c :: q.value, q.rest, by have := q.shorter; simp; omega⟩
termination_by s.length
decreasing_by all_goals simp_wf <;> omega

/-- A string after its first quote. -/
def string (s : List Char) : Except Fault (Step s String) := do
  return (← stringChars s).map String.ofList

end AvroLink.Json
