import AvroLink.Json.Reader

/-!
# Reading a JSON text as a value of a known shape

Where something of another shape stands, reading stops at once: behind a word, number or
string that was found instead, before an array or object.
-/

namespace AvroLink.Json

/-- The fault for finding something other than `expected`. -/
def mismatch (expected : String) (s : List Char) : Fault :=
  let wrong (f : Found) (rest : List Char) : Fault := .here (.invalidType f expected) rest
  let afterWord (w : String) (f : Found) (rest : List Char) : Fault :=
    match word w.toList rest with
    | .ok r => wrong f r
    | .error e => e
  match s with
  | [] => .past 1 .expectedValue []
  | c :: r =>
    if c = 'n' then afterWord "ull" .null r
    else if c = 't' then afterWord "rue" (.bool true) r
    else if c = 'f' then afterWord "alse" (.bool false) r
    else if c = '-' then
      match number true r with
      | .ok p => wrong (.number p.value) p.rest
      | .error e => e
    else if c.isDigit then
      match number false (c :: r) with
      | .ok p => wrong (.number p.value) p.rest
      | .error e => e
    else if c = '"' then
      match string r with
      | .ok p => wrong (.string p.value) p.rest
      | .error e => e
    else if c = '[' then wrong .sequence (c :: r)
    else if c = '\x7b' then wrong .map (c :: r)
    else .past 1 .expectedValue (c :: r)

/-- A string, with blanks before it. -/
def stringValue (s : List Char) : Except Fault (Step s String) :=
  match h : skipBlank s with
  | [] => .error (.past 1 .eofValue [])
  | c :: r =>
    if c = '"' then
      (string r).map fun p => (p.behind c).blanks h
    else .error (mismatch "a string" (c :: r))

/-- A number that must be an integer of 32 bits without a sign. -/
def word32 {s : List Char} (p : Step s Number) : Except Fault (Step s Nat) :=
  match p.value with
  | .int n =>
    if 0 ≤ n ∧ n.toNat < UInt32.size then .ok (p.map fun _ => n.toNat)
    else .error (.here (.invalidValue (.number p.value) "u32") p.rest)
  | .float _ => .error (.here (.invalidType (.number p.value) "u32") p.rest)

def word32Value (s : List Char) : Except Fault (Step s Nat) :=
  match h : skipBlank s with
  | [] => .error (.past 1 .eofValue [])
  | c :: r =>
    if c = '-' then do
      let p ← number true r
      word32 ((p.behind c).blanks h)
    else if c.isDigit then do
      let p ← number false (c :: r)
      word32 (p.blanks h)
    else .error (mismatch "u32" (c :: r))

/-- The strings up to the end of an array. -/
def stringItems (first : Bool) (s : List Char) : Except Fault (Step s (List String)) :=
  match nextItem first s with
  | .error e => .error e
  | .ok none => (closeArray s).map fun p => p.map fun _ => []
  | .ok (some ⟨t, ht⟩) =>
    match stringValue t with
    | .error e => .error e
    | .ok v =>
      have hv := v.shorter
      (stringItems false v.rest).map fun p =>
        (p.map (v.value :: ·)).weaken (Nat.le_trans (Nat.le_of_lt hv) ht)
termination_by s.length
decreasing_by exact Nat.lt_of_lt_of_le hv ht

/-- The array of strings a text holds. -/
def readStrings (source : List Char) : Except Fault (List String) :=
  match skipBlank source with
  | [] => .error (.past 1 .eofValue [])
  | c :: r =>
    if c = '[' then do
      let v ← stringItems true r
      atEnd v.rest
      return v.value
    else .error (mismatch "a sequence" (c :: r))

end AvroLink.Json
