import AvroLink.Json.Token

/-!
# Reading a JSON text as a value

The grammar is strict. Of a key that occurs more than once the last value
counts. At most 127 arrays and objects may be open at once.
-/

namespace AvroLink.Json

/-- One more than the number of arrays and objects that may be open at once. -/
def depthLimit : Nat := 128

/-- A word such as `null` after its first letter, standing for `v`. -/
def constant {s : List Char} {α : Type} (rest : List Char) (h : rest.length < s.length) (w : String)
    (v : α) : Except Fault (Step s α) :=
  match hw : word w.toList rest with
  | .error e => .error e
  | .ok r => .ok ⟨v, r, Nat.lt_of_le_of_lt (length_le_of_word hw) h⟩

/-- The colon between a key and its value. -/
def colon (s : List Char) : Except Fault (Step s Unit) :=
  match h : skipBlank s with
  | ':' :: r => .ok ⟨(), r, length_lt_of_skipBlank h⟩
  | [] => .error (.past 1 .eofObject [])
  | r => .error (.past 1 .expectedColon r)

/-- Where the next item of an array stands, or `none` behind the closing bracket, which is left. -/
def nextItem (first : Bool) (s : List Char) :
    Except Fault (Option { r : List Char // r.length ≤ s.length }) :=
  match h : skipBlank s with
  | [] => .error (.past 1 .eofList [])
  | c :: r =>
    have hs := length_lt_of_skipBlank h
    if c = ']' then .ok none
    else if first then .ok (some ⟨c :: r, hs⟩)
    else if c = ',' then
      match h' : skipBlank r with
      | [] => .error (.past 1 .eofValue [])
      | d :: t =>
        if d = ']' then .error (.past 1 .trailingComma (d :: t))
        else .ok (some ⟨d :: t, Nat.le_of_lt (Nat.lt_of_le_of_lt (length_lt_of_skipBlank h') hs)⟩)
    else .error (.past 1 .expectedListCommaOrEnd (c :: r))

/-- The closing bracket of an array, whose items have been read. -/
def closeArray (s : List Char) : Except Fault (Step s Unit) :=
  match h : skipBlank s with
  | [] => .error (.past 1 .eofList [])
  | c :: r =>
    if c = ']' then .ok ⟨(), r, length_lt_of_skipBlank h⟩
    else if c = ',' then
      match skipBlank r with
      | ']' :: t => .error (.past 1 .trailingComma (']' :: t))
      | t => .error (.past 1 .trailingCharacters t)
    else .error (.past 1 .trailingCharacters (c :: r))

/-- What follows the quote of the next key of an object, or `none` before the closing brace. -/
def nextKey (first : Bool) (s : List Char) :
    Except Fault (Option { r : List Char // r.length < s.length }) :=
  match h : skipBlank s with
  | [] => .error (.past 1 .eofObject [])
  | c :: r =>
    have hs := length_lt_of_skipBlank h
    if c = '\x7d' then .ok none
    else if first then
      if c = '"' then .ok (some ⟨r, hs⟩)
      else .error (.past 1 .keyNotString (c :: r))
    else if c = ',' then
      match h' : skipBlank r with
      | [] => .error (.past 1 .eofValue [])
      | d :: t =>
        if d = '"' then .ok (some ⟨t, Nat.lt_trans (length_lt_of_skipBlank h') hs⟩)
        else if d = '\x7d' then .error (.past 1 .trailingComma (d :: t))
        else .error (.past 1 .keyNotString (d :: t))
    else .error (.past 1 .expectedObjectCommaOrEnd (c :: r))

/-- The closing brace of an object, whose members have been read. -/
def closeObject (s : List Char) : Except Fault (Step s Unit) :=
  match h : skipBlank s with
  | [] => .error (.past 1 .eofObject [])
  | c :: r =>
    if c = '\x7d' then .ok ⟨(), r, length_lt_of_skipBlank h⟩
    else if c = ',' then .error (.past 1 .trailingComma (c :: r))
    else .error (.past 1 .trailingCharacters (c :: r))

mutual

/-- One value; fewer than `depth` more arrays and objects may be opened. -/
def value (depth : Nat) (s : List Char) : Except Fault (Step s Value) :=
  match h : skipBlank s with
  | [] => .error (.past 1 .eofValue [])
  | c :: r =>
    have hr := length_lt_of_skipBlank h
    if c = 'n' then constant r hr "ull" .null
    else if c = 't' then constant r hr "rue" (.bool true)
    else if c = 'f' then constant r hr "alse" (.bool false)
    else if c = '-' then
      (number true r).map fun p => (p.map .number).weaken (Nat.le_of_lt hr)
    else if c.isDigit then
      (number false (c :: r)).map fun p => (p.map .number).blanks h
    else if c = '"' then
      (string r).map fun p => (p.map .string).weaken (Nat.le_of_lt hr)
    else if c = '[' then
      if depth ≤ 1 then .error (.past 1 .tooDeep (c :: r))
      else (items (depth - 1) true r).map fun p => (p.map .array).weaken (Nat.le_of_lt hr)
    else if c = '\x7b' then
      if depth ≤ 1 then .error (.past 1 .tooDeep (c :: r))
      else (members (depth - 1) [] true r).map fun p => (p.map .object).weaken (Nat.le_of_lt hr)
    else .error (.past 1 .expectedValue (c :: r))
termination_by 2 * s.length

/-- The items up to the end of an array. -/
def items (depth : Nat) (first : Bool) (s : List Char) : Except Fault (Step s (List Value)) :=
  match nextItem first s with
  | .error e => .error e
  | .ok none => (closeArray s).map fun p => p.map fun _ => []
  | .ok (some ⟨t, ht⟩) =>
    match value depth t with
    | .error e => .error e
    | .ok v =>
      have hv := v.shorter
      (items depth false v.rest).map fun p =>
        (p.map (v.value :: ·)).weaken (Nat.le_trans (Nat.le_of_lt hv) ht)
termination_by 2 * s.length + 1

/-- The members up to the end of an object, put into those already read. -/
def members (depth : Nat) (ms : Members) (first : Bool) (s : List Char) :
    Except Fault (Step s Members) :=
  match nextKey first s with
  | .error e => .error e
  | .ok none => (closeObject s).map fun p => p.map fun _ => ms
  | .ok (some ⟨t, ht⟩) =>
    match string t with
    | .error e => .error e
    | .ok k =>
      match colon k.rest with
      | .error e => .error e
      | .ok u =>
        have hk := k.shorter
        have hu := u.shorter
        match value depth u.rest with
        | .error e => .error e
        | .ok v =>
          have hv := v.shorter
          (members depth (ms.put k.value v.value) false v.rest).map fun p =>
            p.weaken (by omega)
termination_by 2 * s.length + 1

end

/-- Nothing but blanks is left. -/
def atEnd (s : List Char) : Except Fault Unit :=
  match skipBlank s with
  | [] => .ok ()
  | r => .error (.past 1 .trailingCharacters r)

/-- The value a text holds. -/
def read (source : List Char) : Except Fault Value := do
  let v ← value depthLimit source
  atEnd v.rest
  return v.value

end AvroLink.Json
