import AvroLink.Json.Reader

/-!
# Passing over a JSON value

A value that nobody asked for is checked for its grammar only: escapes need no valid code
point, numbers may be of any size, and arrays and objects may be nested to any depth.
-/

namespace AvroLink.Json

/-- An escape after its backslash. -/
def skipEscape (s : List Char) : Except Fault (Step s Unit) :=
  match s with
  | [] => .error (.here .eofString [])
  | c :: r =>
    if c ∈ ['"', '\\', '/', 'b', 'f', 'n', 'r', 't'] then .ok (.first c r ())
    else if c = 'u' then (hex4 r).map fun p => (p.map fun _ => ()).behind c
    else .error (.past 1 .invalidEscape (c :: r))

/-- A string after its first quote. -/
def skipString (s : List Char) : Except Fault (Step s Unit) :=
  match s with
  | [] => .error (.here .eofString [])
  | c :: r =>
    if c = '"' then .ok ⟨(), r, by simp⟩
    else if c = '\\' then
      match skipEscape r with
      | .error e => .error e
      | .ok p =>
        have hp := p.shorter
        (skipString p.rest).map fun q => q.weaken (by simp; omega)
    else if c.toNat < 0x20 then .error (.here .controlCharacter (c :: r))
    else (skipString r).map fun q => q.weaken (by simp)
termination_by s.length
decreasing_by all_goals simp_all <;> omega

/-- A number after its sign. -/
def skipNumber (negative : Bool) (s : List Char) : Except Fault (Step s Unit) :=
  match h : numeral negative s with
  | .error e => .error { e with cause := .invalidNumber }
  | .ok (_, r) => .ok ⟨(), r, length_lt_of_numeral h⟩

/-- The quote of a key. -/
def keyQuote (s : List Char) : Except Fault (Step s Unit) :=
  match h : skipBlank s with
  | '"' :: r => .ok ⟨(), r, length_lt_of_skipBlank h⟩
  | [] => .error (.past 1 .eofObject [])
  | r => .error (.past 1 .keyNotString r)

mutual

def skipValue (s : List Char) : Except Fault (Step s Unit) :=
  match h : skipBlank s with
  | [] => .error (.past 1 .eofValue [])
  | c :: r =>
    have hr := length_lt_of_skipBlank h
    if c = 'n' then constant r hr "ull" ()
    else if c = 't' then constant r hr "rue" ()
    else if c = 'f' then constant r hr "alse" ()
    else if c = '-' then (skipNumber true r).map fun p => p.weaken (Nat.le_of_lt hr)
    else if c.isDigit then
      (skipNumber false (c :: r)).map fun p => p.blanks h
    else if c = '"' then (skipString r).map fun p => p.weaken (Nat.le_of_lt hr)
    else if c = '[' then (skipItems true r).map fun p => p.weaken (Nat.le_of_lt hr)
    else if c = '\x7b' then (skipMembers true r).map fun p => p.weaken (Nat.le_of_lt hr)
    else .error (.past 1 .expectedValue (c :: r))
termination_by 2 * s.length

/-- What is left of an array, behind its bracket or behind an item. -/
def skipItems (first : Bool) (s : List Char) : Except Fault (Step s Unit) :=
  match h : skipBlank s with
  | [] => .error (.past 1 .eofList [])
  | c :: r =>
    have hs := length_lt_of_skipBlank h
    if c = ']' then .ok ⟨(), r, hs⟩
    else if first then
      match skipValue (c :: r) with
      | .error e => .error e
      | .ok v =>
        have hv := v.shorter
        (skipItems false v.rest).map fun p => p.weaken (Nat.le_trans (Nat.le_of_lt hv) hs)
    else if c = ',' then
      match skipValue r with
      | .error e => .error e
      | .ok v =>
        have hv := v.shorter
        (skipItems false v.rest).map fun p => p.weaken (Nat.le_of_lt (Nat.lt_trans hv hs))
    else .error (.past 1 .expectedListCommaOrEnd (c :: r))
termination_by 2 * s.length + 1
decreasing_by
  · simp
    omega
  · simp at hv
    omega
  · omega
  · omega

/-- What is left of an object, behind its brace or behind a member. -/
def skipMembers (first : Bool) (s : List Char) : Except Fault (Step s Unit) :=
  match h : skipBlank s with
  | [] => .error (.past 1 .eofObject [])
  | c :: r =>
    have hs := length_lt_of_skipBlank h
    if c = '\x7d' then .ok ⟨(), r, hs⟩
    else if first then
      match skipMember (c :: r) with
      | .error e => .error e
      | .ok v =>
        have hv := v.shorter
        (skipMembers false v.rest).map fun p => p.weaken (Nat.le_trans (Nat.le_of_lt hv) hs)
    else if c = ',' then
      match skipMember r with
      | .error e => .error e
      | .ok v =>
        have hv := v.shorter
        (skipMembers false v.rest).map fun p => p.weaken (Nat.le_of_lt (Nat.lt_trans hv hs))
    else .error (.past 1 .expectedObjectCommaOrEnd (c :: r))
termination_by 2 * s.length + 1
decreasing_by
  · simp
    omega
  · simp at hv
    omega
  · omega
  · omega

/-- A key and its value. -/
def skipMember (s : List Char) : Except Fault (Step s Unit) :=
  match keyQuote s with
  | .error e => .error e
  | .ok q =>
    have hq := q.shorter
    match skipString q.rest with
    | .error e => .error e
    | .ok k =>
      have hk := k.shorter
      match colon k.rest with
      | .error e => .error e
      | .ok u =>
        have hu := u.shorter
        (skipValue u.rest).map fun p => p.weaken (by omega)
termination_by 2 * s.length

end

end AvroLink.Json
