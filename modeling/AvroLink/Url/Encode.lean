import AvroLink.Json.Token

/-!
# Percent encoding

A byte is written as `%` and two upper case hexadecimal digits. Each part of a URL has its own set
of characters that are written so; bytes outside the first 128 characters always are.
-/

namespace AvroLink.Url

def isControl (c : Char) : Bool := c.toNat < 0x20 || 0x7f ≤ c.toNat

def inFragmentSet (c : Char) : Bool :=
  isControl c || c ∈ [' ', '"', '<', '>', Char.ofNat 0x60]

def inQuerySet (special : Bool) (c : Char) : Bool :=
  isControl c || c ∈ [' ', '"', '#', '<', '>'] || (special && c == '\'')

def inPathSet (c : Char) : Bool := inFragmentSet c || c ∈ ['#', '?', '\x7b', '\x7d']

def inUserSet (c : Char) : Bool :=
  inPathSet c || c ∈ ['/', ':', ';', '=', '@', '[', '\\', ']', '^', '|']

/-- What is escaped in a segment that must stay one segment. -/
def inSegmentSet (special : Bool) (c : Char) : Bool :=
  inPathSet c || c ∈ ['/', '%'] || (special && c == '\\')

def hexPair (b : UInt8) : List Char :=
  ['%', (Nat.digitChar (b.toNat / 16)).toUpper, (Nat.digitChar (b.toNat % 16)).toUpper]

def encode (escaped : Char → Bool) (cs : List Char) : List Char :=
  cs.flatMap fun c =>
    if escaped c then (String.singleton c).toUTF8.toList.flatMap hexPair else [c]

/-- The bytes of a text, with pairs of digits behind `%` decoded. -/
def decode : List Char → List UInt8
  | [] => []
  | '%' :: a :: b :: cs =>
    match Json.hexVal? a, Json.hexVal? b with
    | some x, some y => UInt8.ofNat (16 * x + y) :: decode cs
    | _, _ => 0x25 :: decode (a :: b :: cs)
  | c :: cs => (String.singleton c).toUTF8.toList ++ decode cs
termination_by cs => cs.length

end AvroLink.Url
