import AvroLink.Json.Writer
import AvroLink.Text.Position

/-!
# Why a JSON text cannot be read

A fault is a cause and the number of bytes that were left at the place where
reading stopped; the place follows from the text. `here` stops before the
characters that are left, `past n` a number of bytes further on.
-/

namespace AvroLink.Json

/-- What was found where something of another type was expected. -/
inductive Found where
  | null
  | bool (b : Bool)
  | number (n : Number)
  | string (s : String)
  | sequence
  | map
  deriving Repr

inductive Cause where
  | eofValue
  | eofString
  | eofList
  | eofObject
  | expectedValue
  | expectedIdent
  | expectedColon
  | expectedListCommaOrEnd
  | expectedObjectCommaOrEnd
  | keyNotString
  | trailingComma
  | trailingCharacters
  | invalidNumber
  | numberOutOfRange
  | invalidEscape
  | controlCharacter
  | loneSurrogate
  | endOfHexEscape
  | tooDeep
  | invalidType (found : Found) (expected : String)
  | invalidValue (found : Found) (expected : String)
  | invalidLength (length : Nat) (expected : String)
  | missingField (name : String)
  | duplicateField (name : String)
  deriving Repr

/-- The visible form of a character of a quoted text in a message. -/
def quoteChar (c : Char) : List Char :=
  if c = '"' then ['\\', '"']
  else if c = '\\' then ['\\', '\\']
  else if c = '\n' then ['\\', 'n']
  else if c = '\r' then ['\\', 'r']
  else if c = '\t' then ['\\', 't']
  else if c = '\x00' then ['\\', '0']
  else if c.toNat < 0x20 ∨ (0x7f ≤ c.toNat ∧ c.toNat < 0xa0) ∨ c.toNat = 0xad then
    ['\\', 'u', '\x7b'] ++ Nat.toDigits 16 c.toNat ++ ['\x7d']
  else [c]

def Found.text : Found → String
  | null => "null"
  | bool b => "boolean `" ++ (if b then "true" else "false") ++ "`"
  | number (.int n) => "integer `" ++ toString n ++ "`"
  | number (.float x) => "floating point `" ++ writeFloat x ++ "`"
  | string s => "string " ++ String.ofList ('"' :: s.toList.flatMap quoteChar ++ ['"'])
  | sequence => "sequence"
  | map => "map"

def Cause.text : Cause → String
  | eofValue => "EOF while parsing a value"
  | eofString => "EOF while parsing a string"
  | eofList => "EOF while parsing a list"
  | eofObject => "EOF while parsing an object"
  | expectedValue => "expected value"
  | expectedIdent => "expected ident"
  | expectedColon => "expected `:`"
  | expectedListCommaOrEnd => "expected `,` or `]`"
  | expectedObjectCommaOrEnd => "expected `,` or `\x7d`"
  | keyNotString => "key must be a string"
  | trailingComma => "trailing comma"
  | trailingCharacters => "trailing characters"
  | invalidNumber => "invalid number"
  | numberOutOfRange => "number out of range"
  | invalidEscape => "invalid escape"
  | controlCharacter => "control character (\\u0000-\\u001F) found while parsing a string"
  | loneSurrogate => "lone leading surrogate in hex escape"
  | endOfHexEscape => "unexpected end of hex escape"
  | tooDeep => "recursion limit exceeded"
  | invalidType f e => "invalid type: " ++ f.text ++ ", expected " ++ e
  | invalidValue f e => "invalid value: " ++ f.text ++ ", expected " ++ e
  | invalidLength n e => "invalid length " ++ toString n ++ ", expected " ++ e
  | missingField n => "missing field `" ++ n ++ "`"
  | duplicateField n => "duplicate field `" ++ n ++ "`"

structure Fault where
  cause : Cause
  left : Nat
  deriving Repr

namespace Fault

def here (cause : Cause) (rest : List Char) : Fault := ⟨cause, Text.byteLen rest⟩

def past (n : Nat) (cause : Cause) (rest : List Char) : Fault := ⟨cause, Text.byteLen rest - n⟩

/-- The place in `source` where reading stopped. -/
def position (source : List Char) (f : Fault) : Position :=
  Position.ofOffset source (Text.byteLen source - f.left)

def message (source : List Char) (f : Fault) : String :=
  f.cause.text ++ " at " ++ (f.position source).render

end Fault

end AvroLink.Json
