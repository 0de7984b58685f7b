import AvroLink.Decimal.Shortest
import AvroLink.Json.Value
import AvroLink.Text.Split

/-!
# Compact JSON text

No blanks; strings escape quotes, backslashes and control characters, with a
letter where there is one; doubles have the fewest digits that read back,
positionally from `1e-5` up to `1e16` and with at least one decimal there,
otherwise with a signed exponent.
-/

namespace AvroLink.Json

def hexDigit (n : Nat) : Char := (Nat.digitChar n)

/-- The characters that stand for one character of a string. -/
def writeChar (c : Char) : List Char :=
  if c = '"' then ['\\', '"']
  else if c = '\\' then ['\\', '\\']
  else if c = '\x08' then ['\\', 'b']
  else if c = '\x0c' then ['\\', 'f']
  else if c = '\n' then ['\\', 'n']
  else if c = '\r' then ['\\', 'r']
  else if c = '\t' then ['\\', 't']
  else if c.toNat < 0x20 then
    ['\\', 'u', '0', '0', hexDigit (c.toNat / 16), hexDigit (c.toNat % 16)]
  else [c]

def writeString (s : String) : String :=
  String.ofList ('"' :: s.toList.flatMap writeChar ++ ['"'])

def zeros (n : Nat) : String := String.ofList (List.replicate n '0')

/-- A positive decimal in positional or exponent form. -/
def writeDecimal (d : Decimal) : String :=
  let digits := toString d.digits
  let point := (digits.length : Int) + d.exponent
  if 0 ≤ d.exponent ∧ point ≤ 16 then digits ++ zeros d.exponent.toNat ++ ".0"
  else if 0 < point ∧ point ≤ 16 then
    String.ofList (digits.toList.take point.toNat) ++ "." ++
      String.ofList (digits.toList.drop point.toNat)
  else if -5 < point ∧ point ≤ 0 then "0." ++ zeros (-point).toNat ++ digits
  else
    let e := point - 1
    let mantissa :=
      match digits.toList with
      | [] => ""
      | [c] => String.ofList [c]
      | c :: cs => String.ofList (c :: '.' :: cs)
    mantissa ++ (if 0 ≤ e then "e+" else "e-") ++ toString e.natAbs

def writeFloat (x : Float) : String :=
  let d := Decimal.shortest x
  (if Decimal.isNegative x then "-" else "") ++ if d.digits = 0 then "0.0" else writeDecimal d

def Number.text : Number → String
  | .int n => toString n
  | .float x => writeFloat x

namespace Value

mutual

/-- The compact text of a value. -/
def text : Value → String
  | null => "null"
  | bool b => if b then "true" else "false"
  | number n => n.text
  | string s => writeString s
  | array items => "[" ++ Text.joinWith "," (itemTexts items) ++ "]"
  | object members => "\x7b" ++ Text.joinWith "," (memberTexts members) ++ "\x7d"

def itemTexts : List Value → List String
  | [] => []
  | v :: vs => text v :: itemTexts vs

def memberTexts : List (String × Value) → List String
  | [] => []
  | (k, v) :: ms => (writeString k ++ ":" ++ text v) :: memberTexts ms

end

end Value

end AvroLink.Json
