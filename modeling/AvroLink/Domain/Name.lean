import AvroLink.Domain.Direction
import AvroLink.Domain.Mapping
import AvroLink.Domain.Punycode
import AvroLink.Text.Split

/-!
# Domain names

A domain name is a row of labels with dots between them. It is brought into its normal form, each
label is checked as it reads, and labels with other than basic characters are written in
Punycode behind `xn--`. `ascii?` gives the name as it is sent, or nothing when it is no name.
-/

namespace AvroLink.Domain

open Unicode

/-- The normal form of a name, `none` when it holds a character that no name may hold. -/
def normal? (cs : List Char) : Option (List Char) :=
  (cs.mapM normalChar?).map fun parts => composed parts.flatten

/-- A label in its normal form. -/
structure Label where
  /-- The label as it reads. -/
  read : List Char
  /-- The label as it is sent. -/
  sent : List Char
  deriving DecidableEq, Repr

/-- The longest label that is written in Punycode. -/
def maxRead : Nat := 1000

/-- The longest text behind `xn--` that is read. -/
def maxSent : Nat := 2000

/-- Whether a label with other than basic characters may stand in a name. -/
def isLabel (cs : List Char) : Bool :=
  !beginsWithMark cs && joinersAllowed [] cs && cs.length ≤ maxRead

/-- The characters that mark a label in Punycode. -/
def mark : List Char := ['x', 'n', '-', '-']

/-- What a label reads that was sent with `written` behind `xn--`. It has to be in normal form, with
characters that are not basic. -/
def readSent? (written : List Char) : Option (List Char) := do
  if written.getLast?.all (· == '-') || maxSent < written.length then none
  else
    let cs ← Punycode.decode? written
    if cs.all isKept && composed cs == cs && isLabel cs then some cs else none

/-- The label of a text in normal form. -/
def Label.ofText? (cs : List Char) : Option Label :=
  if mark.isPrefixOf cs then (readSent? (cs.drop mark.length)).map (⟨·, cs⟩)
  else if cs.all Punycode.isBasic then some ⟨cs, cs⟩
  else if isLabel cs then some ⟨cs, mark ++ Punycode.encode cs⟩
  else none

/-- A name as it is sent. -/
def ascii? (name : List Char) : Option (List Char) := do
  let labels ← (Text.pieces '.' (← normal? name)).mapM Label.ofText?
  if directionsAllowed (labels.map Label.read) then
    some (Text.glue '.' (labels.map Label.sent))
  else none

end AvroLink.Domain
