import AvroLink.Text.Split
import AvroLink.Url.Encode

/-!
# Addresses

An address of four bytes is written as up to four numbers, each in a base of its own, the last of
which fills the bytes that are left. An address of eight words is written in hexadecimal;
two colons stand for words that are zero.
-/

namespace AvroLink.Url

/-- The number that digits of a base make up. -/
def numberIn (base : Nat) (cs : List Char) : Option Nat :=
  cs.foldl (fun n c => do
    let d ← Json.hexVal? c
    if d < base then some ((← n) * base + d) else none) (some 0)

/-! ## Addresses of four bytes -/

/-- A number of an address: hexadecimal behind `0x`, octal behind `0`. -/
def addressNumber? (cs : List Char) : Option Nat :=
  match cs with
  | [] => none
  | '0' :: 'x' :: ds => numberIn 16 ds
  | '0' :: 'X' :: ds => numberIn 16 ds
  | '0' :: d :: ds => numberIn 8 (d :: ds)
  | ds => numberIn 10 ds

/-- Labels of a name; an empty one at the end does not count. -/
def labels (name : List Char) : List (List Char) :=
  match (Text.pieces '.' name).reverse with
  | [] :: l :: ls => (l :: ls).reverse
  | ls => ls.reverse

/-- Whether the last label of a name is a number, so that the name is an address. -/
def endsInNumber (name : List Char) : Bool :=
  match (labels name).getLast? with
  | none => false
  | some l => (!l.isEmpty && l.all Char.isDigit) || (addressNumber? l).isSome

/-- Each number but the last is a byte; the last fills the bytes that are left. -/
def address4? (name : List Char) : Option Nat := do
  let ns ← (labels name).mapM addressNumber?
  let last ← ns.getLast?
  let front := ns.dropLast
  if 3 < front.length || front.any (255 < ·) || Nat.pow 256 (4 - front.length) ≤ last then none
  else some (front.foldl (fun n b => n * 256 + b) 0 * Nat.pow 256 (4 - front.length) + last)

def address4Text (n : Nat) : String :=
  Text.joinWith "." ([3, 2, 1, 0].map fun i => toString (n / Nat.pow 256 i % 256))

/-! ## Addresses of eight words -/

/-- A decimal byte without zeros at its front. -/
def byte? (cs : List Char) : Option Nat := do
  let n ← numberIn 10 cs
  if cs.isEmpty || 255 < n || (cs.head? == some '0' && 1 < cs.length) then none else some n

/-- The two words that four decimal bytes make up. -/
def dottedWords? (cs : List Char) : Option (List Nat) := do
  match ← (Text.pieces '.' cs).mapM byte? with
  | [a, b, c, d] => some [a * 256 + b, c * 256 + d]
  | _ => none

def word? (cs : List Char) : Option Nat :=
  if cs.isEmpty || 4 < cs.length then none else numberIn 16 cs

/-- Words between colons; where `dotted` is set, four decimal bytes may stand for the last two. -/
def words? (dotted : Bool) (cs : List Char) : Option (List Nat) :=
  if cs.isEmpty then some []
  else
    let ps := Text.pieces ':' cs
    match ps.getLast? with
    | none => none
    | some last => do
      let front ← ps.dropLast.mapM word?
      if dotted && last.contains '.' then some (front ++ (← dottedWords? last))
      else some (front ++ [← word? last])

/-- The texts before and behind the first two colons in a row. -/
def cutGap : List Char → Option (List Char × List Char)
  | ':' :: ':' :: cs => some ([], cs)
  | c :: cs => (cutGap cs).map fun (a, b) => (c :: a, b)
  | [] => none

/-- Eight words; two colons stand for at least one zero word. -/
def address6? (cs : List Char) : Option (List Nat) :=
  match cutGap cs with
  | none => do
    let ws ← words? true cs
    if ws.length = 8 then some ws else none
  | some (left, right) => do
    let ls ← words? false left
    let rs ← words? true right
    if ls.length + rs.length < 8 then
      some (ls ++ List.replicate (8 - ls.length - rs.length) 0 ++ rs)
    else none

/-- Start and length of the first of the longest runs of zeros from position `i` on. -/
def longestZeros (i : Nat) : List Nat → Nat × Nat
  | [] => (i, 0)
  | w :: ws =>
    let later := longestZeros (i + 1) ws
    let run := ((w :: ws).takeWhile (· = 0)).length
    if later.2 ≤ run then (i, run) else later

def hexText (n : Nat) : String := String.ofList (Nat.toDigits 16 n)

def address6Text (ws : List Nat) : String :=
  let (start, count) := longestZeros 0 ws
  let text (ws : List Nat) : String := Text.joinWith ":" (ws.map hexText)
  if count < 2 then "[" ++ text ws ++ "]"
  else "[" ++ text (ws.take start) ++ "::" ++ text (ws.drop (start + count)) ++ "]"

end AvroLink.Url
