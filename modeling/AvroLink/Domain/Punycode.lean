/-!
# Punycode

A label is written in letters, digits and hyphens: first its characters among the first 128, then
for each other one, in the order of their codes, the distance from the one before. A distance
counts the places that are passed, over all codes between the two, and is written in digits of base
36 whose threshold follows the distances seen so far. `encode` writes a label and `decode?` reads
one.
-/

namespace AvroLink.Domain.Punycode

def digitChar (d : Nat) : Char := if d < 26 then Char.ofNat (97 + d) else Char.ofNat (22 + d)

def digit? (c : Char) : Option Nat :=
  if 'a' ≤ c ∧ c ≤ 'z' then some (c.toNat - 97)
  else if 'A' ≤ c ∧ c ≤ 'Z' then some (c.toNat - 65)
  else if '0' ≤ c ∧ c ≤ '9' then some (c.toNat - 22)
  else none

def isBasic (c : Char) : Bool := c.toNat < 128

/-- The first code that is not basic. -/
def firstCode : Nat := 128

def firstBias : Nat := 72

/-- The bound of the `k`-th digit, 36 at a time: a smaller digit is the last one. -/
def threshold (bias k : Nat) : Nat :=
  if k ≤ bias then 1 else if bias + 26 ≤ k then 26 else k - bias

theorem threshold_pos (bias k : Nat) : 1 ≤ threshold bias k := by
  unfold threshold
  split
  · omega
  · split <;> omega

/-- The bias that a scaled distance leads to, `k` being what the steps so far add. -/
def scaledBias (k distance : Nat) : Nat :=
  if 455 < distance then scaledBias (k + 36) (distance / 35)
  else k + 36 * distance / (distance + 38)
termination_by distance

/-- The bias behind a distance; `count` characters are in place with it. -/
def nextBias (distance count : Nat) (first : Bool) : Nat :=
  let d := if first then distance / 700 else distance / 2
  scaledBias 0 (d + d / count)

/-! ## Writing -/

/-- Digits of a distance, the least first. -/
def distanceDigits (bias k q : Nat) : List Char :=
  let t := threshold bias k
  if q < t then [digitChar q]
  else digitChar (t + (q - t) % (36 - t)) :: distanceDigits bias (k + 36) ((q - t) / (36 - t))
termination_by q
decreasing_by
  have := threshold_pos bias k
  have : (q - threshold bias k) / (36 - threshold bias k) ≤ q - threshold bias k :=
    Nat.div_le_self _ _
  omega

/-- A label that is being written. -/
structure Writing where
  digits : List Char
  /-- The distance from the last character that was written. -/
  distance : Nat
  bias : Nat
  /-- How many characters are in place. -/
  count : Nat

/-- Pass a character of the label while those with the code `code` are written. -/
def Writing.pass (basic code : Nat) (w : Writing) (c : Char) : Writing :=
  if c.toNat < code then { w with distance := w.distance + 1 }
  else if c.toNat = code then
    { digits := w.digits ++ distanceDigits w.bias 36 w.distance
      distance := 0
      bias := nextBias w.distance (w.count + 1) (w.count == basic)
      count := w.count + 1 }
  else w

/-- Write the characters with the given codes, which ascend from `next` on. -/
def Writing.writeCodes (label : List Char) (basic : Nat) : List Nat → Nat → Writing → Writing
  | [], _, w => w
  | code :: codes, next, w =>
    let w := { w with distance := w.distance + (code - next) * (w.count + 1) }
    let w := label.foldl (Writing.pass basic code) w
    writeCodes label basic codes (code + 1) { w with distance := w.distance + 1 }

/-- The codes in a label that are not basic, ascending and each once. -/
def codes (label : List Char) : List Nat :=
  (((label.filter fun c => !isBasic c).map Char.toNat).mergeSort fun a b => a ≤ b).eraseDups

def encode (label : List Char) : List Char :=
  let basic := label.filter isBasic
  let w := Writing.writeCodes label basic.length (codes label) firstCode
    ⟨[], 0, firstBias, basic.length⟩
  basic ++ (if basic.isEmpty then [] else ['-']) ++ w.digits

/-! ## Reading -/

/-- Numbers stay below this bound. -/
def numberBound : Nat := UInt32.size

/-- Read a distance behind `sum`, whose next digit has the weight `weight`. -/
def readDistance? (bias : Nat) : Nat → Nat → Nat → List Char → Option (Nat × List Char)
  | _, _, _, [] => none
  | k, weight, sum, c :: cs => do
    let d ← digit? c
    let sum := sum + d * weight
    let t := threshold bias k
    if numberBound ≤ sum then none
    else if d < t then some (sum, cs)
    else if numberBound ≤ weight * (36 - t) then none
    else readDistance? bias (k + 36) (weight * (36 - t)) sum cs

theorem length_readDistance? {bias k weight sum n : Nat} {cs rest : List Char}
    (h : readDistance? bias k weight sum cs = some (n, rest)) : rest.length < cs.length := by
  induction cs generalizing k weight sum with
  | nil => simp [readDistance?] at h
  | cons c cs ih =>
    simp only [readDistance?, Option.bind_eq_bind, Option.bind_eq_some_iff] at h
    obtain ⟨d, _, h⟩ := h
    split at h
    · simp at h
    · split at h
      · simp only [Option.some.injEq, Prod.mk.injEq] at h
        simp [← h.2]
      · split at h
        · simp at h
        · have := ih h
          simp
          omega

/-- Whether a number is the code of a character. -/
def isCode (n : Nat) : Bool := n < 0xD800 || (0xDFFF < n && n < 0x110000)

/-- Put characters into a label as the digits tell: the search for the next one begins at `place`
with the code `code`. -/
def insertAll? (label : List Char) (code place bias : Nat) (digits : List Char) :
    Option (List Char) :=
  if digits.isEmpty then some label
  else
    match h : readDistance? bias 36 1 place digits with
    | none => none
    | some (sum, rest) =>
      have : rest.length < digits.length := length_readDistance? h
      let count := label.length + 1
      let found := code + sum / count
      let target := sum % count
      if isCode found then
        insertAll? (label.insertIdx target (Char.ofNat found)) found (target + 1)
          (nextBias (sum - place) count (place == 0)) rest
      else none
termination_by digits.length

/-- The basic characters of a written label, which stand before its last hyphen, and the digits. -/
def cutDigits (written : List Char) : List Char × List Char :=
  let digits := (written.reverse.takeWhile (· ≠ '-')).reverse
  let front := written.take (written.length - digits.length)
  if front.length ≤ 1 then ([], written) else (front.dropLast, digits)

/-- The label that is written so, `none` when no label is. -/
def decode? (written : List Char) : Option (List Char) :=
  let (basic, digits) := cutDigits written
  if basic.all isBasic then insertAll? basic firstCode 0 firstBias digits else none

end AvroLink.Domain.Punycode
