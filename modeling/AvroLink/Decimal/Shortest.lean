/-!
# Shortest decimals

A finite double is `m * 2 ^ q`. The decimals that read back as it lie in the
interval that reaches half way to its neighbours, ends included when `m` is
even. `shortest` looks for the first number of digits for which a decimal lies
there; of two it takes the nearer, of two equally near the even one.
-/

namespace AvroLink

/-- The number `digits * 10 ^ exponent`. -/
structure Decimal where
  digits : Nat
  exponent : Int
  deriving DecidableEq, Repr

namespace Decimal

/-- The fraction `num / den` with `10 ^ e` multiplied in. -/
def scaled (num den : Nat) (e : Int) : Nat × Nat :=
  if 0 ≤ e then (num * Nat.pow 10 e.toNat, den) else (num, den * Nat.pow 10 (-e).toNat)

/-- The least `e` with `num / den < 10 ^ e`, looked for upwards from `e`. -/
def magnitude (num den : Nat) : Nat → Int → Int
  | 0, e => e
  | fuel + 1, e =>
    let (n, d) := scaled num den (-e)
    if n < d then e else magnitude num den fuel (e + 1)

/-- A positive double and the interval around it, over one denominator. -/
structure Interval where
  low : Nat
  mid : Nat
  high : Nat
  den : Nat
  closed : Bool

/-- The interval of `m * 2 ^ q`; below a power of two the gap is half as wide, unless the
number is among the smallest. -/
def Interval.ofBinary (m : Nat) (q : Int) (narrow : Bool) : Interval :=
  let unit := if 0 ≤ q then Nat.pow 2 q.toNat else 1
  let den := if 0 ≤ q then 1 else Nat.pow 2 (-q).toNat
  { low := (4 * m - if narrow then 1 else 2) * unit
    mid := 4 * m * unit
    high := (4 * m + 2) * unit
    den := 4 * den
    closed := m % 2 = 0 }

/-- Whether `d * 10 ^ e` lies in the interval. -/
def Interval.contains (i : Interval) (d : Nat) (e : Int) : Bool :=
  let (n, k) := scaled d 1 e
  if i.closed then decide (i.low * k ≤ n * i.den ∧ n * i.den ≤ i.high * k)
  else decide (i.low * k < n * i.den ∧ n * i.den < i.high * k)

/-- The decimal of the grid `10 ^ e` that lies in the interval, if any. -/
def Interval.onGrid? (i : Interval) (e : Int) : Option Decimal :=
  let (n, k) := scaled i.mid i.den (-e)
  let below := n / k
  let twice := 2 * (n % k)
  match i.contains below e, i.contains (below + 1) e with
  | true, false => some ⟨below, e⟩
  | false, true => some ⟨below + 1, e⟩
  | true, true =>
    if twice < k ∨ (twice = k ∧ below % 2 = 0) then some ⟨below, e⟩ else some ⟨below + 1, e⟩
  | false, false => none

/-- Try one digit, then two, and so on. -/
def Interval.search (i : Interval) (top : Int) : Nat → Nat → Decimal
  | 0, _ => ⟨i.mid / i.den, 0⟩
  | fuel + 1, used =>
    match i.onGrid? (top - (used + 1)) with
    | some d => d
    | none => i.search top fuel (used + 1)

/-- Drop zeros at the end. -/
def trim : Nat → Decimal → Decimal
  | 0, d => d
  | fuel + 1, d =>
    if d.digits ≠ 0 ∧ d.digits % 10 = 0 then trim fuel ⟨d.digits / 10, d.exponent + 1⟩ else d

/-- Parts `m` and `q` of a finite double without its sign, and whether the gap below it is the
narrow one. -/
def decode (x : Float) : Nat × Int × Bool :=
  let bits : Nat := x.toBits.toNat % Nat.pow 2 63
  let field : Nat := bits / Nat.pow 2 52
  let frac : Nat := bits % Nat.pow 2 52
  if field = 0 then (frac, -1074, false)
  else (Nat.pow 2 52 + frac, (field : Int) - 1075, frac = 0 && field != 1)

/-- The shortest decimal that reads back as a finite double, its sign left out. -/
def shortest (x : Float) : Decimal :=
  let (m, q, narrow) := decode x
  if m = 0 then ⟨0, 0⟩
  else
    let i := Interval.ofBinary m q narrow
    let guess := (((Nat.log2 m : Int) + q) * 30103) / 100000 - 1
    let top := magnitude i.mid i.den 5 guess
    trim 20 (i.search top 17 0)

def isNegative (x : Float) : Bool := x.toBits.toNat / Nat.pow 2 63 = 1

end Decimal

end AvroLink
