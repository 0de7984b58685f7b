/-!
# Names not yet in use

The first of a row of candidates that is not taken. When the candidates differ from
each other, one among the first `taken.length + 1` is free.
-/

namespace AvroLink.TypeScript

def searchFree (taken : List String) (candidate : Nat → String) : Nat → Nat → String
  | 0, n => candidate n
  | fuel + 1, n =>
    if candidate n ∈ taken then searchFree taken candidate fuel (n + 1) else candidate n

def firstFree (taken : List String) (candidate : Nat → String) : String :=
  searchFree taken candidate taken.length 0

/-- `base`, then `base` with a separator and the numbers from 2. -/
def numbered (base separator : String) : Nat → String
  | 0 => base
  | n + 1 => base ++ separator ++ toString (n + 2)

end AvroLink.TypeScript
