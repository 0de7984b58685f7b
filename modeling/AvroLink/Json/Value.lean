/-!
# JSON values

Numbers are integers or doubles, and the two never equal each other. The members
of an object are sorted by key, each key once; `put` keeps them so. Doubles
are compared as numbers.
-/

namespace AvroLink.Json

inductive Number where
  | int (n : Int)
  | float (x : Float)
  deriving Repr, Inhabited

namespace Number

def same : Number → Number → Bool
  | int a, int b => a == b
  | float a, float b => a == b
  | _, _ => false

end Number

inductive Value where
  | null
  | bool (b : Bool)
  | number (n : Number)
  | string (s : String)
  | array (items : List Value)
  | object (members : List (String × Value))
  deriving Repr, Inhabited

abbrev Members := List (String × Value)

namespace Members

def get? (ms : Members) (key : String) : Option Value := ms.lookup key

/-- Set a member of a sorted object. -/
def put (key : String) (v : Value) : Members → Members
  | [] => [(key, v)]
  | (k, w) :: ms =>
    if key < k then (key, v) :: (k, w) :: ms
    else if key = k then (key, v) :: ms
    else (k, w) :: put key v ms

theorem sizeOf_lt_of_get? {ms : Members} {key : String} {v : Value} (h : get? ms key = some v) :
    sizeOf v < sizeOf ms := by
  induction ms with
  | nil => simp [get?] at h
  | cons m ms ih =>
    obtain ⟨k, w⟩ := m
    simp only [get?, List.lookup_cons] at h ih
    split at h
    · injection h with h
      subst h
      simp
      omega
    · have := ih h
      simp
      omega

end Members

namespace Value

mutual

def same : Value → Value → Bool
  | null, null => true
  | bool a, bool b => a == b
  | number a, number b => a.same b
  | string a, string b => a == b
  | array as, array bs => sameItems as bs
  | object as, object bs => sameMembers as bs
  | _, _ => false

def sameItems : List Value → List Value → Bool
  | [], [] => true
  | a :: as, b :: bs => same a b && sameItems as bs
  | _, _ => false

def sameMembers : List (String × Value) → List (String × Value) → Bool
  | [], [] => true
  | (k, a) :: as, (l, b) :: bs => k == l && same a b && sameMembers as bs
  | _, _ => false

end

instance : BEq Value := ⟨same⟩

def string? : Value → Option String
  | string s => some s
  | _ => none

/-- A non-negative integer. -/
def nat? : Value → Option Nat
  | number (.int n) => if 0 ≤ n then some n.toNat else none
  | _ => none

end Value

end AvroLink.Json
