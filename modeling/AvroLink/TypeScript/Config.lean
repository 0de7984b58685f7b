/-!
# Choices for generated TypeScript
-/

namespace AvroLink.TypeScript

/-- How a field that may be null is declared. -/
inductive Optional where
  /-- `name?: T` -/
  | undefined
  /-- `name: T | null` -/
  | null
  deriving DecidableEq, Repr

/-- How an enum is declared. -/
inductive EnumStyle where
  /-- `type Suit = "HEARTS" | "SPADES"` -/
  | union
  /-- `enum Suit` with one member per symbol -/
  | enum
  deriving DecidableEq, Repr

structure Config where
  exported : Bool
  optional : Optional
  enums : EnumStyle
  /-- Comment at the top of every file, one line of it per line. -/
  header : Option String
  deriving DecidableEq, Repr

def Config.default : Config := ⟨true, .undefined, .union, none⟩

end AvroLink.TypeScript
