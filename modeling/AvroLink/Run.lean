import AvroLink.Files.Write
import AvroLink.Resolve.Avro
import AvroLink.Source
import AvroLink.TypeScript.Emitter

/-!
# From definitions to TypeScript

A run resolves a batch of definitions and generates files for the types that were resolved; what
stays unresolved does not stop it.
-/

namespace AvroLink

inductive RunError where
  | source (error : SourceError)
  | remap (error : RemapError)
  | fuel (error : Resolve.FuelExhausted)
  | duplicate (error : DuplicateType)
  | write (error : WriteError)

def RunError.message : RunError → String
  | source e => e.message
  | remap e => e.message
  | fuel e => e.message
  | duplicate e => e.message
  | write e => e.message

structure RunOptions where
  remap : Remap
  /-- Limit on the attempts to parse a definition. -/
  fuel : Option UInt32

namespace RunOptions

/-- Resolve definitions on their own. -/
def resolve (o : RunOptions) (ds : List Definition) : Except RunError Resolve.AvroResolution :=
  (Resolve.resolveAvro o.fuel ds Namespace.empty).mapError .fuel

/-- The files for what a run resolved. -/
def generate (o : RunOptions) (config : TypeScript.Config) (r : Resolve.AvroResolution) :
    Except RunError (List Artifact) :=
  (TypeScript.generate config r.resolved o.remap).mapError .duplicate

/-- Resolve definitions and generate the files for them. -/
def run (o : RunOptions) (config : TypeScript.Config) (ds : List Definition) :
    Except RunError (Resolve.AvroResolution × List Artifact) := do
  let r ← o.resolve ds
  return (r, ← o.generate config r)

theorem mapError_ok {ε ε' α : Type} {f : ε → ε'} {x : Except ε α} {a : α}
    (h : x.mapError f = .ok a) : x = .ok a := by
  cases x with
  | error e => cases h
  | ok b =>
    cases h
    rfl

end RunOptions

end AvroLink
