import AvroLink.Source.Files
import AvroLink.Source.Registry

/-!
# Sources

Definitions come from files or from a registry.
-/

namespace AvroLink

inductive Source where
  | files (source : FileSource)
  | registry (source : RegistrySource)

namespace Source

/-- Load all definitions; `arrival` gives the order in which a registry answers. -/
def load (d : Disk) (server : Server) (arrival : List String → List String) :
    Source → Except SourceError (List Definition)
  | files s => s.load d
  | registry s => s.load server arrival

/-- The place that definitions come from. -/
def describe : Source → String
  | files s => s.root
  | registry s => s.base.text

end Source

end AvroLink
