import CatalogSync.Extractor.Basic
import CatalogSync.Storage.Location

namespace CatalogSync

structure PartitionSpec where
  path : String
  values : List String
  location : String
deriving DecidableEq, Repr

-- Makes the spec of a path. The values are read before the location is resolved.
def PartitionSpec.make (path : String) (extractor : Extractor) (base : String)
    (filesystem : Option FileSystem) (keys : Option (List String)) :
    Except Failure PartitionSpec := do
  let values ← extractor.extract path keys
  let location ← Location.resolve base path filesystem
  return ⟨path, values, location⟩

end CatalogSync
