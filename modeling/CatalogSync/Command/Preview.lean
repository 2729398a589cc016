import CatalogSync.Batch
import CatalogSync.Extractor.Registry
import CatalogSync.Partition.Spec
import CatalogSync.Settings.Basic

namespace CatalogSync

structure Preview where
  specs : List PartitionSpec
  batches : Nat
deriving DecidableEq, Repr

namespace Preview

-- The names of the partition keys, if there are any.
def keys (settings : Settings) : Option (List String) :=
  if settings.partitionFields.isEmpty then none else some settings.partitionFields

def fileSystem (settings : Settings) : Except Failure (Option FileSystem) :=
  match settings.defaultFileSystem with
  | none | some "" => .ok none
  | some uri => (FileSystem.ofUri uri).map some

def ofExtractor (settings : Settings) (paths : List String) (extractor : Extractor) :
    Except Failure Preview := do
  let fileSystem ← fileSystem settings
  let specs ← paths.mapM fun path =>
    PartitionSpec.make path extractor settings.basePath fileSystem (keys settings)
  return ⟨specs, (Batch.plan settings.batchSize specs).length⟩

def make (registry : Registry) (settings : Settings) (paths : List String) :
    Except Failure Preview :=
  (registry.create settings.partitionExtractor).result.bind (ofExtractor settings paths)

end Preview

end CatalogSync
