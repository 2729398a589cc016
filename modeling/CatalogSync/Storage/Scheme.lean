import CatalogSync.Text.Lowercase

namespace CatalogSync

inductive StorageScheme where
  | hdfs
  | file
  | s3
  | s3a
  | gs
  | abfs
  | abfss
  | oss
deriving DecidableEq, Repr

namespace StorageScheme

def name : StorageScheme → String
  | hdfs => "hdfs"
  | file => "file"
  | s3 => "s3"
  | s3a => "s3a"
  | gs => "gs"
  | abfs => "abfs"
  | abfss => "abfss"
  | oss => "oss"

def all : List StorageScheme := [hdfs, file, s3, s3a, gs, abfs, abfss, oss]

def ofName? (name : String) : Option StorageScheme := all.find? fun scheme => scheme.name == name

end StorageScheme

-- Whether locations under a scheme must carry a namenode. The case of the scheme does not matter.
def needsNamenode (scheme : String) : Bool := Text.lower scheme == StorageScheme.hdfs.name

end CatalogSync
