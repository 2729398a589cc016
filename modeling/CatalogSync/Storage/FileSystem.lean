import CatalogSync.Failure
import CatalogSync.Text.Blank

namespace CatalogSync

open CatalogSync.Text

-- A file system as `scheme://authority`.
structure FileSystem where
  uri : String
deriving DecidableEq, Repr

namespace FileSystem

def hasAuthorityMark : List Char → Bool
  | ':' :: '/' :: '/' :: _ => true
  | _ :: cs => hasAuthorityMark cs
  | [] => false

def ofParts (scheme authority : String) : FileSystem := ⟨scheme ++ "://" ++ authority⟩

-- The file system that a location lies on. The path of the location does not count, and a host may
-- be missing.
def ofUri (text : String) : Except Failure FileSystem :=
  match Uri.parse (trim text) with
  | .error problem => .error (.uri problem)
  | .ok parts =>
    if parts.scheme = "" ∨ hasAuthorityMark text.toList = false then
      .error (.config (.filesystemForm text))
    else .ok (ofParts parts.scheme parts.authority)

def parts (filesystem : FileSystem) : Except UriProblem Uri := Uri.parse filesystem.uri

def scheme (filesystem : FileSystem) : Except UriProblem String :=
  filesystem.parts.map Uri.scheme

-- The host, empty if there is none.
def host (filesystem : FileSystem) : Except UriProblem String := filesystem.parts.map Uri.host

def port (filesystem : FileSystem) : Except UriProblem (Option Nat) :=
  filesystem.parts.bind Uri.port

-- The location of a path on the file system. A path that does not start with a slash gets one.
def qualify (filesystem : FileSystem) (path : String) : String :=
  if path.toList.head? = some '/' then filesystem.uri ++ path else filesystem.uri ++ "/" ++ path

end FileSystem

end CatalogSync
