import CatalogSync.Storage.FileSystem
import CatalogSync.Storage.Scheme

namespace CatalogSync.Location

open CatalogSync.Text

def trimEnd (s : String) : String := .ofList ((s.toList.reverse.dropWhile (· = '/')).reverse)

-- Whether a base path is a bare scheme, after which no further slash belongs.
def isBareScheme (base : String) : Bool := "://".toList.isSuffixOf base.toList

def join (base partition : String) : String :=
  let relative := trimSlashes partition
  if relative = "" then base
  else if isBareScheme base then base ++ relative
  else trimEnd base ++ "/" ++ relative

-- Qualifies the path of a location without a server with the default file system, which must be a
-- distributed one with a host.
def qualifyWith (filesystem : Option FileSystem) (joined path : String) :
    Except Failure String := do
  let refused : Failure := .config (.noNamenode joined)
  match filesystem with
  | none => .error refused
  | some filesystem =>
    if (← filesystem.host.mapError Failure.uri) = "" then .error refused
    else if needsNamenode (← filesystem.scheme.mapError Failure.uri) then
      .ok (filesystem.qualify path)
    else .error refused

def resolve (base partition : String) (filesystem : Option FileSystem) :
    Except Failure String := do
  let joined := join base partition
  let parts ← (Uri.parse joined).mapError Failure.uri
  if needsNamenode parts.scheme then
    if parts.authority = "" then qualifyWith filesystem joined parts.path
    else .ok ((FileSystem.ofParts parts.scheme parts.authority).qualify parts.path)
  else .ok joined

end CatalogSync.Location
