import CatalogSync.Text.Compatibility
import CatalogSync.Text.Lowercase
import CatalogSync.Text.Quoted
import CatalogSync.Uri.Address

namespace CatalogSync

open CatalogSync.Text

structure Uri where
  scheme : String
  authority : String
  path : String
  query : String
  fragment : String
deriving DecidableEq, Repr

inductive UriProblem where
  | brackets
  | address (host : String)
  -- An authority with a character that folds into a delimiter.
  | folding (authority : String)
  | portDigits (port : String)
  | portLength (port : String)
  | portRange (port : String)
deriving DecidableEq, Repr

def UriProblem.message : UriProblem → String
  | brackets => "Invalid IPv6 URL"
  | address host => quoted host ++ " does not appear to be an IPv6 address"
  | folding authority =>
    "netloc '" ++ authority ++ "' contains invalid characters under NFKC normalization"
  | portDigits port => "Port could not be cast to integer value as " ++ quoted port
  | portLength _ => "Exceeds the limit (4300 digits) for integer string conversion"
  | portRange _ => "Port out of range 0-65535"

namespace Uri

-- Tabs and line ends are left out wherever they stand, and control characters and spaces are left
-- out in front.
def significant (cs : List Char) : List Char :=
  (cs.dropWhile fun c => c.toNat ≤ 0x20).filter fun c => c ≠ '\t' ∧ c ≠ '\r' ∧ c ≠ '\n'

def isAsciiLetter (c : Char) : Bool := ('a' ≤ c && c ≤ 'z') || ('A' ≤ c && c ≤ 'Z')

def isSchemeChar (c : Char) : Bool :=
  isAsciiLetter c || isAsciiDigit c || c == '+' || c == '-' || c == '.'

-- Whether the text before the first colon is a scheme: a letter, then letters, digits, plus, minus
-- and dot.
def isScheme : List Char → Bool
  | [] => false
  | c :: cs => isAsciiLetter c && (c :: cs).all isSchemeChar

-- The scheme in lower case and the text after its colon. Without a scheme nothing is cut.
def cutScheme (cs : List Char) : List Char × List Char :=
  match cutAt (· = ':') cs with
  | (scheme, some rest) => if isScheme scheme then (scheme.map Char.toLower, rest) else ([], cs)
  | (_, none) => ([], cs)

def endsAuthority (c : Char) : Bool := c == '/' || c == '?' || c == '#'

def cutAuthority : List Char → List Char × List Char
  | '/' :: '/' :: cs => (cs.takeWhile (!endsAuthority ·), cs.dropWhile (!endsAuthority ·))
  | cs => ([], cs)

-- The host and port of an authority: what follows the last at sign.
def serverPart (authority : List Char) : List Char := (pieces '@' authority).getLast?.getD []

-- The host of a server, and the port if a colon follows. A host in brackets ends at the closing
-- one.
def cutHost (server : List Char) : List Char × Option (List Char) :=
  match cutAt (· = '[') server with
  | (_, some bracketed) =>
    let (host, rest) := cutAt (· = ']') bracketed
    (host, (cutAt (· = ':') (rest.getD [])).2)
  | (_, none) => cutAt (· = ':') server

def bracketsHost (server : List Char) : Bool :=
  match cutAt (· = '[') server with
  | (before, some bracketed) =>
    before.isEmpty &&
      match cutAt (· = ']') bracketed with
      | (_, some (c :: _)) => c == ':'
      | _ => true
  | (_, none) => true

def checkBrackets (authority : List Char) : Except UriProblem Unit :=
  match authority.contains '[', authority.contains ']' with
  | false, false => .ok ()
  | true, true =>
    let server := serverPart authority
    if !bracketsHost server then .error .brackets
    else
      let host := (cutHost server).1
      if isBracketedAddress host then .ok () else .error (.address (.ofList host))
  | _, _ => .error .brackets

-- Checks that no character of an authority folds into a delimiter.
def checkFolding (authority : List Char) : Except UriProblem Unit :=
  if authority.any foldsIntoDelimiter then .error (.folding (.ofList authority)) else .ok ()

def parse (s : String) : Except UriProblem Uri := do
  let (scheme, afterScheme) := cutScheme (significant s.toList)
  let (authority, rest) := cutAuthority afterScheme
  checkBrackets authority
  checkFolding authority
  let (beforeFragment, fragment) := cutAt (· = '#') rest
  let (path, query) := cutAt (· = '?') beforeFragment
  return {
    scheme := .ofList scheme
    authority := .ofList authority
    path := .ofList path
    query := .ofList (query.getD [])
    fragment := .ofList (fragment.getD []) }

-- The host of a location in lower case, but for the zone of an address. Empty if there is none.
def host (uri : Uri) : String :=
  match cutAt (· = '%') (cutHost (serverPart uri.authority.toList)).1 with
  | (name, none) => .ofList (lowerAfter [] name)
  | (name, some zone) => .ofList (lowerAfter [] name ++ '%' :: zone)

def portLimit : Nat := 65535

def port (uri : Uri) : Except UriProblem (Option Nat) :=
  match (cutHost (serverPart uri.authority.toList)).2 with
  | none | some [] => .ok none
  | some digits =>
    if !digits.all isAsciiDigit then .error (.portDigits (.ofList digits))
    else if digits.length > 4300 then .error (.portLength (.ofList digits))
    else
      let n := digits.foldl (fun n c => 10 * n + (c.toNat - '0'.toNat)) 0
      if n ≤ portLimit then .ok (some n) else .error (.portRange (.ofList digits))

end Uri

end CatalogSync
