import ChatAgents.Http.Url.Authority
import ChatAgents.Http.Url.Path
set_option autoImplicit false

/-!
# Addresses

An address names a scheme, mostly a host, and a path there, with a query and a fragment at its end.
It is read into its normal form: in each part the characters that may not stand there are
percent-encoded, the host is written in one way only, a port that goes without saying is dropped,
and dot segments in the path are resolved.
-/

namespace ChatAgents.Http

structure Url where
  scheme : List Char
  authority : Option Authority
  path : List Char
  query : Option (List Char)
  fragment : Option (List Char)
deriving DecidableEq

/-- Control characters and spaces around an address do not count, nor line breaks or tabs in it. -/
def cleanAddress (cs : List Char) : List Char :=
  let outer (c : Char) : Bool := c.toNat ≤ 0x20
  ((cs.dropWhile outer).reverse.dropWhile outer).reverse.filter fun c =>
    c != '\t' && c != '\n' && c != '\r'

namespace Url

abbrev Front := Option Authority × List Char

def frontAt? (k : SchemeKind) (cs : List Char) (followed : Bool) : Option Front := do
  let text := cs.takeWhile fun c => !k.isSlash c
  let rest := cs.drop text.length
  let (authority, behind) ← Authority.read? k text (followed || rest != [])
  return (some authority, pathBehindHost k (behind ++ rest))

/-- A file on a host. A drive belongs to the path, and has no host; the own host needs no name. The
slash behind a host begins the path, and behind no host it ends an empty first segment. -/
def fileAt? (cs : List Char) : Option Front := do
  let text := cs.takeWhile fun c => !SchemeKind.file.isSlash c
  let behind := cs.drop text.length
  if isDriveLetter text then return (some .nobody, joinSegments (fileSegments cs).1)
  else
    let host ← if text = [] then some (.name []) else Host.domain? text
    if host.isEmpty ∨ host = .name "localhost".toList then
      return (some .nobody, joinSegments (fileSegments behind).1)
    else
      let (segments, drive) := fileSegments (behind.drop 1)
      let authority := if drive then .nobody else { Authority.nobody with host }
      return (some authority, joinSegments segments)

/-- What stands before the query. `followed` says whether a query or a fragment follows. -/
def front? (k : SchemeKind) (cs : List Char) (followed : Bool) : Option Front :=
  let slashes := (cs.takeWhile k.isSlash).length
  match k with
  | .network _ => frontAt? k (cs.drop slashes) followed
  | .file =>
    if slashes < 2 then some (some .nobody, joinSegments (fileSegments (cs.drop slashes)).1)
    else fileAt? (cs.drop 2)
  | .other =>
    match slashes with
    | 0 => some (none, percentEncode (printableExcept []) cs)
    | 1 => some (none, joinSegments (segmentsOf k (cs.drop 1)))
    | _ => frontAt? k (cs.drop 2) followed

def parse? (text : String) : Option Url := do
  let (scheme, rest) ← splitScheme? (cleanAddress text.toList)
  let (rest, fragment) := Text.splitFirst '#' rest
  let (rest, query) := Text.splitFirst '?' rest
  let k := SchemeKind.ofScheme scheme
  let (authority, path) ← front? k rest (query.isSome || fragment.isSome)
  return {
    scheme, authority, path
    query := query.map (percentEncode k.keepInQuery)
    fragment := fragment.map (percentEncode keepInFragment) }

def addField (u : Url) (name value : String) : Url :=
  let query :=
    match u.query with
    | none | some [] => formField name value
    | some q => q ++ '&' :: formField name value
  { u with query := some query }

def target (u : Url) : String :=
  String.ofList (u.path ++ match u.query with | some q => '?' :: q | none => [])

/-- Scheme and authority. Without an authority, a path that looks like one is kept apart by a dot
segment. -/
def origin (u : Url) : List Char :=
  u.scheme ++ ':' ::
    match u.authority with
    | some a => '/' :: '/' :: a.text
    | none => if ['/', '/'].isPrefixOf u.path then ['/', '.'] else []

def text (u : Url) : String :=
  String.ofList u.origin ++ u.target ++
    match u.fragment with
    | some f => String.ofList ('#' :: f)
    | none => ""

def hasHost (u : Url) : Bool := u.authority.any fun a => !a.host.isEmpty

/-- The user and the password that an address names. A password that is no text counts as none, a
user that is no text makes both count as none. -/
def credentials? (u : Url) : Option (String × Option String) := do
  let a ← u.authority
  let decoded? (cs : List Char) : Option String :=
    (Text.Utf8.decode? (percentDecode cs)).map String.ofList
  let user ← decoded? a.user
  let password := if a.password = [] then none else decoded? a.password
  if user = "" ∧ password.isNone then none else some (user, password)

def anonymous (u : Url) : Url :=
  { u with authority := u.authority.map fun a => { a with user := [], password := [] } }

def maxLength : Nat := 65534

/-- A request can be sent to the address: it is one of the web, not too long, and its host has only
characters that a connection knows. -/
def isSendable (u : Url) : Bool :=
  ["http", "https"].contains (String.ofList u.scheme) &&
    u.authority.all (fun a => !a.host.text.any ['"', '\x60', '\x7b', '\x7d'].contains) &&
    u.text.utf8ByteSize ≤ maxLength

end Url
end ChatAgents.Http
