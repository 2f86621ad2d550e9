import ChatAgents.Http.Url.DomainName
import ChatAgents.Http.Url.IpAddress
import ChatAgents.Http.Url.Path
set_option autoImplicit false

namespace ChatAgents.Http

inductive Host where
  | name (text : List Char)
  | v4 (address : Nat)
  | v6 (groups : List Nat)
deriving DecidableEq

namespace Host

def text : Host → List Char
  | .name text => text
  | .v4 address => IpV4.text address
  | .v6 groups => '[' :: IpV6.text groups ++ [']']

def isEmpty : Host → Bool
  | .name [] => true
  | _ => false

def bracketed? (inner : List Char) : Option Host :=
  if inner.getLast? = some ']' then (IpV6.read? inner.dropLast).map .v6 else none

def domain? : List Char → Option Host
  | '[' :: inner => bracketed? inner
  | cs => do
    match ← DomainName.toAscii? (Text.Utf8.decodeLossy (percentDecode cs)) with
    | [] => none
    | ascii => if IpV4.endsInNumber ascii then (IpV4.read? ascii).map .v4 else some (.name ascii)

def forbidden : List Char :=
  ['\x00', '\t', '\n', '\r', ' ', '#', '/', ':', '<', '>', '?', '@', '[', '\\', ']', '^', '|']

def any? : List Char → Option Host
  | '[' :: inner => bracketed? inner
  | cs =>
    if cs.any forbidden.contains then none else some (.name (percentEncode (printableExcept []) cs))

end Host

structure Authority where
  /-- Percent-encoded, as is the password; an empty one counts as none. -/
  user : List Char
  password : List Char
  host : Host
  port : Option Nat
deriving DecidableEq

namespace Authority

def nobody : Authority := ⟨[], [], .name [], none⟩

def hasUser (a : Authority) : Bool := a.user != [] || a.password != []

def text (a : Authority) : List Char :=
  a.user ++ (if a.password = [] then [] else ':' :: a.password) ++
    (if a.hasUser then ['@'] else []) ++ a.host.text ++
    match a.port with
    | some n => ':' :: Nat.toDigits 10 n
    | none => []

/-- The text before the first colon outside brackets, and what follows that colon. -/
def splitPort (inBrackets : Bool) : List Char → List Char × Option (List Char)
  | [] => ([], none)
  | c :: cs =>
    if c = ':' ∧ ¬ inBrackets then ([], some cs)
    else
      let (host, port) := splitPort (c == '[' || (c != ']' && inBrackets)) cs
      (c :: host, port)

def readPort? (k : SchemeKind) (cs : List Char) : Option (Option Nat × List Char) := do
  let digits := cs.takeWhile Char.isDigit
  let rest := cs.dropWhile Char.isDigit
  let port ← digitsValue? 10 digits
  if port > 65535 ∨ rest.head?.any (· != '\\') then none
  else some (if digits = [] ∨ k = .network port then none else some port, rest)

/-- Reads who is asked, and the text behind if it goes on without a slash. `followed` says whether
the address goes on at all. -/
def read? (k : SchemeKind) (cs : List Char) (followed : Bool) : Option (Authority × List Char) := do
  let (userText, place) := Text.splitLast '@' cs
  if userText = some [] ∧ place = [] ∧ followed then none
  else
    let (user, password) := Text.splitFirst ':' (userText.getD [])
    let (hostText, portText) := splitPort false place
    let host ← if k = .other then Host.any? hostText else Host.domain? hostText
    let (port, behind) ← readPort? k (portText.getD [])
    let a : Authority :=
      ⟨percentEncode keepInUser user, percentEncode keepInUser (password.getD []), host, port⟩
    if host.isEmpty ∧ (portText.isSome ∨ a.hasUser) then none else some (a, behind)

end Authority

end ChatAgents.Http
