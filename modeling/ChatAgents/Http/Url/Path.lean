import ChatAgents.Text.Characters
import ChatAgents.Text.Encoding
set_option autoImplicit false

namespace ChatAgents.Http

def percentByte (b : UInt8) : List Char :=
  ['%', Text.upperHexDigit (b.toNat / 16), Text.upperHexDigit (b.toNat % 16)]

def percentChar (keep : Char → Bool) (c : Char) : List Char :=
  if keep c then [c] else (Text.Utf8.encodeChar c).flatMap percentByte

def percentEncode (keep : Char → Bool) (cs : List Char) : List Char :=
  cs.flatMap (percentChar keep)

/-- The bytes of a text, in which a percent sign with two digits behind it stands for a byte. -/
def percentDecode : List Char → List UInt8
  | [] => []
  | c :: cs =>
    let kept := Text.Utf8.encodeChar c ++ percentDecode cs
    if c = '%' then
      match cs with
      | high :: low :: rest =>
        match Text.hexDigit? high, Text.hexDigit? low with
        | some h, some l => UInt8.ofNat (h * 16 + l) :: percentDecode rest
        | _, _ => kept
      | _ => kept
    else kept

def printableExcept (reserved : List Char) (c : Char) : Bool :=
  0x20 ≤ c.toNat && c.toNat ≤ 0x7E && !reserved.contains c

def keepInPath : Char → Bool :=
  printableExcept [' ', '"', '#', '<', '>', '?', '\x60', '\x7b', '\x7d']

def keepInUser : Char → Bool :=
  printableExcept
    [' ', '"', '#', '<', '>', '?', '\x60', '\x7b', '\x7d', '/', ':', ';', '=', '@', '[', '\\', ']',
     '^', '|']

def keepInQuery : Char → Bool := printableExcept [' ', '"', '#', '<', '>']

def keepInFragment : Char → Bool := printableExcept [' ', '"', '<', '>', '\x60']

/-- A character of a form field; a space becomes a plus sign. -/
def formChar (c : Char) : List Char :=
  if c = ' ' then ['+']
  else percentChar (fun c => c.isAlphanum || c == '*' || c == '-' || c == '.' || c == '_') c

def formField (name value : String) : List Char :=
  name.toList.flatMap formChar ++ '=' :: value.toList.flatMap formChar

inductive SchemeKind where
  /-- Addresses of the network: they have a host, and backslashes count as slashes. -/
  | network (defaultPort : Nat)
  | file
  | other
deriving DecidableEq

def networkSchemes : List (String × Nat) :=
  [("http", 80), ("https", 443), ("ws", 80), ("wss", 443), ("ftp", 21)]

namespace SchemeKind

def ofScheme (scheme : List Char) : SchemeKind :=
  if scheme = "file".toList then .file
  else
    match networkSchemes.lookup (String.ofList scheme) with
    | some port => .network port
    | none => .other

def isSlash (k : SchemeKind) (c : Char) : Bool := c == '/' || (c == '\\' && k != .other)

def keepInQuery (k : SchemeKind) (c : Char) : Bool :=
  Http.keepInQuery c && (c != '\'' || k == .other)

end SchemeKind

def isSchemeChar (c : Char) : Bool := c.isAlphanum || c == '+' || c == '-' || c == '.'

def splitScheme? (cs : List Char) : Option (List Char × List Char) :=
  match cs.takeWhile isSchemeChar, cs.dropWhile isSchemeChar with
  | c :: scheme, ':' :: rest =>
    if c.isAlpha then some ((c :: scheme).map Char.toLower, rest) else none
  | _, _ => none

def dots : List (List Char) := [".", "%2e"].map String.toList

def isDot (s : List Char) : Bool := dots.contains (s.map Char.toLower)

def isDotDot (s : List Char) : Bool :=
  (dots.flatMap fun a => dots.map (a ++ ·)).contains (s.map Char.toLower)

/-- A letter and a colon, or a bar in its place. -/
def isDriveLetter : List Char → Bool
  | [c, mark] => c.isAlpha && (mark == ':' || mark == '|')
  | _ => false

/-- Resolves the dot segments. `done` are the segments before, the last first. No way leads up from
a drive. -/
def resolveDots (done : List (List Char)) : List (List Char) → List (List Char)
  | [] => done.reverse
  | s :: rest =>
    if isDotDot s then
      let up := if done.head?.any isDriveLetter then done else done.tail
      if rest.isEmpty then up.reverse ++ [[]] else resolveDots up rest
    else if isDot s then
      if rest.isEmpty then (done.reverse ++ [[]]) else resolveDots done rest
    else resolveDots (s :: done) rest

def joinSegments (segments : List (List Char)) : List Char :=
  segments.flatMap fun s => '/' :: percentEncode keepInPath s

def segmentsOf (k : SchemeKind) (cs : List Char) : List (List Char) :=
  resolveDots [] (Text.splitAll k.isSlash cs)

def pathBehindHost (k : SchemeKind) (cs : List Char) : List Char :=
  match cs with
  | [] => if k = .other then [] else ['/']
  | c :: rest => joinSegments (segmentsOf k (if k.isSlash c then rest else cs))

def fileSegments (cs : List Char) : List (List Char) × Bool :=
  match segmentsOf .file cs with
  | [c, mark] :: rest =>
    if isDriveLetter [c, mark] then ([c, ':'] :: rest, true) else ([c, mark] :: rest, false)
  | segments =>
    match segments.dropWhile (· == []) with
    | [] => ([[]], false)
    | segments => (segments, false)

end ChatAgents.Http
