import ChatAgents.Http.Url.DomainLetters
import ChatAgents.Http.Url.Punycode
import ChatAgents.Text.Direction
import ChatAgents.Text.Joining
import ChatAgents.Text.Normal
import ChatAgents.Text.Unseen
set_option autoImplicit false

namespace ChatAgents.Http.DomainName

def plain (c : Char) : List Char := if Punycode.isAscii c then [c.toLower] else standsFor c

def plainText (cs : List Char) : List Char :=
  if cs.all Punycode.isAscii then cs.map Char.toLower else Text.normal (cs.flatMap plain)

def isReserved (c : Char) : Bool :=
  c.toNat ≤ 0x20 || c.toNat == 0x7F ||
    ['%', '#', '/', ':', '<', '>', '?', '@', '[', '\\', ']', '^', '|'].contains c

def isRefused (c : Char) : Bool :=
  isReserved c || Text.inRanges refusedRanges c ||
    (Text.isUnseen c && !Text.inRanges futureIdeographRanges c)

def nonJoiner : Char := '\u200c'

def joiner : Char := '\u200d'

/-- A joiner or its opposite may stand between the characters `before`, the last first, and `after`:
behind a mark that suppresses a vowel, or between two letters that would join without it. -/
def mayPart (c : Char) (before after : List Char) : Bool :=
  before.head?.any (fun p => Text.combiningClass p == Text.vowelKillerClass) ||
    (c == nonJoiner && (before.dropWhile Text.isTransparent).head?.any Text.joinsNext &&
      (after.dropWhile Text.isTransparent).head?.any Text.joinsPrevious)

/-- The characters may stand in a label behind those `before`, of which the last comes first. -/
def mayFollow (before : List Char) : List Char → Bool
  | [] => true
  | c :: cs =>
    (if c = nonJoiner ∨ c = joiner then mayPart c before cs else !isRefused c) &&
      mayFollow (c :: before) cs

def maxLabel : Nat := 1000

/-- A label of plain letters may stand in a name: it does not begin with a mark, and all of its
characters may. -/
def isLabel (cs : List Char) : Bool :=
  cs.length ≤ maxLabel && !cs.head?.any Text.isMark && mayFollow [] cs

structure Label where
  text : List Char
  ascii : List Char

def mark : List Char := "xn--".toList

def maxPunycode : Nat := 2000

def decode? (cs : List Char) : Option (List Char) := do
  let written := cs.drop mark.length
  guard (written.length ≤ maxPunycode)
  let text ← Punycode.decode? written
  guard (text.any (fun c => !Punycode.isAscii c) && plainText text == text && isLabel text)
  return text

def label? (cs : List Char) : Option Label :=
  if cs.all Punycode.isAscii then
    if cs.any isReserved then none
    else if mark.isPrefixOf cs then (decode? cs).map (⟨·, cs⟩)
    else some ⟨cs, cs⟩
  else if isLabel cs && !mark.isPrefixOf cs then some ⟨cs, mark ++ Punycode.encode cs⟩
  else none

def turns (c : Char) : Bool :=
  [.rightToLeft, .arabicNumber].contains (Text.direction c)

/-- The characters behind the first one keep to the direction of the label, up to its end, and the
label has the numbers of one kind only. -/
def keepsDirection (first : Text.Direction) (rest : List Text.Direction) : Bool :=
  let rest := (rest.reverse.dropWhile (· = .mark)).reverse
  let own : List Text.Direction :=
    if first = .leftToRight then [.leftToRight, .europeanNumber]
    else [.rightToLeft, .europeanNumber, .arabicNumber]
  rest.getLast?.all own.contains && rest.all (.mark :: .neutral :: own).contains &&
    !(rest.contains .europeanNumber && rest.contains .arabicNumber)

def hasDirection (cs : List Char) : Bool :=
  match cs.map Text.direction with
  | [] => true
  | first :: rest =>
    (first = .leftToRight ∨ first = .rightToLeft) && keepsDirection first rest

def toAscii? (cs : List Char) : Option (List Char) := do
  let labels ← (Text.splitAll (· == '.') (plainText cs)).mapM label?
  guard (labels.all (fun l => !l.text.any turns) || labels.all fun l => hasDirection l.text)
  return ['.'].intercalate (labels.map Label.ascii)

end ChatAgents.Http.DomainName
