import ChatAgents.Text.Characters
set_option autoImplicit false

namespace ChatAgents.Http

def digitsValue? (base : Nat) (cs : List Char) : Option Nat :=
  cs.foldlM (fun n c => do
    let d ← Text.hexDigit? c
    if d < base then some (n * base + d) else none) 0

namespace IpV4

/-- A number of an address: hexadecimal behind `0x`, octal behind `0`, otherwise decimal. -/
def number? : List Char → Option Nat
  | [] => none
  | '0' :: 'x' :: cs | '0' :: 'X' :: cs => digitsValue? 16 cs
  | ['0'] => some 0
  | '0' :: cs => digitsValue? 8 cs
  | cs => digitsValue? 10 cs

def parts (name : List Char) : List (List Char) :=
  let all := Text.splitAll (· == '.') name
  if all.getLast? = some [] then all.dropLast else all

def endsInNumber (name : List Char) : Bool :=
  match (parts name).getLast? with
  | none | some [] => false
  | some last => last.all Char.isDigit || (number? last).isSome

/-- The bytes of the numbers before the last, and that one in the bytes that are left. -/
def ofNumbers? : (bytesLeft : Nat) → List Nat → Option Nat
  | left + 1, [n] => if n < Nat.pow 256 (left + 1) then some n else none
  | left + 1, n :: ns =>
    if n < 256 then (ofNumbers? left ns).map fun m => n * Nat.pow 256 left + m else none
  | _, _ => none

def read? (name : List Char) : Option Nat := do ofNumbers? 4 (← (parts name).mapM number?)

def decimal (n : Nat) : List Char := Nat.toDigits 10 n

def text (address : Nat) : List Char :=
  let byte (i : Nat) : List Char := decimal (address / Nat.pow 256 i % 256)
  byte 3 ++ '.' :: byte 2 ++ '.' :: byte 1 ++ '.' :: byte 0

end IpV4

namespace IpV6

def group? (cs : List Char) : Option Nat :=
  if cs = [] ∨ cs.length > 4 then none else digitsValue? 16 cs

def byte? (cs : List Char) : Option Nat :=
  if cs = [] ∨ (cs.length > 1 ∧ cs.head? = some '0') then none
  else (digitsValue? 10 cs).filter (· < 256)

def dotted? (cs : List Char) : Option (List Nat) := do
  match ← (Text.splitAll (· == '.') cs).mapM byte? with
  | [a, b, c, d] => some [a * 256 + b, c * 256 + d]
  | _ => none

/-- The groups of a text, the last of which may be dotted if nothing follows the text. -/
def groups? (atEnd : Bool) : List (List Char) → Option (List Nat)
  | [] => some []
  | [last] =>
    if atEnd && last.contains '.' then dotted? last else (group? last).map fun n => [n]
  | part :: rest => do return (← group? part) :: (← groups? atEnd rest)

def side? (atEnd : Bool) (cs : List Char) : Option (List Nat) :=
  if cs = [] then some [] else groups? atEnd (Text.splitAll (· == ':') cs)

def splitGap? : List Char → Option (List Char × List Char)
  | [] => none
  | ':' :: ':' :: rest => some ([], rest)
  | c :: rest => (splitGap? rest).map fun (front, back) => (c :: front, back)

def read? (cs : List Char) : Option (List Nat) :=
  match splitGap? cs with
  | none => (side? true cs).filter (·.length = 8)
  | some (front, back) => do
    let front ← side? false front
    let back ← side? true back
    if front.length + back.length < 8 then
      some (front ++ List.replicate (8 - front.length - back.length) 0 ++ back)
    else none

def hexadecimal (n : Nat) : List Char := Nat.toDigits 16 n

def join (groups : List Nat) : List Char := [':'].intercalate (groups.map hexadecimal)

def zeros (groups : List Nat) : Nat := (groups.takeWhile (· == 0)).length

def gapStart (groups : List Nat) : Nat :=
  (List.range groups.length).foldl
    (fun best i => if zeros (groups.drop best) < zeros (groups.drop i) then i else best) 0

/-- The groups, with two colons in place of the first of the longest runs of zeros, if it is longer
than one. -/
def text (groups : List Nat) : List Char :=
  let start := gapStart groups
  let length := zeros (groups.drop start)
  if length < 2 then join groups
  else join (groups.take start) ++ [':', ':'] ++ join (groups.drop (start + length))

end IpV6

example : (IpV4.read? "0x7f.1".toList).map IpV4.text = some "127.0.0.1".toList := by decide

example : (IpV6.read? "1:0::2:0:0:1.2.3.4".toList).map IpV6.text =
    some "1::2:0:0:102:304".toList := by decide

end ChatAgents.Http
