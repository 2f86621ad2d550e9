import ChatAgents.Json.Basic
set_option autoImplicit false

/-!
# Numerals

How the text of a number is read. An integer that fits 64 bits is kept exactly. Anything else is a
double: the leading digits that fit an unsigned 64-bit word are rounded once, and multiplied or
divided once by a power of ten, so the last bit may differ from the nearest double.
-/

namespace ChatAgents.Json

open Numeric (Binary Format)

structure Numeral where
  negative : Bool
  whole : List Nat
  /-- The digits after the point, empty without one. -/
  fraction : List Nat
  /-- The power of ten, if one is written. -/
  power : Option Int

def digit? (c : Char) : Option Nat := if c.isDigit then some (c.toNat - 48) else none

def spanDigits (cs : List Char) : List Nat × List Char :=
  ((cs.takeWhile Char.isDigit).filterMap digit?, cs.dropWhile Char.isDigit)

def ofDigits (ds : List Nat) : Nat := ds.foldl (fun n d => n * 10 + d) 0

def readPower? (cs : List Char) : Option Int :=
  let (negative, cs) :=
    match cs with
    | '-' :: r => (true, r)
    | '+' :: r => (false, r)
    | r => (false, r)
  match spanDigits cs with
  | (d :: ds, []) =>
    let n : Int := ofDigits (d :: ds)
    some (if negative then -n else n)
  | _ => none

def readTail? (negative : Bool) (whole fraction : List Nat) : List Char → Option Numeral
  | [] => some ⟨negative, whole, fraction, none⟩
  | c :: cs =>
    if c = 'e' ∨ c = 'E' then
      (readPower? cs).map fun p => ⟨negative, whole, fraction, some p⟩
    else none

def Numeral.ofChars? (cs : List Char) : Option Numeral :=
  let (negative, cs) :=
    match cs with
    | '-' :: r => (true, r)
    | r => (false, r)
  match spanDigits cs with
  | ([], _) => none
  | (0 :: _ :: _, _) => none
  | (whole, '.' :: r) =>
    match spanDigits r with
    | ([], _) => none
    | (fraction, r) => readTail? negative whole fraction r
  | (whole, r) => readTail? negative whole [] r

/-- Appends digits to a significand as long as the result fits an unsigned 64-bit word. -/
def gather (significand : Nat) : List Nat → Nat × List Nat
  | [] => (significand, [])
  | d :: ds =>
    if significand * 10 + d < UInt64.size then gather (significand * 10 + d) ds
    else (significand, d :: ds)

def maxPower : Nat := 308

def powerOfTen (n : Nat) : Binary := (Binary.ofNat .double (Nat.pow 10 n)).getD default

/-- `x / 10 ^ n`, by steps of the largest power. Two steps take any 64-bit word to zero. -/
def scaleDown (fuel : Nat) (x : Binary) (n : Nat) : Option Binary :=
  if x.isZero then some x
  else if n ≤ maxPower then x.div .double (powerOfTen n)
  else
    match fuel with
    | 0 => some { x with mantissa := 0, exponent := Format.double.minExponent }
    | fuel + 1 =>
      (x.div .double (powerOfTen maxPower)).bind fun y => scaleDown fuel y (n - maxPower)

/-- `significand · 10 ^ power`; `none` beyond the largest double. -/
def scale? (significand : Nat) (power : Int) : Option Binary :=
  (Binary.ofNat .double significand).bind fun x =>
    if power < 0 then scaleDown 3 x power.natAbs
    else if x.isZero then some x
    else if power.toNat ≤ maxPower then x.mul .double (powerOfTen power.toNat)
    else none

def Numeral.value? (n : Numeral) : Option Json :=
  let (significand, dropped) := gather 0 n.whole
  let (all, ignored) := gather significand n.fraction
  let sign (x : Binary) : Json := .float (if n.negative then x.neg else x)
  if n.fraction = [] ∧ n.power = none ∧ dropped = [] then
    if !n.negative then some (.int significand)
    else if 0 < significand ∧ significand ≤ UInt64.size / 2 then some (.int (-significand))
    else (Binary.ofNat .double significand).map sign
  else
    let used := n.fraction.length - ignored.length
    (scale? all (dropped.length - used + n.power.getD 0)).map sign

def number? (cs : List Char) : Option Json := (Numeral.ofChars? cs).bind Numeral.value?

end ChatAgents.Json
