import ChatAgents.Json.Basic
set_option autoImplicit false

namespace ChatAgents.Json

open Numeric (Binary Format)

def natChars (n : Nat) : List Char := Nat.toDigits 10 n

def intChars (n : Int) : List Char :=
  if n < 0 then '-' :: natChars n.natAbs else natChars n.natAbs

def zeros (n : Nat) : List Char := List.replicate n '0'

def positional (digits : List Char) (k : Int) : List Char :=
  if k ≤ 0 then '0' :: '.' :: zeros (-k).toNat ++ digits
  else if digits.length ≤ k.toNat then digits ++ zeros (k.toNat - digits.length) ++ ['.', '0']
  else digits.take k.toNat ++ '.' :: digits.drop k.toNat

def scientific (digits : List Char) (e : Int) : List Char :=
  let mantissa :=
    match digits with
    | [] => []
    | [d] => [d]
    | d :: rest => d :: '.' :: rest
  mantissa ++ 'e' :: (if e < 0 then '-' else '+') :: natChars e.natAbs

def floatChars (x : Binary) : List Char :=
  let d := x.shortest .double
  let digits := natChars d.digits
  let e := d.exponent + digits.length - 1
  let sign := if x.negative then ['-'] else []
  sign ++ (if -5 ≤ e ∧ e < 16 then positional digits (e + 1) else scientific digits e)

def hexChar (n : Nat) : Char := if n < 10 then Char.ofNat (48 + n) else Char.ofNat (87 + n)

def escapeChar (c : Char) : List Char :=
  if c = '"' then ['\\', '"']
  else if c = '\\' then ['\\', '\\']
  else if c = '\x08' then ['\\', 'b']
  else if c = '\x0c' then ['\\', 'f']
  else if c = '\n' then ['\\', 'n']
  else if c = '\r' then ['\\', 'r']
  else if c = '\t' then ['\\', 't']
  else if c.toNat < 0x20 then ['\\', 'u', '0', '0', hexChar (c.toNat / 16), hexChar (c.toNat % 16)]
  else [c]

def quoted (s : String) : List Char := '"' :: s.toList.flatMap escapeChar ++ ['"']

mutual
def chars : Json → List Char
  | .null => ['n', 'u', 'l', 'l']
  | .bool true => ['t', 'r', 'u', 'e']
  | .bool false => ['f', 'a', 'l', 's', 'e']
  | .int n => intChars n
  | .float x => floatChars x
  | .str s => quoted s
  | .arr [] => ['[', ']']
  | .arr (v :: rest) => '[' :: (chars v ++ itemChars rest ++ [']'])
  | .obj [] => ['\x7b', '\x7d']
  | .obj ((k, v) :: rest) =>
    '\x7b' :: (quoted k ++ ':' :: (chars v ++ memberChars rest ++ ['\x7d']))

def itemChars : List Json → List Char
  | [] => []
  | v :: rest => ',' :: (chars v ++ itemChars rest)

def memberChars : List (String × Json) → List Char
  | [] => []
  | (k, v) :: rest => ',' :: (quoted k ++ ':' :: (chars v ++ memberChars rest))
end

def render (v : Json) : String := String.ofList v.chars

end ChatAgents.Json

namespace ChatAgents

open Numeric (Binary Format)

inductive Single where
  | finite (x : Binary)
  /-- Beyond the largest finite number. -/
  | infinite (negative : Bool)
deriving DecidableEq

namespace Single

def ofBinary? (negative : Bool) : Option Binary → Single
  | some x => .finite x
  | none => .infinite negative

def ofJson? : Json → Option Single
  | .int n => some (ofBinary? (decide (n < 0)) (Binary.ofInt .single n))
  | .float x => some (ofBinary? x.negative (x.convert .single))
  | _ => none

/-- Infinities have no number in JSON. -/
def toJson : Single → Json
  | .finite x =>
    match (x.shortest .single).toBinary .double x.negative with
    | some y => .float y
    | none => .null
  | .infinite _ => .null

end Single
end ChatAgents
