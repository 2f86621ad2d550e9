set_option autoImplicit false

/-!
# UTF-8 and Base64

Bytes are decoded by a machine that reads one byte at a time. It reports a malformed sequence once
for its longest prefix that some character could begin with, and then looks at the offending byte
afresh. `decode?` wants well-formed input; `decodeLossy` puts U+FFFD where a report stands. Base64
has the standard alphabet, with padding.
-/

namespace ChatAgents.Text.Utf8

def encodeChar (c : Char) : List UInt8 := (String.utf8EncodeChar c)

def encode (s : String) : List UInt8 := s.toList.flatMap encodeChar

/-- Where the decoder stands: between characters, or in one that still needs `more` bytes, the next
of which lies between `low` and `high`. -/
inductive State where
  | between
  | inside (more : Nat) (value : Nat) (low high : UInt8)

/-- The state after a first byte, or `none` for a byte that begins no character. One-byte characters
are not first bytes. -/
def State.ofLead? (b : UInt8) : Option State :=
  let v := b.toNat
  if 0xC2 ≤ v ∧ v ≤ 0xDF then some (.inside 1 (v % 32) 0x80 0xBF)
  else if v = 0xE0 then some (.inside 2 (v % 16) 0xA0 0xBF)
  else if v = 0xED then some (.inside 2 (v % 16) 0x80 0x9F)
  else if 0xE1 ≤ v ∧ v ≤ 0xEF then some (.inside 2 (v % 16) 0x80 0xBF)
  else if v = 0xF0 then some (.inside 3 (v % 8) 0x90 0xBF)
  else if v = 0xF4 then some (.inside 3 (v % 8) 0x80 0x8F)
  else if 0xF1 ≤ v ∧ v ≤ 0xF3 then some (.inside 3 (v % 8) 0x80 0xBF)
  else none

/-- Reads a byte between characters; `none` among the characters reports a malformed sequence. -/
def stepBetween (b : UInt8) : List (Option Char) × State :=
  if b < 0x80 then ([some (Char.ofNat b.toNat)], .between)
  else
    match State.ofLead? b with
    | some s => ([], s)
    | none => ([none], .between)

def step : State → UInt8 → List (Option Char) × State
  | .between, b => stepBetween b
  | .inside more value low high, b =>
    if low ≤ b ∧ b ≤ high then
      let value := value * 64 + b.toNat % 64
      match more with
      | 0 | 1 => ([some (Char.ofNat value)], .between)
      | more + 1 => ([], .inside more value 0x80 0xBF)
    else
      let (out, s) := stepBetween b
      (none :: out, s)

def decodeFrom : State → List UInt8 → List (Option Char)
  | .between, [] => []
  | .inside .., [] => [none]
  | s, b :: bs =>
    let (out, s') := step s b
    out ++ decodeFrom s' bs

def replacement : Char := Char.ofNat 0xFFFD

def decodeLossy (bs : List UInt8) : List Char := (decodeFrom .between bs).map (·.getD replacement)

def decode? (bs : List UInt8) : Option (List Char) := (decodeFrom .between bs).mapM id

def toStringLossy (bs : List UInt8) : String := String.ofList (decodeLossy bs)

end ChatAgents.Text.Utf8

namespace ChatAgents.Text.Base64

def digit (n : Nat) : Char :=
  if n < 26 then Char.ofNat (n + 65)
  else if n < 52 then Char.ofNat (n + 71)
  else if n < 62 then Char.ofNat (n - 4)
  else if n = 62 then '+' else '/'

def encodeChars : List UInt8 → List Char
  | [] => []
  | [a] => [digit (a.toNat / 4), digit (a.toNat % 4 * 16), '=', '=']
  | [a, b] =>
    [digit (a.toNat / 4), digit (a.toNat % 4 * 16 + b.toNat / 16), digit (b.toNat % 16 * 4), '=']
  | a :: b :: c :: rest =>
    digit (a.toNat / 4) :: digit (a.toNat % 4 * 16 + b.toNat / 16) ::
      digit (b.toNat % 16 * 4 + c.toNat / 64) :: digit (c.toNat % 64) :: encodeChars rest

def encode (bs : List UInt8) : String := String.ofList (encodeChars bs)

example : encode [0x66, 0x6F] = "Zm8=" := by decide
example : encode [0xFA, 0x1F, 0x44, 0x69] = "+h9EaQ==" := by decide

end ChatAgents.Text.Base64
