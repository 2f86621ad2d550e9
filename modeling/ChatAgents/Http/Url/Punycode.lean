set_option autoImplicit false

namespace ChatAgents.Http.Punycode

def digit (n : Nat) : Char := if n < 26 then Char.ofNat (97 + n) else Char.ofNat (22 + n)

def digitValue? (c : Char) : Option Nat :=
  if c.isLower then some (c.toNat - 97)
  else if c.isUpper then some (c.toNat - 65)
  else if c.isDigit then some (c.toNat - 22)
  else none

/-- The threshold of the digit at a position, which grows by 36 from digit to digit. -/
def threshold (bias position : Nat) : Nat := min 26 (max 1 (position - bias))

theorem threshold_pos (bias position : Nat) : 0 < threshold bias position := by
  unfold threshold; omega

def firstBias : Nat := 72

def firstPoint : Nat := 128

def scaleDown (delta bias : Nat) : Nat :=
  if 455 < delta then scaleDown (delta / 35) (bias + 36) else bias + 36 * delta / (delta + 38)
termination_by delta
decreasing_by exact Nat.div_lt_self (by omega) (by omega)

/-- The bias after a number: large after large numbers. `count` characters are placed by then. -/
def adapt (delta count : Nat) (first : Bool) : Nat :=
  let delta := if first then delta / 700 else delta / 2
  scaleDown (delta + delta / count) 0

def digits (bias position n : Nat) : List Char :=
  let t := threshold bias position
  if n < t then [digit n]
  else digit (t + (n - t) % (36 - t)) :: digits bias (position + 36) ((n - t) / (36 - t))
termination_by n
decreasing_by
  have := threshold_pos bias position
  exact Nat.lt_of_le_of_lt (Nat.div_le_self _ _) (by omega)

structure Writer where
  output : List Char
  /-- The number of steps since the last character that was placed. -/
  delta : Nat
  bias : Nat
  placed : Nat

def Writer.pass (ascii point : Nat) (w : Writer) (c : Char) : Writer :=
  if c.toNat < point then { w with delta := w.delta + 1 }
  else if c.toNat = point then
    ⟨w.output ++ digits w.bias 36 w.delta, 0, adapt w.delta (w.placed + 1) (w.placed == ascii),
      w.placed + 1⟩
  else w

/-- Places the characters of the given numbers, which increase. `previous` is below them all. -/
def Writer.place (text : List Char) (ascii previous : Nat) (w : Writer) : List Nat → Writer
  | [] => w
  | point :: points =>
    let w := { w with delta := w.delta + (point - previous) * (w.placed + 1) }
    let w := text.foldl (Writer.pass ascii point) w
    place text ascii (point + 1) { w with delta := w.delta + 1 } points

def isAscii (c : Char) : Bool := c.toNat < firstPoint

def encode (text : List Char) : List Char :=
  let ascii := text.filter isAscii
  let points := ((text.filter fun c => !isAscii c).map Char.toNat).mergeSort.eraseDups
  let written := (Writer.mk [] 0 firstBias ascii.length).place text ascii.length firstPoint points
  ascii ++ (if ascii = [] then [] else ['-']) ++ written.output

structure Reader where
  text : List Char
  /-- The number of the last character placed. -/
  point : Nat
  bias : Nat
  /-- Where the last character was placed, and the number so far on top of it. -/
  start : Nat
  value : Nat
  position : Nat
  weight : Nat

def Reader.between (text : List Char) (point bias start : Nat) : Reader :=
  ⟨text, point, bias, start, start, 36, 1⟩

def Reader.step? (r : Reader) (c : Char) : Option Reader := do
  let d ← digitValue? c
  let t := threshold r.bias r.position
  let value := r.value + d * r.weight
  if t ≤ d then
    some { r with value, position := r.position + 36, weight := r.weight * (36 - t) }
  else
    let count := r.text.length + 1
    let point := r.point + value / count
    let place := value % count
    if point.isValidChar then
      some (.between (r.text.insertIdx place (Char.ofNat point)) point
        (adapt (value - r.start) count (r.start == 0)) (place + 1))
    else none

def splitLastHyphen (cs : List Char) : List Char × List Char :=
  match cs.reverse.dropWhile (· != '-') with
  | [] => ([], cs)
  | _ :: front => (front.reverse, cs.drop (front.length + 1))

def decode? (cs : List Char) : Option (List Char) :=
  let (ascii, numbers) := splitLastHyphen cs
  match numbers.foldlM Reader.step? (.between ascii firstPoint firstBias 0) with
  | some r => if ascii.all isAscii && r.weight = 1 then some r.text else none
  | none => none

end ChatAgents.Http.Punycode
