import ChatAgents.Numeric.Binary
set_option autoImplicit false

namespace ChatAgents.Numeric

structure Decimal where
  digits : Nat
  exponent : Int
deriving DecidableEq, Inhabited

/-- The `k` with `10 ^ (k - 1) ≤ num / den < 10 ^ k`. -/
def magnitude (num den : Nat) : Int :=
  if den ≤ num then ((Nat.toDigits 10 (num / den)).length : Int)
  else 1 - ((Nat.toDigits 10 ((den + num - 1) / num - 1)).length : Int)

/-- `num / den` lies between the fractions `low` and `high`, which share the denominator `den'`. -/
def within (closed : Bool) (low high den' num den : Nat) : Bool :=
  if closed then low * den ≤ num * den' && num * den' ≤ high * den
  else low * den < num * den' && num * den' < high * den

def Decimal.stripZeros (fuel : Nat) (d : Decimal) : Decimal :=
  match fuel with
  | 0 => d
  | fuel + 1 =>
    if d.digits ≠ 0 ∧ d.digits % 10 = 0 then stripZeros fuel ⟨d.digits / 10, d.exponent + 1⟩ else d

/-- A mantissa and its neighbours, in quarters of the last place: the number, and the ends of the
interval that rounds to it. -/
structure Quarters where
  low : Nat
  mid : Nat
  high : Nat
  den : Nat
  closed : Bool

def Binary.quarters (f : Format) (x : Binary) : Quarters :=
  let step := if x.mantissa = Nat.pow 2 (f.precision - 1) ∧ f.minExponent < x.exponent then 1 else 2
  let e := x.exponent - 2
  let scale := if 0 ≤ e then Nat.pow 2 e.toNat else 1
  let den := if 0 ≤ e then 1 else Nat.pow 2 (-e).toNat
  { low := (4 * x.mantissa - step) * scale, mid := 4 * x.mantissa * scale,
    high := (4 * x.mantissa + 2) * scale, den, closed := x.mantissa % 2 == 0 }

/-- The best point of the grid `10 ^ e` inside the interval, if one lies there. -/
def Quarters.onGrid (q : Quarters) (e : Int) : Option Decimal :=
  let up := if 0 ≤ e then Nat.pow 10 e.toNat else 1
  let down := if 0 ≤ e then 1 else Nat.pow 10 (-e).toNat
  let num := q.mid * down
  let den := q.den * up
  let d := num / den
  let inside (c : Nat) : Bool := within q.closed q.low q.high q.den (c * up) down
  match inside d, inside (d + 1) with
  | true, true =>
    let r := 2 * (num % den)
    some ⟨if r < den ∨ (r = den ∧ d % 2 = 0) then d else d + 1, e⟩
  | true, false => some ⟨d, e⟩
  | false, true => some ⟨d + 1, e⟩
  | false, false => none

/-- The fewest digits that round back to `x`. Seventeen always do in double precision. -/
def Binary.shortest (f : Format) (x : Binary) : Decimal :=
  if x.mantissa = 0 then ⟨0, 0⟩
  else
    let q := x.quarters f
    let k := magnitude q.mid q.den
    let found := (List.range 17).findSome? fun n => q.onGrid (k - (n + 1 : Nat))
    (found.getD ⟨0, 0⟩).stripZeros 17

def Decimal.toBinary (f : Format) (negative : Bool) (d : Decimal) : Option Binary :=
  if 0 ≤ d.exponent then Binary.ofRatio f negative (d.digits * Nat.pow 10 d.exponent.toNat) 1
  else Binary.ofRatio f negative d.digits (Nat.pow 10 (-d.exponent).toNat)

end ChatAgents.Numeric
