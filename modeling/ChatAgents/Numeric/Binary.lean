set_option autoImplicit false

/-!
# Binary floating-point numbers

A finite number is kept as sign, mantissa and exponent, so that every operation is exact
arithmetic on natural numbers followed by one rounding: to the nearest number of the format,
a tie to the even mantissa. `none` stands for a result beyond the largest number.
-/

namespace ChatAgents.Numeric

/-- Numbers `m · 2 ^ q` with `m < 2 ^ precision` and `minExponent ≤ q ≤ maxExponent`. -/
structure Format where
  precision : Nat
  minExponent : Int
  maxExponent : Int

def Format.double : Format := ⟨53, -1074, 971⟩

def Format.single : Format := ⟨24, -149, 104⟩

/-- The finite number `± mantissa · 2 ^ exponent`. -/
structure Binary where
  negative : Bool
  mantissa : Nat
  exponent : Int
deriving DecidableEq, Inhabited

/-- `num / den` to the nearest natural number, a half to the even one. -/
def roundHalfEven (num den : Nat) : Nat :=
  let q := num / den
  let r := num % den
  if 2 * r < den then q
  else if den < 2 * r then q + 1
  else if q % 2 = 0 then q else q + 1

def roundAt (num den : Nat) (e : Int) : Nat :=
  if 0 ≤ e then roundHalfEven num (den * Nat.pow 2 e.toNat)
  else roundHalfEven (num * Nat.pow 2 (-e).toNat) den

/-- The exponent that gives `num / den` as many significant bits as the format has. -/
def Format.lastPlace (f : Format) (num den : Nat) : Int :=
  let a := num.log2
  let b := den.log2
  let below := if b ≤ a then num < den * Nat.pow 2 (a - b) else num * Nat.pow 2 (b - a) < den
  let e : Int := (a : Int) - b - f.precision + (if below then 0 else 1)
  max e f.minExponent

namespace Binary

def ofRatio (f : Format) (negative : Bool) (num den : Nat) : Option Binary :=
  if num = 0 then some ⟨negative, 0, f.minExponent⟩
  else
    let e := f.lastPlace num den
    let m := roundAt num den e
    let (m, e) := if m = Nat.pow 2 f.precision then (Nat.pow 2 (f.precision - 1), e + 1) else (m, e)
    if f.maxExponent < e then none else some ⟨negative, m, e⟩

def ofNat (f : Format) (n : Nat) : Option Binary := ofRatio f false n 1

def ofInt (f : Format) (n : Int) : Option Binary := ofRatio f (decide (n < 0)) n.natAbs 1

def ratio (x : Binary) : Nat × Nat :=
  if 0 ≤ x.exponent then (x.mantissa * Nat.pow 2 x.exponent.toNat, 1)
  else (x.mantissa, Nat.pow 2 (-x.exponent).toNat)

def isZero (x : Binary) : Bool := x.mantissa == 0

def neg (x : Binary) : Binary := { x with negative := !x.negative }

def convert (f : Format) (x : Binary) : Option Binary :=
  ofRatio f x.negative x.ratio.1 x.ratio.2

def mul (f : Format) (x y : Binary) : Option Binary :=
  ofRatio f (x.negative != y.negative) (x.ratio.1 * y.ratio.1) (x.ratio.2 * y.ratio.2)

def div (f : Format) (x y : Binary) : Option Binary :=
  ofRatio f (x.negative != y.negative) (x.ratio.1 * y.ratio.2) (x.ratio.2 * y.ratio.1)

end Binary
end ChatAgents.Numeric
