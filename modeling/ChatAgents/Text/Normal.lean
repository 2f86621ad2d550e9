import ChatAgents.Text.CombiningClass
import ChatAgents.Text.Decomposition
set_option autoImplicit false

namespace ChatAgents.Text

def firstSyllable : Nat := 0xAC00

def firstLeading : Nat := 0x1100

def firstVowel : Nat := 0x1161

/-- One before the first trailing consonant, for the syllables that have none. -/
def noTrailing : Nat := 0x11A7

def leadingCount : Nat := 19

def vowelCount : Nat := 21

def trailingCount : Nat := 28

def placeIn? (first count : Nat) (c : Char) : Option Nat :=
  if first ≤ c.toNat ∧ c.toNat < first + count then some (c.toNat - first) else none

def syllableParts? (c : Char) : Option (List Char) :=
  (placeIn? firstSyllable (leadingCount * vowelCount * trailingCount) c).map fun n =>
    let parts :=
      [firstLeading + n / trailingCount / vowelCount,
        firstVowel + n / trailingCount % vowelCount,
        noTrailing + n % trailingCount]
    (parts.filter (· != noTrailing)).map Char.ofNat

def syllable? (c d : Char) : Option Char :=
  match placeIn? firstLeading leadingCount c, placeIn? firstVowel vowelCount d with
  | some l, some v => some (Char.ofNat (firstSyllable + (l * vowelCount + v) * trailingCount))
  | _, _ =>
    match placeIn? firstSyllable (leadingCount * vowelCount * trailingCount) c,
        placeIn? (noTrailing + 1) (trailingCount - 1) d with
    | some n, some t =>
      if n % trailingCount = 0 then some (Char.ofNat (firstSyllable + n + t + 1)) else none
    | _, _ => none

def parts (c : Char) : List Char := (syllableParts? c).getD (decompositions.target c)

/-- The last parts of the characters; parts of parts of parts have no parts. -/
def decompose (cs : List Char) : List Char := ((cs.flatMap parts).flatMap parts).flatMap parts

def insertMark (c : Char) : List Char → List Char
  | [] => [c]
  | d :: ds =>
    if combiningClass d = 0 ∨ combiningClass c ≤ combiningClass d then c :: d :: ds
    else d :: insertMark c ds

/-- Sorts the marks behind each character by their classes, and leaves those of one class as they
are. -/
def orderMarks : List Char → List Char
  | [] => []
  | c :: cs => if combiningClass c = 0 then c :: orderMarks cs else insertMark c (orderMarks cs)

theorem insertMark_perm (c : Char) (cs : List Char) : (insertMark c cs).Perm (c :: cs) := by
  fun_induction insertMark c cs with
  | case1 => rfl
  | case2 => rfl
  | case3 d ds h ih => exact (ih.cons d).trans (List.Perm.swap c d ds)

theorem orderMarks_perm (cs : List Char) : (orderMarks cs).Perm cs := by
  fun_induction orderMarks cs with
  | case1 => rfl
  | case2 c cs h ih => exact ih.cons c
  | case3 c cs h ih => exact (insertMark_perm c _).trans (ih.cons c)

def composite? (c d : Char) : Option Char :=
  (syllable? c d).or ((composites.find? fun row => row.2 == [c, d]).map (·.1))

/-- Puts a character together with those behind it. `kept` are the marks between that stay, the last
first; a mark of the class of the last one cannot pass it. -/
def composeFrom (c : Char) (kept : List Char) : List Char → List Char
  | [] => c :: kept.reverse
  | d :: ds =>
    let free := kept.head?.all fun k => combiningClass k < combiningClass d
    match if free then composite? c d else none with
    | some e => composeFrom e kept ds
    | none =>
      if combiningClass d = 0 then c :: kept.reverse ++ composeFrom d [] ds
      else composeFrom c (d :: kept) ds

def compose : List Char → List Char
  | [] => []
  | c :: cs => if combiningClass c = 0 then composeFrom c [] cs else c :: compose cs

def normal (cs : List Char) : List Char := compose (orderMarks (decompose cs))

end ChatAgents.Text
