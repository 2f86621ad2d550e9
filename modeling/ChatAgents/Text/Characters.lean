set_option autoImplicit false

/-!
# Characters

Kinds of characters are tables of ranges of code points. What characters stand for is a table too. A
large one is written down in words of hexadecimal numbers: a number with a colon names a character,
and the words behind it say what that one and the next ones stand for, such as `41+300` for the
characters 41 and 300.
-/

namespace ChatAgents.Text

def inRanges (ranges : List (Nat × Nat)) (c : Char) : Bool :=
  ranges.any fun (low, high) => low ≤ c.toNat && c.toNat ≤ high

def increasing (ranges : List (Nat × Nat)) : Bool :=
  ranges.all (fun r => r.1 ≤ r.2) && (ranges.zip ranges.tail).all fun (r, s) => r.2 < s.1

theorem inRanges_iff {ranges : List (Nat × Nat)} {c : Char} :
    inRanges ranges c = true ↔ ∃ r ∈ ranges, r.1 ≤ c.toNat ∧ c.toNat ≤ r.2 := by
  simp [inRanges]

/-- The characters with the Unicode property White_Space, as inclusive ranges of code points. -/
def blankRanges : List (Nat × Nat) :=
  [(0x9, 0xD), (0x20, 0x20), (0x85, 0x85), (0xA0, 0xA0), (0x1680, 0x1680), (0x2000, 0x200A),
   (0x2028, 0x2029), (0x202F, 0x202F), (0x205F, 0x205F), (0x3000, 0x3000)]

def isBlank (c : Char) : Bool := inRanges blankRanges c

example : blankRanges.length = 10 := rfl

def dropTail (p : Char → Bool) (cs : List Char) : List Char :=
  (cs.reverse.dropWhile p).reverse

def trimEndChars (cs : List Char) : List Char := dropTail isBlank cs

def trimChars (cs : List Char) : List Char := trimEndChars (cs.dropWhile isBlank)

def trim (s : String) : String := String.ofList (trimChars s.toList)

def isBlankText (s : String) : Bool := s.toList.all isBlank

def dropTrailingSlashes (s : String) : String := String.ofList (dropTail (· == '/') s.toList)

@[simp] theorem dropTail_nil (p : Char → Bool) : dropTail p [] = [] := rfl

theorem dropTail_concat (p : Char → Bool) (cs : List Char) (c : Char) :
    dropTail p (cs ++ [c]) = if p c then dropTail p cs else cs ++ [c] := by
  by_cases h : p c <;> simp [dropTail, h]

@[simp] theorem toList_trim (s : String) : (trim s).toList = trimChars s.toList := by simp [trim]

@[simp] theorem toList_dropTrailingSlashes (s : String) :
    (dropTrailingSlashes s).toList = dropTail (· == '/') s.toList := by simp [dropTrailingSlashes]

/-- The lower case of a character as far as it holds ASCII letters; another character stays as it
is, which no comparison with an ASCII word can tell from its own lower case. Outside ASCII, the
Kelvin sign is written `k` and a dotted capital I as `i` and a combining dot. -/
def lowerChar (c : Char) : List Char :=
  if c.isUpper then [c.toLower]
  else if c = '\u212a' then ['k']
  else if c = '\u0130' then ['i', '\u0307']
  else [c]

def lower (s : String) : List Char := s.toList.flatMap lowerChar

/-- `s` is the word `w`, which is in lower case and in ASCII, but for the case of its letters. -/
def equalsFolded (s w : String) : Bool := lower s == w.toList

def endsFolded (s w : String) : Bool := w.toList.isSuffixOf (lower s)

def hexDigit? (c : Char) : Option Nat :=
  if c.isDigit then some (c.toNat - 48)
  else if 'a' ≤ c ∧ c ≤ 'f' then some (c.toNat - 87)
  else if 'A' ≤ c ∧ c ≤ 'F' then some (c.toNat - 55)
  else none

def upperHexDigit (n : Nat) : Char := if n < 10 then Char.ofNat (48 + n) else Char.ofNat (55 + n)

/-- The parts between the characters that satisfy `p`; one more than there are such characters. -/
def splitAll (p : Char → Bool) : List Char → List (List Char)
  | [] => [[]]
  | c :: cs =>
    if p c then [] :: splitAll p cs
    else
      match splitAll p cs with
      | [] => [[c]]
      | part :: rest => (c :: part) :: rest

/-- The text before the first such character, and what follows that character, if there is one. -/
def splitFirst (mark : Char) (cs : List Char) : List Char × Option (List Char) :=
  match cs.dropWhile (· != mark) with
  | [] => (cs, none)
  | _ :: rest => (cs.takeWhile (· != mark), some rest)

def splitLast (mark : Char) (cs : List Char) : Option (List Char) × List Char :=
  match splitFirst mark cs.reverse with
  | (last, none) => (none, last.reverse)
  | (last, some front) => (some front.reverse, last.reverse)

theorem splitAll_ne_nil (p : Char → Bool) (cs : List Char) : splitAll p cs ≠ [] := by
  cases cs with
  | nil => simp [splitAll]
  | cons c cs =>
    rw [splitAll]
    split
    · simp
    · split <;> simp

/-- The characters that stand for others, each with those others. -/
abbrev Substitution := List (Char × List Char)

namespace Substitution

def target (s : Substitution) (c : Char) : List Char := (s.lookup c).getD [c]

def hexNumber (cs : List Char) : Nat := cs.foldl (fun n c => 16 * n + (hexDigit? c).getD 0) 0

/-- Reads words of which the first is about the character of number `next`. -/
def readWords (next : Nat) : List (List Char) → Substitution
  | [] => []
  | w :: ws =>
    if w.getLast? = some ':' then readWords (hexNumber w.dropLast) ws
    else
      (Char.ofNat next, (splitAll (· == '+') w).map fun n => Char.ofNat (hexNumber n)) ::
        readWords (next + 1) ws

def ofLines (lines : List String) : Substitution :=
  readWords 0 (lines.flatMap fun line => splitAll (· == ' ') line.toList)

example : ofLines ["C0: 41+300 41+301", "DF: 73+73"] =
    [('À', ['A', '\u0300']), ('Á', ['A', '\u0301']), ('ß', ['s', 's'])] := by
  decide +kernel

end Substitution
end ChatAgents.Text
