import ChatAgents.Json.Numeral
import ChatAgents.Text.Characters
set_option autoImplicit false

/-!
# Reading JSON

A machine reads a document one character at a time. Its lexical half (`Lexer`) turns characters into
tokens, its structural half (`Builder`) keeps the containers that are still open. `document?` is the
fold of the machine over the text, so a text is read as its parts are, one after the other.
-/

namespace ChatAgents.Json

inductive Token where
  | beginObject
  | endObject
  | beginArray
  | endArray
  | comma
  | colon
  | text (s : String)
  /-- A number, a truth value or `null`. -/
  | atom (v : Json)

/-- Where the lexer stands. Texts and words are kept in reverse. -/
inductive Lexer where
  | between
  | word (rev : List Char)
  | text (rev : List Char)
  | escape (rev : List Char)
  /-- After `\u` and some of its four digits; `lead?` is a leading surrogate before it. -/
  | unicode (rev : List Char) (lead? : Option Nat) (count value : Nat)
  /-- After a leading surrogate, where `\` and then `u` must follow. -/
  | lead (rev : List Char) (value : Nat)
  | leadEscape (rev : List Char) (value : Nat)

def isSpace (c : Char) : Bool := c == ' ' || c == '\t' || c == '\n' || c == '\r'

def isWordChar (c : Char) : Bool :=
  c.isDigit || c.isLower || c == '-' || c == '+' || c == '.' || c == 'E'

def punctuation? : Char → Option Token
  | '\x7b' => some .beginObject
  | '\x7d' => some .endObject
  | '[' => some .beginArray
  | ']' => some .endArray
  | ',' => some .comma
  | ':' => some .colon
  | _ => none

def atom? (word : List Char) : Option Json :=
  if word = ['n', 'u', 'l', 'l'] then some .null
  else if word = ['t', 'r', 'u', 'e'] then some (.bool true)
  else if word = ['f', 'a', 'l', 's', 'e'] then some (.bool false)
  else number? word

def escapes : List (Char × Char) :=
  [('"', '"'), ('\\', '\\'), ('/', '/'), ('b', '\x08'), ('f', '\x0c'), ('n', '\n'), ('r', '\r'),
   ('t', '\t')]

/-- The state after the four digits of an escape. Surrogates must come in pairs. -/
def Lexer.afterUnit? (rev : List Char) (lead? : Option Nat) (value : Nat) : Option Lexer :=
  match lead? with
  | none =>
    if 0xD800 ≤ value ∧ value ≤ 0xDBFF then some (.lead rev value)
    else if 0xDC00 ≤ value ∧ value ≤ 0xDFFF then none
    else some (.text (Char.ofNat value :: rev))
  | some high =>
    if 0xDC00 ≤ value ∧ value ≤ 0xDFFF then
      some (.text (Char.ofNat (0x10000 + (high - 0xD800) * 0x400 + (value - 0xDC00)) :: rev))
    else none

def Lexer.begin? (c : Char) : Option (List Token × Lexer) :=
  if isSpace c then some ([], .between)
  else if c = '"' then some ([], .text [])
  else if isWordChar c then some ([], .word [c])
  else (punctuation? c).map fun t => ([t], .between)

def Lexer.step? : Lexer → Char → Option (List Token × Lexer)
  | .between, c => begin? c
  | .word rev, c =>
    if isWordChar c then some ([], .word (c :: rev))
    else do
      let v ← atom? rev.reverse
      let (tokens, s) ← begin? c
      return (.atom v :: tokens, s)
  | .text rev, c =>
    if c = '"' then some ([.text (String.ofList rev.reverse)], .between)
    else if c = '\\' then some ([], .escape rev)
    else if c.toNat < 0x20 then none
    else some ([], .text (c :: rev))
  | .escape rev, c =>
    if c = 'u' then some ([], .unicode rev none 0 0)
    else (escapes.lookup c).map fun d => ([], .text (d :: rev))
  | .unicode rev lead? count value, c => do
    let value := value * 16 + (← Text.hexDigit? c)
    if count < 3 then return ([], .unicode rev lead? (count + 1) value)
    else return ([], ← afterUnit? rev lead? value)
  | .lead rev value, c => if c = '\\' then some ([], .leadEscape rev value) else none
  | .leadEscape rev value, c => if c = 'u' then some ([], .unicode rev (some value) 0 0) else none

def Lexer.finish? : Lexer → Option (List Token)
  | .between => some []
  | .word rev => (atom? rev.reverse).map fun v => [.atom v]
  | _ => none

/-- A container still open: what it holds so far, in reverse, and the key whose value is due. -/
inductive Frame where
  | array (items : List Json)
  | object (members : List (String × Json)) (key : String)

/-- What may come next. `outer` are the containers around that place, innermost first. -/
inductive Builder where
  | value (outer : List Frame)
  /-- Just inside `[`: a value or the end. -/
  | firstItem (outer : List Frame)
  /-- Just inside an opening brace: a key or the end. -/
  | firstKey (outer : List Frame)
  | key (members : List (String × Json)) (outer : List Frame)
  | colon (key : String) (members : List (String × Json)) (outer : List Frame)
  | afterItem (items : List Json) (outer : List Frame)
  | afterMember (members : List (String × Json)) (outer : List Frame)
  | done (v : Json)

def Builder.complete (v : Json) : List Frame → Builder
  | [] => .done v
  | .array items :: outer => .afterItem (v :: items) outer
  | .object members k :: outer => .afterMember ((k, v) :: members) outer

/-- Reads the first token of a value; at most `limit` containers may be open at once. -/
def Builder.open? (limit : Nat) (outer : List Frame) : Token → Option Builder
  | .text s => some (complete (.str s) outer)
  | .atom v => some (complete v outer)
  | .beginArray => if outer.length < limit then some (.firstItem outer) else none
  | .beginObject => if outer.length < limit then some (.firstKey outer) else none
  | _ => none

def Builder.step? (limit : Nat) : Builder → Token → Option Builder
  | .value outer, t => open? limit outer t
  | .firstItem outer, .endArray => some (complete (.arr []) outer)
  | .firstItem outer, t => open? limit (.array [] :: outer) t
  | .firstKey outer, .endObject => some (complete (.obj []) outer)
  | .firstKey outer, .text k => some (.colon k [] outer)
  | .key members outer, .text k => some (.colon k members outer)
  | .colon k members outer, .colon => some (.value (.object members k :: outer))
  | .afterItem items outer, .comma => some (.value (.array items :: outer))
  | .afterItem items outer, .endArray => some (complete (.arr items.reverse) outer)
  | .afterMember members outer, .comma => some (.key members outer)
  | .afterMember members outer, .endObject => some (complete (.obj members.reverse) outer)
  | _, _ => none

structure Machine where
  lexer : Lexer
  builder : Builder

def Machine.start : Machine := ⟨.between, .value []⟩

def Machine.step? (limit : Nat) (m : Machine) (c : Char) : Option Machine := do
  let (tokens, lexer) ← m.lexer.step? c
  return ⟨lexer, ← tokens.foldlM (Builder.step? limit) m.builder⟩

def Machine.finish? (limit : Nat) (m : Machine) : Option Json := do
  match ← (← m.lexer.finish?).foldlM (Builder.step? limit) m.builder with
  | .done v => some v
  | _ => none

/-- How deep containers may be nested in anything the library reads. -/
def maxDepth : Nat := 127

def document? (limit : Nat) (cs : List Char) : Option Json :=
  (cs.foldlM (Machine.step? limit) .start).bind (Machine.finish? limit)

def parse? (s : String) : Option Json := (document? maxDepth s.toList).map canonical

theorem foldlM_step_append (limit : Nat) (cs ds : List Char) (m : Machine) :
    (cs ++ ds).foldlM (Machine.step? limit) m =
      (cs.foldlM (Machine.step? limit) m).bind fun m' => ds.foldlM (Machine.step? limit) m' := by
  simp [List.foldlM_append]

end ChatAgents.Json
