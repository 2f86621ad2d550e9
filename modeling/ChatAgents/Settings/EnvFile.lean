import ChatAgents.Settings.Basic
import ChatAgents.Text.Alphanumeric
set_option autoImplicit false

/-!
# Settings files

A settings file has one `KEY=value` on a line, optionally behind `export`. Blank lines and lines
that begin with `#` say nothing, and a value with an open quote goes on in the next line. A value
ends at the first blank outside quotes, after which only a comment may follow; single quotes keep
everything, double quotes and bare text know escapes and names behind a dollar sign, which stand for
the values of settings. The first line that cannot be read ends the file.
-/

namespace ChatAgents.Settings

def isKeyStart (c : Char) : Bool := c.isAlpha || c == '_'

def isKeyChar (c : Char) : Bool := c.isAlphanum || c == '_' || c == '.'

def readKey? (cs : List Char) : Option (List Char × List Char) :=
  match cs with
  | [] => none
  | c :: _ => if isKeyStart c then some (cs.takeWhile isKeyChar, cs.dropWhile isKeyChar) else none

def skipBlanks (cs : List Char) : List Char := cs.dropWhile Text.isBlank

def afterEquals? (cs : List Char) : Option (List Char) :=
  match skipBlanks cs with
  | '=' :: r => some (skipBlanks r)
  | _ => none

def keyAndRest? (cs : List Char) : Option (List Char × List Char) := do
  let (key, rest) ← readKey? cs
  match afterEquals? rest with
  | some value => some (key, value)
  | none =>
    if key = "export".toList then do
      let (key, rest) ← readKey? (skipBlanks rest)
      (afterEquals? rest).map fun value => (key, value)
    else none

/-- Where the reader of a value stands; `quoted` says whether double quotes are open. -/
inductive ValueState where
  | text (quoted : Bool)
  | single
  | escaped (quoted : Bool)
  /-- In a name behind a dollar sign. -/
  | named (quoted : Bool) (name : List Char)
  /-- In a name in braces behind a dollar sign. -/
  | braced (quoted : Bool) (name : List Char)
  | ended
  | comment
deriving DecidableEq

def escapedValueChar? (c : Char) : Option Char :=
  if c = 'n' then some '\n'
  else if c = '\\' ∨ c = '\'' ∨ c = '"' ∨ c = '$' ∨ c = ' ' then some c
  else none

/-- What a character adds to the value, and where it leaves the reader; `none` if it may not stand
there. A bare name ends at the first character that is neither letter nor digit, and that character
is then text, if it is no further dollar sign. -/
def ValueState.step? (lookup : List Char → List Char) :
    ValueState → Char → Option (List Char × ValueState)
  | .comment, _ => some ([], .comment)
  | .ended, c =>
    if c = ' ' ∨ c = '\t' then some ([], .ended) else if c = '#' then some ([], .comment) else none
  | .escaped quoted, c => (escapedValueChar? c).map fun d => ([d], .text quoted)
  | .single, c => if c = '\'' then some ([], .text false) else some ([c], .single)
  | .named quoted name, c =>
    if Text.isAlphanumeric c then some ([], .named quoted (name ++ [c]))
    else if c = '\x7b' ∧ name = [] then some ([], .braced quoted [])
    else if c = '$' then some (lookup name, .named quoted [])
    else some (lookup name ++ [c], .text quoted)
  | .braced quoted name, c =>
    if c = '\x7d' then some (lookup name, .text quoted)
    else some ([], .braced quoted (name ++ [c]))
  | .text quoted, c =>
    if c = '$' then some ([], .named quoted [])
    else if c = '\\' then some ([], .escaped quoted)
    else if c = '"' then some ([], .text (!quoted))
    else if quoted then some ([c], .text true)
    else if c = '\'' then some ([], .single)
    else if c = ' ' ∨ c = '\t' then some ([], .ended)
    else some ([c], .text false)

def ValueState.finish? (lookup : List Char → List Char) : ValueState → Option (List Char)
  | .text false | .escaped false | .ended | .comment => some []
  | .named false name => some (lookup name)
  | _ => none

def readValue? (lookup : List Char → List Char) (s : ValueState) :
    List Char → Option (List Char)
  | [] => s.finish? lookup
  | c :: cs => do
    let (out, s) ← s.step? lookup c
    return out ++ (← readValue? lookup s cs)

def valueOf? (lookup : List Char → List Char) : List Char → Option (List Char)
  | [] | '#' :: _ => some []
  | cs => readValue? lookup (.text false) cs

/-- What a line says: nothing, or the value of a key; `none` if it cannot be read. -/
def readLine? (lookup : List Char → List Char) (line : List Char) :
    Option (Option (String × String)) :=
  match skipBlanks (Text.trimEndChars line) with
  | [] | '#' :: _ => some none
  | cs => do
    let (key, rest) ← keyAndRest? cs
    return some (String.ofList key, String.ofList (← valueOf? lookup rest))

inductive LineState where
  | complete
  | blank
  | escape
  | single
  | singleEscape
  | double
  | doubleEscape
  | comment
deriving DecidableEq

def LineState.step : LineState → Char → LineState
  | .escape, _ => .complete
  | .single, c => if c = '\'' then .complete else if c = '\\' then .singleEscape else .single
  | .singleEscape, _ => .single
  | .double, c => if c = '"' then .complete else if c = '\\' then .doubleEscape else .double
  | .doubleEscape, _ => .double
  | .comment, _ => .comment
  | .complete, c =>
    if Text.isBlank c ∧ c ≠ '\n' ∧ c ≠ '\r' then .blank else bare c
  | .blank, c => if c = '#' then .comment else bare c
where
  bare (c : Char) : LineState :=
    if c = '\\' then .escape else if c = '"' then .double else if c = '\'' then .single
    else .complete

def scanLine (s : LineState) : List Char → List Char × LineState
  | [] => ([], s)
  | c :: cs =>
    match s.step c with
    | .comment => ([], .comment)
    | s =>
      let (text, s) := scanLine s cs
      (c :: text, s)

def splitLines : List Char → List (List Char)
  | [] => []
  | c :: cs =>
    if c = '\n' then [c] :: splitLines cs
    else
      match splitLines cs with
      | [] => [[c]]
      | line :: rest => (c :: line) :: rest

def dropLineEnd (line : List Char) : List Char :=
  if line.getLast? = some '\n' then
    if line.dropLast.getLast? = some '\r' then line.dropLast.dropLast else line.dropLast
  else line

/-- Joins the lines that an open quote or escape connects. `front` is the text that `s` was left
open by. A text that ends while something is open ends in `none`. -/
def joinLines (front : List Char) (s : LineState) :
    List (List Char) → List (Option (List Char))
  | [] => if s = .complete then [] else [none]
  | line :: rest =>
    let whole := front ++ line
    if (skipBlanks whole).head? = some '#' then some [] :: joinLines [] .complete rest
    else
      match scanLine s line with
      | (_, .complete) => some (dropLineEnd whole) :: joinLines [] .complete rest
      | (text, .comment) => some (front ++ text) :: joinLines [] .complete rest
      | (_, s) => joinLines whole s rest

def dropByteOrderMark : List Char → List Char
  | '\ufeff' :: cs => cs
  | cs => cs

def expansion (entries : List (String × String)) (name : List Char) : List Char :=
  (((Settings.mk entries).raw? (String.ofList name)).getD "").toList

/-- Adds what the lines say to the entries; a key that has a value, if an empty one, keeps it. -/
def addLines (entries : List (String × String)) :
    List (Option (List Char)) → List (String × String)
  | [] | none :: _ => entries
  | some line :: rest =>
    match readLine? (expansion entries) line with
    | none => entries
    | some none => addLines entries rest
    | some (some (key, value)) =>
      addLines (if entries.any (·.1 == key) then entries else entries ++ [(key, value)]) rest

def load (environment : List (String × String)) (file : Option String) : Settings :=
  match file with
  | none => ⟨environment⟩
  | some text =>
    ⟨addLines environment (joinLines [] .complete (splitLines (dropByteOrderMark text.toList)))⟩

end ChatAgents.Settings
