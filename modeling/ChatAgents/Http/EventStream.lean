import ChatAgents.Text.Characters
import ChatAgents.Text.Encoding
set_option autoImplicit false

/-!
# Event streams

A `text/event-stream` body as it arrives in chunks. Lines are taken off what has arrived once they
are complete, and decoded one by one, so it does not matter how the bytes were cut on their way; an
empty line ends an event.
-/

namespace ChatAgents.Http

structure Event where
  name : Option String
  data : String
deriving DecidableEq

def Event.isDone (e : Event) : Bool := e.data == "[DONE]" || e.name == some "done"

theorem Event.isDone_iff {e : Event} :
    e.isDone = true ↔ e.name = some "done" ∨ e.data = "[DONE]" := by
  rw [isDone, Bool.or_eq_true, beq_iff_eq, beq_iff_eq]
  exact or_comm

theorem Event.isDone_eq_false {e : Event} (named : e.name ≠ some "done")
    (filled : e.data ≠ "[DONE]") : e.isDone = false := by
  rw [← Bool.not_eq_true, isDone_iff]
  exact not_or.2 ⟨named, filled⟩

def lineFeed : UInt8 := 10

def splitLines : List UInt8 → List (List UInt8) × List UInt8
  | [] => ([], [])
  | b :: bs =>
    let (lines, rest) := splitLines bs
    if b = lineFeed then ([] :: lines, rest)
    else
      match lines with
      | [] => ([], b :: rest)
      | line :: lines => ((b :: line) :: lines, rest)

/-- What has arrived of the current line and of the current event. -/
structure Decoder where
  line : List UInt8
  name : Option String
  data : List String
deriving DecidableEq

namespace Decoder

def empty : Decoder := ⟨[], none, []⟩

def dispatch (d : Decoder) : Decoder × Option Event :=
  if d.data.isEmpty && d.name.isNone then (d, none)
  else ({ d with name := none, data := [] }, some ⟨d.name, "\n".intercalate d.data⟩)

/-- A line's field and value. One space after the colon does not count. -/
def splitField (line : List Char) : List Char × List Char :=
  match line.dropWhile (· != ':') with
  | [] => (line, [])
  | _ :: ' ' :: value => (line.takeWhile (· != ':'), value)
  | _ :: value => (line.takeWhile (· != ':'), value)

def addField (d : Decoder) (field value : List Char) : Decoder :=
  if field = "event".toList then { d with name := some (String.ofList value) }
  else if field = "data".toList then { d with data := d.data ++ [String.ofList value] }
  else d

def readLine (d : Decoder) (line : List Char) : Decoder × Option Event :=
  match line with
  | [] => d.dispatch
  | ':' :: _ => (d, none)
  | line =>
    let (field, value) := splitField line
    (d.addField field value, none)

def isLineEnd (c : Char) : Bool := c == '\n' || c == '\r'

def lineText (bs : List UInt8) : List Char := Text.dropTail isLineEnd (Text.Utf8.decodeLossy bs)

def readLines (d : Decoder) : List (List UInt8) → Decoder × List Event
  | [] => (d, [])
  | line :: lines =>
    let (d', event) := d.readLine (lineText line)
    let (d'', events) := d'.readLines lines
    (d'', event.toList ++ events)

def push (d : Decoder) (bs : List UInt8) : Decoder × List Event :=
  let (lines, rest) := splitLines (d.line ++ bs)
  { d with line := rest }.readLines lines

/-- At the end of the body: a last line without its end loses the blanks at its end, and an event
still open is complete. -/
def finish (d : Decoder) : Decoder × Option Event :=
  if d.line.isEmpty then d.dispatch
  else
    let line := Text.trimEndChars (Text.Utf8.decodeLossy d.line)
    match { d with line := [] }.readLine line with
    | (d, some event) => (d, some event)
    | (d, none) => d.dispatch

end Decoder

def decodeBody (bs : List UInt8) : List Event :=
  let (d, events) := Decoder.empty.push bs
  events ++ d.finish.2.toList

/-- The events complete in the bytes of a body that broke off. -/
def decodeBroken (bs : List UInt8) : List Event := (Decoder.empty.push bs).2

theorem splitLines_feed (bs : List UInt8) :
    splitLines (lineFeed :: bs) = ([] :: (splitLines bs).1, (splitLines bs).2) := by
  simp [splitLines]

theorem splitLines_cons {b : UInt8} (h : b ≠ lineFeed) (bs : List UInt8) :
    splitLines (b :: bs) =
      match (splitLines bs).1 with
      | [] => ([], b :: (splitLines bs).2)
      | line :: lines => ((b :: line) :: lines, (splitLines bs).2) := by
  simp [splitLines, h]

theorem splitLines_append (as bs : List UInt8) :
    splitLines (as ++ bs) =
      ((splitLines as).1 ++ (splitLines ((splitLines as).2 ++ bs)).1,
        (splitLines ((splitLines as).2 ++ bs)).2) := by
  induction as with
  | nil => rfl
  | cons b as ih =>
    by_cases end_of_line : b = lineFeed
    · subst end_of_line
      rw [List.cons_append, splitLines_feed, splitLines_feed, ih]
      rfl
    · rw [List.cons_append, splitLines_cons end_of_line, splitLines_cons end_of_line, ih]
      cases (splitLines as).1 with
      | nil =>
        dsimp only
        rw [List.cons_append, splitLines_cons end_of_line]
        rfl
      | cons line lines => rfl

namespace Decoder

@[simp] theorem line_readLine (d : Decoder) (line : List Char) : (d.readLine line).1.line = d.line := by
  unfold readLine
  split
  · unfold dispatch
    split <;> rfl
  · rfl
  · dsimp only [addField]
    split
    · rfl
    · split <;> rfl

theorem readLine_withLine (d : Decoder) (rest : List UInt8) (line : List Char) :
    { d with line := rest }.readLine line =
      ({ (d.readLine line).1 with line := rest }, (d.readLine line).2) := by
  unfold readLine
  split
  · unfold dispatch
    split <;> rfl
  · rfl
  · dsimp only [addField]
    split
    · rfl
    · split <;> rfl

theorem readLines_withLine (d : Decoder) (rest : List UInt8) (lines : List (List UInt8)) :
    { d with line := rest }.readLines lines =
      ({ (d.readLines lines).1 with line := rest }, (d.readLines lines).2) := by
  induction lines generalizing d with
  | nil => rfl
  | cons line lines ih =>
    simp only [readLines, readLine_withLine, ih]

theorem readLines_append (d : Decoder) (ls ms : List (List UInt8)) :
    d.readLines (ls ++ ms) =
      (((d.readLines ls).1.readLines ms).1,
        (d.readLines ls).2 ++ ((d.readLines ls).1.readLines ms).2) := by
  induction ls generalizing d with
  | nil => rfl
  | cons line lines ih => simp [readLines, ih]

theorem push_run (d : Decoder) (bs : List UInt8) :
    d.push bs =
      ({ (d.readLines (splitLines (d.line ++ bs)).1).1 with line := (splitLines (d.line ++ bs)).2 },
        (d.readLines (splitLines (d.line ++ bs)).1).2) :=
  d.readLines_withLine _ _

theorem push_append (d : Decoder) (as bs : List UInt8) :
    d.push (as ++ bs) =
      (((d.push as).1.push bs).1, (d.push as).2 ++ ((d.push as).1.push bs).2) := by
  rw [push_run, push_run, push_run, ← List.append_assoc, splitLines_append (d.line ++ as)]
  simp only [readLines_append, readLines_withLine]

end Decoder
end ChatAgents.Http
