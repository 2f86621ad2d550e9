import ChatAgents.Proofs.ChunkedBodies
set_option autoImplicit false

namespace ChatAgents.Http

open Text.Utf8 (encodeChar)

inductive LineEnd where
  | feed
  | returnAndFeed

def LineEnd.front : LineEnd → List Char
  | .feed => []
  | .returnAndFeed => ['\r']

theorem LineEnd.newline_not_mem_front (ending : LineEnd) : '\n' ∉ ending.front := by
  cases ending <;> decide

def LineEnd.bytes (ending : LineEnd) : List UInt8 :=
  ending.front.flatMap encodeChar ++ [lineFeed]

inductive Field where
  | name
  | data

def Field.label : Field → List Char
  | .name => "event".toList
  | .data => "data".toList

inductive Line where
  | field (f : Field) (value : List Char)
  | blank

/-- The lines of an event: its name if it has one, each line of its data, and an empty line. -/
def Event.lines (e : Event) : List Line :=
  (e.name.map fun n => .field .name n.toList).toList ++
    (e.data.toList.splitOn '\n').map (.field .data) ++ [.blank]

def colon : UInt8 := 58

/-- What stands before a value: a colon, and a space if the value begins with one. Another value may
do without. -/
inductive Gap (value : List Char) : List Char → Prop
  | space : Gap value [':', ' ']
  | tight (plain : value.head? ≠ some ' ') : Gap value [':']

/-- Bytes that write lines. A comment is a line of any bytes behind a colon. -/
inductive Writes : List Line → List UInt8 → Prop
  | nothing : Writes [] []
  | comment {lines : List Line} {bs : List UInt8} (text : List UInt8) (one_line : lineFeed ∉ text)
      (ending : LineEnd) (more : Writes lines bs) :
      Writes lines (colon :: text ++ ending.bytes ++ bs)
  | field {lines : List Line} {bs : List UInt8} (f : Field) {value gap : List Char}
      (apart : Gap value gap) (ending : LineEnd) (more : Writes lines bs) :
      Writes (.field f value :: lines)
        ((f.label ++ gap ++ value).flatMap encodeChar ++ ending.bytes ++ bs)
  | blank {lines : List Line} {bs : List UInt8} (ending : LineEnd) (more : Writes lines bs) :
      Writes (.blank :: lines) (ending.bytes ++ bs)

/-- A value in one line, of whose end nothing is taken for the end of the line. -/
def Lasting (value : List Char) : Prop := '\n' ∉ value ∧ value.getLast? ≠ some '\r'

structure Event.Lasting (e : Event) : Prop where
  name : ∀ n, e.name = some n → Http.Lasting n.toList
  data : ∀ l ∈ e.data.toList.splitOn '\n', l.getLast? ≠ some '\r'

def Line.Lasting : Line → Prop
  | .field _ value => Http.Lasting value
  | .blank => True

namespace Decoder

def take (d : Decoder) : Line → Decoder × Option Event
  | .field f value => (d.addField f.label value, none)
  | .blank => d.dispatch

def takeAll (d : Decoder) : List Line → Decoder × List Event
  | [] => (d, [])
  | l :: lines =>
    let (d', event) := d.take l
    let (d'', events) := d'.takeAll lines
    (d'', event.toList ++ events)

theorem takeAll_append (d : Decoder) (ls ms : List Line) :
    d.takeAll (ls ++ ms) =
      (((d.takeAll ls).1.takeAll ms).1, (d.takeAll ls).2 ++ ((d.takeAll ls).1.takeAll ms).2) := by
  induction ls generalizing d with
  | nil => rfl
  | cons l lines ih => simp [takeAll, ih]

theorem takeAll_data (d : Decoder) (values : List (List Char)) :
    d.takeAll (values.map (.field .data)) =
      ({ d with data := d.data ++ values.map String.ofList }, []) := by
  induction values generalizing d with
  | nil => simp [takeAll]
  | cons value values ih =>
    rw [List.map_cons, takeAll]
    dsimp only [take]
    rw [ih]
    change ({ d with data := (d.data ++ [String.ofList value]) ++ _ }, _) = _
    simp

theorem intercalate_lines (data : String) :
    "\n".intercalate ((data.toList.splitOn '\n').map String.ofList) = data := by
  rw [← String.toList_inj, String.toList_intercalate]
  simp

theorem takeAll_event (e : Event) : empty.takeAll e.lines = (empty, [e]) := by
  obtain ⟨name, data⟩ := e
  have named : empty.takeAll (name.map fun n => Line.field .name n.toList).toList =
      (⟨[], name, []⟩, []) := by
    cases name with
    | none => rfl
    | some n => simp [takeAll, take, addField, Field.label, empty]
  have some_data : ((data.toList.splitOn '\n').map String.ofList).isEmpty = false := by
    simp
  rw [Event.lines, takeAll_append, takeAll_append, named]
  dsimp only
  rw [takeAll_data]
  simp only [takeAll, take, dispatch, List.nil_append, some_data]
  simp [intercalate_lines, empty]

theorem takeAll_events (events : List Event) :
    empty.takeAll (events.flatMap Event.lines) = (empty, events) := by
  induction events with
  | nil => rfl
  | cons e events ih =>
    rw [List.flatMap_cons, takeAll_append, takeAll_event]
    dsimp only
    rw [ih]
    rfl

theorem lineText_written {l : List Char} (lasting : ∀ c, l.getLast? = some c → isLineEnd c = false)
    (ending : LineEnd) : lineText ((l ++ ending.front).flatMap encodeChar) = l := by
  have kept : Text.dropTail isLineEnd l = l := by
    rcases List.eq_nil_or_concat l with rfl | ⟨front, c, rfl⟩
    · rfl
    · rw [List.concat_eq_append, Text.dropTail_concat, lasting c (by simp)]
      rfl
  rw [lineText, Text.Utf8.decodeLossy_encodeChars]
  cases ending with
  | feed => rw [LineEnd.front, List.append_nil, kept]
  | returnAndFeed =>
    have line_end : isLineEnd '\r' = true := by decide
    rw [LineEnd.front, Text.dropTail_concat, line_end, if_pos rfl, kept]

theorem lineText_comment (bs : List UInt8) : ∃ l, lineText (colon :: bs) = ':' :: l := by
  have read : Text.Utf8.decodeLossy (colon :: bs) = ':' :: Text.Utf8.decodeLossy bs := by
    rw [Text.Utf8.decodeLossy, Text.Utf8.decodeFrom_cons]
    rfl
  have no_end : isLineEnd ':' = false := by decide
  rw [lineText, read, Text.dropTail, List.reverse_cons, List.dropWhile_append]
  split
  · exact ⟨[], by simp [no_end]⟩
  · exact ⟨_, by rw [List.reverse_append, List.reverse_singleton]; rfl⟩

theorem push_lines {d : Decoder} (fresh : d.line = []) {l : List Char} (one_line : '\n' ∉ l)
    (lasting : ∀ c, l.getLast? = some c → isLineEnd c = false) (ending : LineEnd)
    (more : List UInt8) :
    d.push (l.flatMap encodeChar ++ ending.bytes ++ more) =
      (((d.readLine l).1.push more).1,
        (d.readLine l).2.toList ++ ((d.readLine l).1.push more).2) := by
  have whole : l.flatMap encodeChar ++ ending.bytes ++ more =
      (l ++ ending.front).flatMap encodeChar ++ lineFeed :: more := by
    simp [LineEnd.bytes]
  have no_newline : '\n' ∉ l ++ ending.front :=
    fun newline => (List.mem_append.1 newline).elim one_line ending.newline_not_mem_front
  rw [whole, push_line fresh (noFeed_encodeChars no_newline), lineText_written lasting]

theorem readLine_field (d : Decoder) (f : Field) {value gap : List Char} (apart : Gap value gap) :
    d.readLine (f.label ++ gap ++ value) = (d.addField f.label value, none) := by
  cases apart with
  | space => cases f <;> rfl
  | tight plain =>
    cases value with
    | nil => cases f <;> rfl
    | cons c value =>
      have shown : c ≠ ' ' := fun space => plain (congrArg some space)
      cases f <;> simp [readLine, splitField, Field.label, shown]

theorem newline_not_mem_field (f : Field) {value gap : List Char} (apart : Gap value gap)
    (h : Lasting value) : '\n' ∉ f.label ++ gap ++ value := by
  have front : '\n' ∉ f.label ++ gap := by cases f <;> cases apart <;> decide
  exact fun newline => (List.mem_append.1 newline).elim front h.1

theorem lasting_field (f : Field) {value gap : List Char} (apart : Gap value gap) (h : Lasting value)
    (c : Char) (last : (f.label ++ gap ++ value).getLast? = some c) : isLineEnd c = false := by
  rcases List.eq_nil_or_concat value with rfl | ⟨before, e, rfl⟩
  · cases apart with
    | space =>
      obtain rfl : ' ' = c := by simpa using last
      decide
    | tight =>
      obtain rfl : ':' = c := by simpa using last
      decide
  · rw [List.concat_eq_append] at h last
    obtain rfl : e = c := by simpa [← List.append_assoc] using last
    have no_feed : e ≠ '\n' := fun feed => h.1 (by simp [feed])
    have no_return : e ≠ '\r' := fun carriage => h.2 (by simp [carriage])
    simp [isLineEnd, no_feed, no_return]

theorem push_written {lines : List Line} {bs : List UInt8} (written : Writes lines bs)
    (lasting : ∀ l ∈ lines, l.Lasting) {d : Decoder} (fresh : d.line = []) :
    d.push bs = d.takeAll lines := by
  -- line by line; a comment leaves the decoder as it is
  induction written generalizing d with
  | nothing => exact push_nil (by rw [fresh]; exact nofun)
  | @comment lines bs text one_line ending _ ih =>
    have whole : colon :: text ++ ending.bytes ++ bs =
        colon :: (text ++ ending.front.flatMap encodeChar) ++ lineFeed :: bs := by
      simp [LineEnd.bytes]
    have no_feed : noFeed (colon :: (text ++ ending.front.flatMap encodeChar)) := by
      refine List.forall_mem_cons.2 ⟨by decide, List.forall_mem_append.2 ⟨?_, ?_⟩⟩
      · exact fun b hb feed => one_line (feed ▸ hb)
      · exact noFeed_encodeChars ending.newline_not_mem_front
    obtain ⟨l, said⟩ := lineText_comment (text ++ ending.front.flatMap encodeChar)
    rw [whole, push_line fresh no_feed, said]
    exact ih lasting fresh
  | @field lines bs f value gap apart ending _ ih =>
    obtain ⟨this, later⟩ := List.forall_mem_cons.1 lasting
    have kept := line_readLine d (f.label ++ gap ++ value)
    rw [readLine_field d f apart, fresh] at kept
    rw [push_lines fresh (newline_not_mem_field f apart this) (lasting_field f apart this),
      readLine_field d f apart]
    dsimp only
    rw [ih later kept]
    rfl
  | @blank lines bs ending _ ih =>
    obtain ⟨-, later⟩ := List.forall_mem_cons.1 lasting
    have kept : d.dispatch.1.line = [] := (line_readLine d []).trans fresh
    have read := push_lines (l := []) fresh (by simp) (by simp) ending bs
    rw [List.flatMap_nil, List.nil_append] at read
    rw [read]
    change (((d.dispatch).1.push bs).1, d.dispatch.2.toList ++ (d.dispatch.1.push bs).2) = _
    rw [ih later kept]
    rfl

theorem newline_not_mem_splitOn (cs : List Char) : ∀ l ∈ cs.splitOn '\n', '\n' ∉ l := by
  induction cs with
  | nil => simp
  | cons c cs ih =>
    rw [List.splitOn_cons_eq_if_modifyHead]
    split
    · simpa using ih
    · rename_i no_feed
      cases split : cs.splitOn '\n' with
      | nil => simp
      | cons line lines =>
        rw [split, List.forall_mem_cons] at ih
        rw [List.modifyHead_cons, List.forall_mem_cons]
        refine ⟨fun newline => ?_, ih.2⟩
        rcases List.mem_cons.1 newline with feed | newline
        · simp [← feed] at no_feed
        · exact ih.1 newline

theorem lasting_lines {e : Event} (h : e.Lasting) : ∀ l ∈ e.lines, l.Lasting := by
  refine List.forall_mem_append.2 ⟨List.forall_mem_append.2 ⟨?_, ?_⟩, ?_⟩
  · intro l hl
    obtain ⟨n, named, rfl⟩ : ∃ n, e.name = some n ∧ .field .name n.toList = l := by simpa using hl
    exact h.name n named
  · intro l hl
    obtain ⟨value, part, rfl⟩ := List.mem_map.1 hl
    exact ⟨newline_not_mem_splitOn _ value part, h.data value part⟩
  · exact List.forall_mem_singleton.2 trivial

end Decoder

/-- Events are read back from whatever writes them, in one piece or in chunks, and nothing is left of
them for the end of the body. -/
theorem written_events_are_read {events : List Event} {bs : List UInt8}
    (lasting : ∀ e ∈ events, e.Lasting) (written : Writes (events.flatMap Event.lines) bs) :
    (Decoder.empty.push bs).2 = events ∧ (Decoder.empty.push bs).1.finish.2 = none ∧
      ∀ chunks : List (List UInt8), chunks.flatten = bs → Decoder.empty.runAll chunks = events := by
  have lines_lasting : ∀ l ∈ events.flatMap Event.lines, l.Lasting := by
    intro l hl
    obtain ⟨e, he, hl⟩ := List.mem_flatMap.1 hl
    exact Decoder.lasting_lines (lasting e he) l hl
  have read : Decoder.empty.push bs = (Decoder.empty, events) := by
    rw [Decoder.push_written written lines_lasting rfl, Decoder.takeAll_events]
  refine ⟨by rw [read], by rw [read]; rfl, ?_⟩
  rintro chunks rfl
  rw [Decoder.runAll_eq_run .empty, Decoder.run, read]
  exact List.append_nil _

/-- A name with a space in front and a colon inside, an event without data, and data with an empty line
and a carriage return inside, between comments and with both ends of lines. -/
theorem menu_is_read :
    let events : List Event := [⟨some " a:b", ""⟩, ⟨none, "one\n\n:tw\ro"⟩]
    let bs := Text.Utf8.encode
      ": hi\r\nevent:  a:b\n:\ndata:\r\n\ndata:one\ndata:\n:\r\ndata: :tw\ro\r\n\r\n: bye\n"
    (∀ e ∈ events, e.Lasting) ∧ Writes (events.flatMap Event.lines) bs ∧
      (Decoder.empty.push bs).2 = events ∧ (Decoder.empty.push bs).1.finish.2 = none ∧
      Decoder.empty.runAll [bs.take 15, [], bs.drop 15] = events := by
  intro events bs
  have lasting : ∀ e ∈ events, e.Lasting := by
    refine List.forall_mem_cons.2 ⟨⟨?_, by decide⟩, List.forall_mem_singleton.2 ⟨nofun, by decide⟩⟩
    rintro n ⟨⟩
    exact ⟨by decide, by decide⟩
  have written : Writes (events.flatMap Event.lines) bs :=
    .comment (Text.Utf8.encode " hi") (by decide) .returnAndFeed <|
      .field .name .space .feed <|
      .comment [] (by decide) .feed <|
      .field .data (.tight (by decide)) .returnAndFeed <|
      .blank .feed <|
      .field .data (.tight (by decide)) .feed <|
      .field .data (.tight (by decide)) .feed <|
      .comment [] (by decide) .returnAndFeed <|
      .field .data .space .returnAndFeed <|
      .blank .returnAndFeed <|
      .comment (Text.Utf8.encode " bye") (by decide) .feed .nothing
  obtain ⟨read, ended, chunked⟩ := written_events_are_read lasting written
  exact ⟨lasting, written, read, ended, chunked _ (by simp)⟩

end ChatAgents.Http
