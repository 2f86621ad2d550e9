import ChatAgents.Http.EventStream
import ChatAgents.Proofs.Characters
set_option autoImplicit false

namespace ChatAgents.Http

open Text.Utf8 (Cut encodeChar decodeLossy)

def NoLineEnd (cs : List Char) : Prop := ∀ c ∈ cs, Decoder.isLineEnd c = false

-- tests the characters of the list, where a general instance may try all there are
instance : DecidablePred NoLineEnd := fun cs =>
  decidable_of_iff (cs.all fun c => !Decoder.isLineEnd c) (by simp [NoLineEnd])

def OneLine (s : String) : Prop := NoLineEnd s.toList

instance : DecidablePred OneLine := fun s => inferInstanceAs (Decidable (NoLineEnd s.toList))

namespace Event

def write (e : Event) : String :=
  (e.name.elim "" fun n => "event: " ++ n ++ "\n") ++ "data: " ++ e.data ++ "\n\n"

structure OneLine (e : Event) : Prop where
  name : ∀ n, e.name = some n → Http.OneLine n
  data : Http.OneLine e.data

/-- What is read behind the whole events if the bytes break off inside of an event. -/
inductive Cut (e : Event) : Option Event → Prop where
  | nothing : Cut e none
  | name {n : String} {x : List Char} (named : e.name = some n) (part : Text.Utf8.Cut n.toList x) :
    Cut e (some ⟨some (String.ofList x), ""⟩)
  | data {x : List Char} (part : Text.Utf8.Cut e.data.toList x) :
    Cut e (some ⟨e.name, String.ofList x⟩)

end Event

def writeEvents (events : List Event) : List UInt8 :=
  events.flatMap fun e => Text.Utf8.encode e.write

/-- What is read of events whose bytes break off. -/
inductive CutEvents : List Event → List Event → Prop where
  | all : CutEvents [] []
  | cut {e : Event} {rest : List Event} {last : Option Event} (part : e.Cut last) :
    CutEvents (e :: rest) last.toList
  | next {e : Event} {rest seen : List Event} (more : CutEvents rest seen) :
    CutEvents (e :: rest) (e :: seen)

namespace Decoder

def run (d : Decoder) (bs : List UInt8) : List Event :=
  (d.push bs).2 ++ (d.push bs).1.finish.2.toList

theorem run_empty (bs : List UInt8) : empty.run bs = decodeBody bs := rfl

def noFeed (bs : List UInt8) : Prop := ∀ b ∈ bs, b ≠ lineFeed

theorem splitLines_noFeed {bs : List UInt8} (h : noFeed bs) : splitLines bs = ([], bs) := by
  induction bs with
  | nil => rfl
  | cons b bs ih =>
    rw [splitLines_cons (h b List.mem_cons_self), ih fun b' hb => h b' (List.mem_cons_of_mem _ hb)]

theorem splitLines_line {bs : List UInt8} (h : noFeed bs) (more : List UInt8) :
    splitLines (bs ++ lineFeed :: more) = (bs :: (splitLines more).1, (splitLines more).2) := by
  induction bs with
  | nil => exact splitLines_feed more
  | cons b bs ih =>
    rw [List.cons_append, splitLines_cons (h b List.mem_cons_self),
      ih fun b' hb => h b' (List.mem_cons_of_mem _ hb)]

theorem push_noFeed {d : Decoder} (fresh : d.line = []) {bs : List UInt8} (h : noFeed bs) :
    d.push bs = ({ d with line := bs }, []) := by
  rw [push_run, fresh, List.nil_append, splitLines_noFeed h]
  rfl

theorem push_line {d : Decoder} (fresh : d.line = []) {bs : List UInt8} (h : noFeed bs)
    (more : List UInt8) :
    d.push (bs ++ lineFeed :: more) =
      (((d.readLine (lineText bs)).1.push more).1,
        (d.readLine (lineText bs)).2.toList ++ ((d.readLine (lineText bs)).1.push more).2) := by
  rw [push_run, push_run, line_readLine, fresh, List.nil_append, List.nil_append,
    splitLines_line h]
  rfl

theorem noFeed_encodeChars {l : List Char} (h : '\n' ∉ l) : noFeed (l.flatMap encodeChar) := by
  rintro b hb rfl
  obtain ⟨c, hc, hb⟩ := List.mem_flatMap.1 hb
  have line_feed : c = '\n' := by
    have := Text.Utf8.eq_of_mem_encodeChar hb (by decide)
    rw [← Char.ofNat_toNat c, this]
    rfl
  rw [line_feed] at hc
  exact h hc

theorem newline_not_mem {l : List Char} (h : NoLineEnd l) : '\n' ∉ l :=
  fun line_feed => absurd (h _ line_feed) (by decide)

theorem dropTail_eq_self {p : Char → Bool} {cs : List Char} (h : ∀ c ∈ cs, p c = false) :
    Text.dropTail p cs = cs := by
  rcases List.eq_nil_or_concat cs with rfl | ⟨front, c, rfl⟩
  · rfl
  · rw [List.concat_eq_append, Text.dropTail_concat, h c (by simp)]
    rfl

theorem lineText_encodeChars {l : List Char} (h : NoLineEnd l) :
    lineText (l.flatMap encodeChar) = l := by
  rw [lineText, Text.Utf8.decodeLossy_encodeChars, dropTail_eq_self h]

theorem run_line {d : Decoder} (fresh : d.line = []) {l : List Char}
    (h : NoLineEnd l) (more : List UInt8) :
    d.run (l.flatMap encodeChar ++ lineFeed :: more) =
      (d.readLine l).2.toList ++ (d.readLine l).1.run more := by
  rw [run, push_line fresh (noFeed_encodeChars (newline_not_mem h)), lineText_encodeChars h, run,
    List.append_assoc]

def flush (d : Decoder) (line : List Char) : Option Event :=
  match d.readLine line with
  | (_, some event) => some event
  | (d, none) => d.dispatch.2

theorem flush_nil (d : Decoder) : d.flush [] = d.dispatch.2 := by
  change (match d.dispatch with
    | (_, some event) => some event
    | (d, none) => d.dispatch.2) = d.dispatch.2
  by_cases nothing : (d.data.isEmpty && d.name.isNone) = true <;> simp [dispatch, nothing]

theorem run_part {d : Decoder} (fresh : d.line = []) {bs : List UInt8} (h : noFeed bs) :
    d.run bs = (d.flush (Text.trimEndChars (decodeLossy bs))).toList := by
  have start : { d with line := [] } = d := by rw [← fresh]
  rw [run, push_noFeed fresh h, List.nil_append, finish]
  by_cases none_read : bs = []
  · subst none_read
    change (Decoder.dispatch { d with line := [] }).2.toList = (d.flush []).toList
    rw [start, flush_nil]
  · simp only [none_read, List.isEmpty_iff, if_false, start, flush]
    rcases d.readLine (Text.trimEndChars (decodeLossy bs)) with ⟨d', _ | event⟩ <;> rfl

theorem run_take {d : Decoder} (fresh : d.line = []) {l : List Char}
    (h : NoLineEnd l) (n : Nat) :
    ∃ x, Cut l x ∧
      d.run ((l.flatMap encodeChar).take n) = (d.flush (Text.trimEndChars x)).toList :=
  ⟨_, Text.Utf8.cut_take l n,
    run_part fresh fun b hb =>
      noFeed_encodeChars (newline_not_mem h) b (List.mem_of_mem_take hb)⟩

def nameField : List Char := ['e', 'v', 'e', 'n', 't', ':', ' ']

def dataField : List Char := ['d', 'a', 't', 'a', ':', ' ']

theorem readLine_name (d : Decoder) (v : List Char) :
    d.readLine (nameField ++ v) = ({ d with name := some (String.ofList v) }, none) := rfl

theorem readLine_data (d : Decoder) (v : List Char) :
    d.readLine (dataField ++ v) = ({ d with data := d.data ++ [String.ofList v] }, none) := rfl

theorem trimEndChars_append (front cs : List Char) :
    Text.trimEndChars (front ++ cs) =
      if Text.trimEndChars cs = [] then Text.trimEndChars front
      else front ++ Text.trimEndChars cs := by
  simp only [Text.trimEndChars, Text.dropTail, List.reverse_append, List.dropWhile_append,
    List.isEmpty_iff, List.reverse_eq_nil_iff]
  split <;> simp

theorem flush_name {n : String} {data : String} {x : List Char}
    (part : Cut (nameField ++ n.toList) x) :
    Event.Cut ⟨some n, data⟩ (empty.flush (Text.trimEndChars x)) := by
  have named {v : List Char} (cut : Cut n.toList v) : Event.Cut ⟨some n, data⟩
      (some ⟨some (String.ofList v), ""⟩) := .name rfl cut
  have unnamed := named (.between [] n.toList)
  rcases part.append_cases (by decide) with ⟨k, lt, rfl⟩ | ⟨y, rfl, cut⟩
  · obtain rfl | rfl | rfl | rfl | rfl | rfl | rfl : k = 0 ∨ k = 1 ∨ k = 2 ∨ k = 3 ∨ k = 4 ∨
        k = 5 ∨ k = 6 := by
      change k < 7 at lt
      omega
    · exact .nothing
    · exact .nothing
    · exact .nothing
    · exact .nothing
    · exact .nothing
    · exact unnamed
    · exact unnamed
  · rw [trimEndChars_append]
    split
    · exact unnamed
    · rw [flush, readLine_name]
      exact named cut.trimEnd

theorem flush_data {name : Option String} {data : String} {x : List Char}
    (part : Cut (dataField ++ data.toList) x) :
    Event.Cut ⟨name, data⟩ (flush ⟨[], name, []⟩ (Text.trimEndChars x)) := by
  have filled {v : List Char} (cut : Cut data.toList v) : Event.Cut ⟨name, data⟩
      (some ⟨name, String.ofList v⟩) := .data cut
  have unfilled := filled (.between [] data.toList)
  rcases part.append_cases (by decide) with ⟨k, lt, rfl⟩ | ⟨y, rfl, cut⟩
  · have unread : Event.Cut ⟨name, data⟩ (dispatch ⟨[], name, []⟩).2 := by
      cases name with
      | none => exact .nothing
      | some n => exact unfilled
    obtain rfl | rfl | rfl | rfl | rfl | rfl : k = 0 ∨ k = 1 ∨ k = 2 ∨ k = 3 ∨ k = 4 ∨ k = 5 := by
      change k < 6 at lt
      omega
    · rw [List.take_zero, Text.trimEndChars, Text.dropTail_nil, flush_nil]
      exact unread
    · exact unread
    · exact unread
    · exact unread
    · exact unfilled
    · exact unfilled
  · rw [trimEndChars_append]
    split
    · exact unfilled
    · rw [flush, readLine_data]
      exact filled cut.trimEnd

theorem noLineEnd_field {field : List Char} {s : String} (plain : NoLineEnd field) (h : OneLine s) :
    NoLineEnd (field ++ s.toList) := by
  intro c hc
  rcases List.mem_append.1 hc with hc | hc
  · exact plain c hc
  · exact h c hc

theorem noLineEnd_data {data : String} (h : OneLine data) :
    NoLineEnd (dataField ++ data.toList) := noLineEnd_field (by decide) h

theorem noLineEnd_name {n : String} (h : OneLine n) :
    NoLineEnd (nameField ++ n.toList) := noLineEnd_field (by decide) h

def dataLine (data : String) : List UInt8 := (dataField ++ data.toList).flatMap encodeChar

def nameLine (n : String) : List UInt8 := (nameField ++ n.toList).flatMap encodeChar

theorem encodeChar_newline : encodeChar '\n' = [lineFeed] := by decide

theorem encode_write_none (data : String) :
    Text.Utf8.encode (Event.write ⟨none, data⟩) = dataLine data ++ [lineFeed, lineFeed] := by
  have front : "data: ".toList = dataField := by decide
  simp only [Event.write, Text.Utf8.encode, dataLine, Option.elim_none, String.toList_append, front,
    List.flatMap_append]
  simp [encodeChar_newline]

theorem encode_write_some (n data : String) :
    Text.Utf8.encode (Event.write ⟨some n, data⟩) =
      nameLine n ++ lineFeed :: (dataLine data ++ [lineFeed, lineFeed]) := by
  have front : "event: ".toList = nameField := by decide
  rw [← encode_write_none]
  simp only [Event.write, Text.Utf8.encode, nameLine, Option.elim_some, Option.elim_none,
    String.toList_append, front, List.flatMap_append]
  simp [encodeChar_newline]

theorem run_data {name : Option String} {data : String} (h : OneLine data) (more : List UInt8) :
    run ⟨[], name, []⟩ (dataLine data ++ lineFeed :: more) = run ⟨[], name, [data]⟩ more := by
  rw [dataLine, run_line rfl (noLineEnd_data h), readLine_data]
  simp

theorem run_name {n : String} (h : OneLine n) (more : List UInt8) :
    empty.run (nameLine n ++ lineFeed :: more) = run ⟨[], some n, []⟩ more := by
  rw [nameLine, run_line rfl (noLineEnd_name h), readLine_name]
  simp [empty]

theorem run_open (name : Option String) (data : String) (more : List UInt8) :
    run ⟨[], name, [data]⟩ (lineFeed :: more) = ⟨name, data⟩ :: empty.run more := rfl

theorem run_event {e : Event} (h : e.OneLine) (more : List UInt8) :
    empty.run (Text.Utf8.encode e.write ++ more) = e :: empty.run more := by
  obtain ⟨name, data⟩ := e
  have data_line (name : Option String) :
      run ⟨[], name, []⟩ (dataLine data ++ lineFeed :: lineFeed :: more) =
        ⟨name, data⟩ :: empty.run more := by
    rw [run_data h.data, run_open]
  cases name with
  | none =>
    rw [encode_write_none, List.append_assoc]
    exact data_line none
  | some n =>
    rw [encode_write_some, List.append_assoc, List.cons_append, run_name (h.name n rfl),
      List.append_assoc]
    exact data_line (some n)

theorem run_cut_data {name : Option String} {data : String} (h : OneLine data) {k : Nat}
    (short : k < (dataLine data).length + 2) :
    ∃ last, Event.Cut ⟨name, data⟩ last ∧
      run ⟨[], name, []⟩ ((dataLine data ++ [lineFeed, lineFeed]).take k) = last.toList := by
  rcases Nat.lt_or_ge (dataLine data).length k with behind | inside
  · obtain rfl : k = (dataLine data).length + 1 := by omega
    rw [List.take_append, List.take_of_length_le (by omega), Nat.add_sub_cancel_left]
    change ∃ last, _ ∧ run _ (dataLine data ++ lineFeed :: []) = _
    rw [run_data h]
    refine ⟨some ⟨name, data⟩, ?_, rfl⟩
    have whole := Event.Cut.data (e := ⟨name, data⟩) (Cut.whole data.toList)
    rwa [String.ofList_toList] at whole
  · rw [List.take_append_of_le_length inside]
    obtain ⟨x, cut, read⟩ := run_take (d := ⟨[], name, []⟩) rfl (noLineEnd_data h) k
    exact ⟨_, flush_data cut, read⟩

theorem run_cut_event {e : Event} (h : e.OneLine) {k : Nat}
    (short : k < (Text.Utf8.encode e.write).length) :
    ∃ last, e.Cut last ∧ empty.run ((Text.Utf8.encode e.write).take k) = last.toList := by
  obtain ⟨name, data⟩ := e
  cases name with
  | none =>
    rw [encode_write_none] at short ⊢
    exact run_cut_data h.data (by simpa using short)
  | some n =>
    rw [encode_write_some] at short ⊢
    rcases Nat.lt_or_ge (nameLine n).length k with behind | inside
    · obtain ⟨j, rfl⟩ : ∃ j, k = (nameLine n).length + (j + 1) :=
        ⟨k - (nameLine n).length - 1, by omega⟩
      rw [List.take_length_add_append, List.take_succ_cons, run_name (h.name n rfl)]
      simp only [List.length_append, List.length_cons, List.length_nil] at short
      have data_line : OneLine data := h.data
      exact run_cut_data data_line (by omega)
    · rw [List.take_append_of_le_length inside]
      obtain ⟨x, cut, read⟩ := run_take (d := empty) rfl (noLineEnd_name (h.name n rfl)) k
      exact ⟨_, flush_name cut, read⟩

end Decoder

theorem cutEvents_decodeBody {events : List Event} (h : ∀ e ∈ events, e.OneLine) (n : Nat) :
    CutEvents events (decodeBody ((writeEvents events).take n)) := by
  induction events generalizing n with
  | nil =>
    rw [writeEvents, List.flatMap_nil, List.take_nil]
    exact .all
  | cons e rest ih =>
    rw [writeEvents, List.flatMap_cons]
    rcases Nat.lt_or_ge n (Text.Utf8.encode e.write).length with inside | behind
    · rw [List.take_append_of_le_length (Nat.le_of_lt inside), ← Decoder.run_empty]
      obtain ⟨last, part, read⟩ := Decoder.run_cut_event (h e List.mem_cons_self) inside
      rw [read]
      exact .cut part
    · rw [List.take_append, List.take_of_length_le behind, ← Decoder.run_empty,
        Decoder.run_event (h e List.mem_cons_self), Decoder.run_empty]
      exact .next (ih (fun e' he => h e' (List.mem_cons_of_mem _ he)) _)

theorem decodeBody_writeEvents {events : List Event} (h : ∀ e ∈ events, e.OneLine) :
    decodeBody (writeEvents events) = events := by
  induction events with
  | nil => rfl
  | cons e rest ih =>
    rw [← Decoder.run_empty, writeEvents, List.flatMap_cons,
      Decoder.run_event (h e List.mem_cons_self), Decoder.run_empty]
    exact congrArg (e :: ·) (ih fun e' he => h e' (List.mem_cons_of_mem _ he))

end ChatAgents.Http
