import ChatAgents.Proofs.EventStreams
set_option autoImplicit false

namespace ChatAgents.Http.Decoder

def pushAll (d : Decoder) : List (List UInt8) → Decoder × List Event
  | [] => (d, [])
  | chunk :: chunks =>
    let (d', events) := d.push chunk
    let (d'', later) := d'.pushAll chunks
    (d'', events ++ later)

def runAll (d : Decoder) (chunks : List (List UInt8)) : List Event :=
  (d.pushAll chunks).2 ++ (d.pushAll chunks).1.finish.2.toList

/-- The decoders there can be: a new one, and what chunks and ends of bodies make of it. -/
inductive Reached : Decoder → Prop
  | empty : Reached empty
  | push {d : Decoder} (bs : List UInt8) (h : Reached d) : Reached (d.push bs).1
  | finish {d : Decoder} (h : Reached d) : Reached d.finish.1

theorem noFeed_splitLines (bs : List UInt8) : noFeed (splitLines bs).2 := by
  induction bs with
  | nil => exact nofun
  | cons b bs ih =>
    by_cases end_of_line : b = lineFeed
    · rw [end_of_line, splitLines_feed]
      exact ih
    · rw [splitLines_cons end_of_line]
      cases (splitLines bs).1 with
      | nil => exact List.forall_mem_cons.2 ⟨end_of_line, ih⟩
      | cons line lines => exact ih

theorem dispatch_fst {d : Decoder} (fresh : d.line = []) : d.dispatch.1 = empty := by
  obtain ⟨line, name, data⟩ := d
  obtain rfl : line = [] := fresh
  rw [dispatch]
  split <;> rename_i nothing
  · rw [Bool.and_eq_true, List.isEmpty_iff, Option.isNone_iff_eq_none] at nothing
    obtain ⟨rfl, rfl⟩ := nothing
    rfl
  · rfl

theorem readLine_fst_of_some {d : Decoder} (fresh : d.line = []) {line : List Char} {e : Event}
    (h : (d.readLine line).2 = some e) : (d.readLine line).1 = empty := by
  unfold readLine at h ⊢
  split at h
  · exact dispatch_fst fresh
  · cases h
  · cases h

theorem finish_fst (d : Decoder) : d.finish.1 = empty := by
  rw [finish]
  split <;> rename_i whole
  · exact dispatch_fst (List.isEmpty_iff.1 whole)
  · dsimp only
    split <;> rename_i d' event read
    · have left := readLine_fst_of_some (d := { d with line := [] }) rfl (congrArg Prod.snd read)
      rwa [read] at left
    · refine dispatch_fst ?_
      have kept := line_readLine { d with line := [] }
        (Text.trimEndChars (Text.Utf8.decodeLossy d.line))
      rwa [read] at kept

theorem Reached.noFeed {d : Decoder} (h : Reached d) : noFeed d.line := by
  cases h with
  | empty => exact nofun
  | push bs _ =>
    rw [push_run]
    exact noFeed_splitLines _
  | finish _ =>
    rw [finish_fst]
    exact nofun

theorem push_nil {d : Decoder} (h : noFeed d.line) : d.push [] = (d, []) := by
  rw [push_run, List.append_nil, splitLines_noFeed h]
  rfl

theorem pushAll_eq_push {d : Decoder} (h : Reached d) (chunks : List (List UInt8)) :
    d.pushAll chunks = d.push chunks.flatten := by
  induction chunks generalizing d with
  | nil => exact (push_nil h.noFeed).symm
  | cons chunk chunks ih =>
    rw [pushAll, List.flatten_cons, push_append]
    dsimp only
    rw [ih (h.push chunk)]

theorem runAll_eq_run {d : Decoder} (h : Reached d) (chunks : List (List UInt8)) :
    d.runAll chunks = d.run chunks.flatten := by
  rw [runAll, pushAll_eq_push h, run]

/-- Chunks are read as the bytes that they make together, whether their body ends with them or breaks
off. At its end the decoder is as new: it has no event left, and the next body is read on its own. -/
theorem chunks_make_no_difference {d : Decoder} (reached : Reached d)
    (chunks later : List (List UInt8)) :
    d.pushAll chunks = d.push chunks.flatten ∧ d.runAll chunks = d.run chunks.flatten ∧
      empty.runAll chunks = decodeBody chunks.flatten ∧
      (empty.pushAll chunks).2 = decodeBroken chunks.flatten ∧
      d.finish.1 = empty ∧ d.finish.1.finish = (empty, none) ∧
      d.finish.1.runAll later = decodeBody later.flatten := by
  have whole := runAll_eq_run .empty chunks
  have broken := congrArg Prod.snd (pushAll_eq_push .empty chunks)
  rw [finish_fst]
  exact ⟨pushAll_eq_push reached chunks, runAll_eq_run reached chunks, whole, broken, rfl, rfl,
    runAll_eq_run .empty later⟩

/-- The first chunks end inside of an event; later ones begin inside of a character and of a line end,
and one of them is empty. -/
theorem accent_in_chunks :
    let d := (empty.pushAll [Text.Utf8.encode "event: menu\r\ndata: one\r\nda",
      Text.Utf8.encode "ta: caf" ++ [0xC3]]).1
    let chunks := [[0xA9, 13], [], [10, 13], [10] ++ Text.Utf8.encode "data: x"]
    Reached d ∧ d.runAll chunks = [⟨some "menu", "one\ncafé"⟩, ⟨none, "x"⟩] ∧
      d.pushAll chunks = d.push chunks.flatten ∧ d.finish.1 = empty ∧
      d.finish.1.runAll chunks = decodeBody chunks.flatten := by
  intro d chunks
  have reached : Reached d := .push _ (.push _ .empty)
  obtain ⟨pushed, -, -, -, ended, -, later⟩ := chunks_make_no_difference reached chunks chunks
  exact ⟨reached, by decide, pushed, ended, later⟩

end ChatAgents.Http.Decoder
