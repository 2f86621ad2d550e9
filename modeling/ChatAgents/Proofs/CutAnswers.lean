import ChatAgents.Proofs.Documents
import ChatAgents.Proofs.Fragments
set_option autoImplicit false

namespace ChatAgents

def Completion.sansUsage (c : Completion) : Completion := { c with usage := none }

/-- Everything but a report of usage. -/
def Chunk.speaks (c : Chunk) : Bool := c.usage?.isNone

def Accumulator.sansUsage (a : Accumulator) : Accumulator := { a with usage := none }

theorem Accumulator.pushAll_sansUsage (a : Accumulator) (chunks : List Chunk) :
    (a.pushAll chunks).sansUsage = a.sansUsage.pushAll (chunks.filter Chunk.speaks) := by
  induction chunks generalizing a with
  | nil => rfl
  | cons c cs ih =>
    change ((a.push c).pushAll cs).sansUsage = _
    rw [ih]
    cases c <;> rfl

theorem Accumulator.finish_sansUsage (a : Accumulator) :
    a.finish.map Completion.sansUsage = a.sansUsage.finish := by
  simp only [finish, sansUsage]
  cases a.calls.mapM fun (c : Nat × PartialCall) => c.2.finish <;> rfl

theorem Completion.ofChunks_sansUsage (chunks : List Chunk) :
    (Completion.ofChunks chunks).map Completion.sansUsage =
      Completion.ofChunks (chunks.filter Chunk.speaks) := by
  rw [Completion.ofChunks, Accumulator.finish_sansUsage, Accumulator.pushAll_sansUsage]
  rfl

namespace Http

theorem cut_ne_done {cs x : List Char} (object : Json.IsObject cs) (cut : Text.Utf8.Cut cs x) :
    x ≠ "[DONE]".toList := by
  rintro rfl
  obtain ⟨members, read⟩ := object
  generalize mark : "[DONE]".toList = done at cut
  cases cut with
  | between _ back =>
    have refused : done.foldlM (Json.Machine.step? Json.maxDepth) Json.Machine.start = none := by
      rw [← mark]
      rfl
    rw [Json.document?, Json.foldlM_step_append, refused] at read
    simp at read
  | inside front c back far =>
    have last := congrArg List.getLast? mark
    rw [List.getLast?_append] at last
    exact absurd (Option.some.inj last) (by decide)

end Http

namespace ChatCompletions

open Http (CutEvents Event Network OneLine)

/-- A line that holds a chunk. -/
structure Holds (line : String) (b : ChunkBody) : Prop where
  oneLine : OneLine line
  object : Json.IsObject line.toList
  read : Json.readText? readChunkBody? line.toList = some b

/-- Once a chunk has a reason to finish, no other has choices. -/
def FinishesLast (bodies : List ChunkBody) : Prop :=
  bodies.Pairwise fun b later => b.finishes = true → later.choices = []

theorem isDone_unnamed {x : List Char} (h : x ≠ "[DONE]".toList) :
    Event.isDone ⟨none, String.ofList x⟩ = false := by
  refine Event.isDone_eq_false (Option.some_ne_none _).symm fun done => ?_
  exact h (by rw [← done, String.toList_ofList])

theorem Holds.cut {line : String} {b : ChunkBody} (h : Holds line b) {x : List Char}
    (cut : Text.Utf8.Cut line.toList x) :
    Json.readText? readChunkBody? x = none ∨ Json.readText? readChunkBody? x = some b := by
  obtain ⟨members, whole⟩ := h.object
  rcases Json.document?_cut whole cut with none_read | same
  · exact .inl (by rw [Json.readText?, none_read]; rfl)
  · exact .inr (by rw [← h.read, Json.readText?, Json.readText?, same, whole])

theorem closing_cut {x : List Char} (cut : Text.Utf8.Cut closing.data.toList x) :
    x = "[DONE]".toList ∨ x ≠ "[DONE]".toList ∧ Json.readText? readChunkBody? x = none := by
  have split : closing.data.toList = "[DONE]".toList ++ [] := rfl
  rw [split] at cut
  rcases cut.append_cases (by decide) with ⟨k, lt, rfl⟩ | ⟨y, rfl, rest⟩
  · refine .inr ?_
    obtain rfl | rfl | rfl | rfl | rfl | rfl : k = 0 ∨ k = 1 ∨ k = 2 ∨ k = 3 ∨ k = 4 ∨ k = 5 := by
      change k < 6 at lt
      omega
    all_goals exact ⟨by decide, rfl⟩
  · rw [rest.eq_nil rfl, List.append_nil]
    exact .inl rfl

theorem oneLine_of_holds {lines : List String} {bodies : List ChunkBody}
    (h : List.Forall₂ Holds lines bodies) : ∀ s ∈ lines, OneLine s := by
  induction h with
  | nil => exact fun s hs => absurd hs List.not_mem_nil
  | cons first _ ih =>
    intro s hs
    rcases List.mem_cons.1 hs with rfl | hs
    · exact first.oneLine
    · exact ih s hs

theorem speaks_toChunks_of_silent {b : ChunkBody} (h : b.choices = []) :
    b.toChunks.filter Chunk.speaks = [] := by
  rw [ChunkBody.toChunks, h]
  cases hu : b.usage <;> rfl

theorem speaks_of_silent {bodies : List ChunkBody} (h : ∀ b ∈ bodies, b.choices = []) :
    (bodies.flatMap ChunkBody.toChunks).filter Chunk.speaks = [] := by
  rw [List.filter_flatMap, List.flatMap_eq_nil_iff]
  exact fun b hb => speaks_toChunks_of_silent (h b hb)

theorem chunkStream_read {b : ChunkBody} {x : List Char}
    (unclosed : x ≠ "[DONE]".toList) (read : Json.readText? readChunkBody? x = some b)
    (finished : Bool) (rest : List Event) :
    chunkStream none finished (⟨none, String.ofList x⟩ :: rest) =
      (chunkStream none (finished || b.finishes) rest).prepend b.toChunks := by
  rw [chunkStream, isDone_unnamed unclosed, if_neg Bool.false_ne_true]
  simp only [String.toList_ofList, read]

theorem chunkStream_unread {x : List Char} (unclosed : x ≠ "[DONE]".toList)
    (unread : Json.readText? readChunkBody? x = none) (finished : Bool) (rest : List Event) :
    (chunkStream none finished (⟨none, String.ofList x⟩ :: rest)).fault ≠ none := by
  rw [chunkStream, isDone_unnamed unclosed, if_neg Bool.false_ne_true]
  simp [String.toList_ofList, unread]

/-- A stream that breaks off without a fault has said everything. -/
theorem chunkStream_cut {lines : List String} {bodies : List ChunkBody}
    (h : List.Forall₂ Holds lines bodies) (order : FinishesLast bodies) {seen : List Event}
    (cut : CutEvents (chunkEvents lines) seen) {finished : Bool}
    (settled : finished = true → ∀ b ∈ bodies, b.choices = [])
    (faultless : (chunkStream none finished seen).fault = none) :
    (chunkStream none finished seen).chunks.filter Chunk.speaks =
      (bodies.flatMap ChunkBody.toChunks).filter Chunk.speaks := by
  -- on the lines; `settled` says that a stream which may end here has no more to say
  induction h generalizing seen finished with
  | nil =>
    cases cut with
    | cut part =>
      cases part with
      | nothing => rfl
      | name named => cases named
      | data part =>
        rcases closing_cut part with rfl | ⟨unclosed, unread⟩
        · rfl
        · exact absurd faultless (chunkStream_unread unclosed unread finished [])
    | next more =>
      cases more
      rfl
  | @cons line b lines bodies first rest ih =>
    obtain ⟨last, later⟩ := List.pairwise_cons.1 order
    have settled' : (finished || b.finishes) = true → ∀ b' ∈ bodies, b'.choices = [] := by
      intro settled_now b' hb
      rcases Bool.or_eq_true_iff.1 settled_now with before | now
      · exact settled before b' (List.mem_cons_of_mem _ hb)
      · exact last b' hb now
    cases cut with
    | cut part =>
      cases part with
      | nothing =>
        cases finished with
        | false => cases faultless
        | true =>
          rw [speaks_of_silent (settled rfl)]
          rfl
      | name named => cases named
      | @data x part =>
        have unclosed := Http.cut_ne_done first.object part
        rcases first.cut part with unread | read
        · exact absurd faultless (chunkStream_unread unclosed unread finished [])
        · dsimp only [Option.toList_some] at faultless ⊢
          rw [chunkStream_read unclosed read] at faultless ⊢
          have ended : (finished || b.finishes) = true := by
            cases ended : (finished || b.finishes) with
            | true => rfl
            | false =>
              rw [ended] at faultless
              cases faultless
          rw [ended, ChunkStream.prepend, List.flatMap_cons, List.filter_append, List.filter_append,
            speaks_of_silent (settled' ended)]
          rfl
    | @next _ _ seen more =>
      have unclosed := Http.cut_ne_done first.object (.whole line.toList)
      have read := chunkStream_read unclosed first.read finished seen
      rw [String.ofList_toList] at read
      rw [read] at faultless ⊢
      rw [ChunkStream.prepend, List.flatMap_cons, List.filter_append, List.filter_append,
        ih later more settled' faultless]

theorem carry_of_holds {lines : List String} {bodies : List ChunkBody}
    (h : List.Forall₂ Holds lines bodies) : Carry (lines.map (Event.mk none)) bodies := by
  rw [Carry, List.forall₂_map_left_iff]
  refine h.imp fun {line b} first => ⟨?_, first.read⟩
  have undone := isDone_unnamed (Http.cut_ne_done first.object (.whole line.toList))
  rwa [String.ofList_toList] at undone

def peer (status delay : Nat) (rest : List Http.Reply) (body : List UInt8) : Network :=
  .connect (.scripted (⟨.response ⟨status, body, true⟩, delay⟩ :: rest))

theorem stream_peer {c : Config} {r : ModelRequest} {status delay : Nat} {rest : List Http.Reply}
    {body : List UInt8} {s : ChunkStream} (h : (stream c r (peer status delay rest body)).1 = .ok s)
    (body' : List UInt8) :
    s = chunkStream none false (Http.decodeBody body) ∧
      (stream c r (peer status delay rest body')).1 =
        .ok (chunkStream none false (Http.decodeBody body')) := by
  rw [stream_run] at h ⊢
  cases built : (c.draft r true).build with
  | error fault =>
    rw [Http.send_unbuilt built] at h
    simp [Except.map] at h
  | ok q =>
    rw [Http.send_built built] at h ⊢
    rw [peer, Network.connect, Http.exchange_cons] at h ⊢
    cases success : Http.isSuccess status with
    | false => simp [Http.Answer.response?, Http.outcome, success, Except.map] at h
    | true =>
      simp only [Http.Answer.response?, Http.outcome, success, if_true, Except.map,
        Except.ok.injEq] at h ⊢
      exact ⟨h.symm, rfl⟩

theorem stream_cut (c : Config) (r : ModelRequest) {lines : List String} {bodies : List ChunkBody}
    (h : List.Forall₂ Holds lines bodies) (order : FinishesLast bodies)
    (status delay : Nat) (rest : List Http.Reply) (n : Nat) {s : ChunkStream}
    (streamed : (stream c r (peer status delay rest
      ((Http.writeEvents (chunkEvents lines)).take n))).1 = .ok s)
    (faultless : s.fault = none) :
    ∃ whole, (stream c r (peer status delay rest (Http.writeEvents (chunkEvents lines)))).1 =
        .ok whole ∧ whole.fault = none ∧
      s.toCompletion.map Completion.sansUsage = whole.toCompletion.map Completion.sansUsage := by
  have lined := oneLine_chunkEvents (oneLine_of_holds h)
  obtain ⟨rfl, served⟩ := stream_peer streamed (Http.writeEvents (chunkEvents lines))
  have all : chunkStream none false (chunkEvents lines) =
      ⟨bodies.flatMap ChunkBody.toChunks, none⟩ :=
    chunkStream_of_carry (carry_of_holds h) none false rfl []
  rw [Http.decodeBody_writeEvents lined, all] at served
  refine ⟨_, served, rfl, ?_⟩
  have said := chunkStream_cut h order (Http.cutEvents_decodeBody lined n)
    (fun ended : false = true => absurd ended Bool.false_ne_true) faultless
  rw [ChunkStream.toCompletion, faultless, ChunkStream.toCompletion]
  dsimp only
  rw [Completion.ofChunks_sansUsage, Completion.ofChunks_sansUsage, said]

end ChatCompletions
end ChatAgents
