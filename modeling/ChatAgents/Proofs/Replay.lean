import ChatAgents.Proofs.Documents
import ChatAgents.Proofs.Lockstep
import ChatAgents.Model.Basic
set_option autoImplicit false

namespace ChatAgents

/-- The arguments are what their text means. -/
def ToolCall.ReadsBack (c : ToolCall) : Prop := Json.parse? c.arguments.render = some c.arguments

def Completion.ReadsBack (c : Completion) : Prop := ∀ call ∈ c.calls, call.ReadsBack

def ToolCall.toPartial (c : ToolCall) : PartialCall := ⟨c.id, c.name, c.arguments.render⟩

theorem ToolCall.finish_toPartial {c : ToolCall} (h : c.ReadsBack) : c.toPartial.finish = .ok c := by
  have blank := Json.not_isBlankText_of_parse? h
  simp only [ToolCall.ReadsBack] at h
  simp [PartialCall.finish, toPartial, parseArguments, blank, h, Except.map]

theorem finish_calls {calls : List ToolCall} (h : ∀ c ∈ calls, c.ReadsBack) :
    (calls.map ToolCall.toPartial).mapM PartialCall.finish = .ok calls := by
  induction calls with
  | nil => rfl
  | cons c rest ih =>
    rw [List.map_cons, List.mapM_cons, ToolCall.finish_toPartial (h c List.mem_cons_self),
      ih fun d hd => h d (List.mem_cons_of_mem _ hd)]
    rfl

theorem filterMap_callChunks {α : Type} (f : Chunk → Option α)
    (h : ∀ index id name arguments, f (.call index id name arguments) = none) (start : Nat)
    (calls : List ToolCall) : (callChunks start calls).filterMap f = [] := by
  induction calls generalizing start with
  | nil => rfl
  | cons c rest ih => simp [callChunks, h, ih]

theorem fragments_callChunks (i start : Nat) (calls : List ToolCall) :
    fragments i (callChunks start calls) =
      if start ≤ i then
        (calls[i - start]?.map fun c => ⟨some c.id, some c.name, c.arguments.render⟩).toList
      else [] := by
  induction calls generalizing start with
  | nil => simp [callChunks, fragments]
  | cons c rest ih =>
    have tail : fragments i (callChunks start (c :: rest)) =
        (if start = i then [⟨some c.id, some c.name, c.arguments.render⟩] else []) ++
          fragments i (callChunks (start + 1) rest) := by
      by_cases h : start = i <;>
        simp [callChunks, fragments, Chunk.fragment?, h]
    rw [tail, ih]
    rcases Nat.lt_trichotomy i start with lt | rfl | gt
    · have : ¬ start ≤ i := by omega
      have : ¬ start + 1 ≤ i := by omega
      have : start ≠ i := by omega
      simp [*]
    · have : ¬ i + 1 ≤ i := by omega
      simp [*]
    · obtain ⟨k, rfl⟩ : ∃ k, i = start + 1 + k := ⟨i - (start + 1), by omega⟩
      have : start ≠ start + 1 + k := by omega
      have : start + 1 + k - start = k + 1 := by omega
      have : start ≤ start + 1 + k := by omega
      simp [*]

theorem laneOf_callChunks (i : Nat) (calls : List ToolCall) :
    laneOf (fragments i (callChunks 0 calls)) = (calls.map ToolCall.toPartial)[i]? := by
  rw [fragments_callChunks]
  cases h : calls[i]? with
  | none => simp [h, laneOf]
  | some c =>
    simp [h, laneOf, PartialCall.extendAll, PartialCall.extend, PartialCall.empty,
      ToolCall.toPartial]

theorem filterMap_toChunks {α : Type} (f : Chunk → Option α) (c : Completion) :
    c.toChunks.filterMap f =
      ((c.text.filter (· ≠ "")).bind fun s => f (.text s)).toList ++
        (callChunks 0 c.calls).filterMap f ++
        c.citations.filterMap (fun x => f (.citation x)) ++
        (c.usage.bind fun u => f (.usage u)).toList := by
  simp only [Completion.toChunks, List.filterMap_append, filterMap_textChunks,
    filterMap_usageChunks, List.filterMap_map, Function.comp_def]

theorem fragments_toChunks (i : Nat) (c : Completion) :
    fragments i c.toChunks = fragments i (callChunks 0 c.calls) := by
  simp [fragments, filterMap_toChunks, Chunk.fragment?]

theorem texts_toChunks (c : Completion) :
    c.toChunks.filterMap Chunk.text? = (c.text.filter (· ≠ "")).toList := by
  rw [filterMap_toChunks, filterMap_callChunks _ fun _ _ _ _ => rfl]
  simp [Chunk.text?]

theorem citations_toChunks (c : Completion) :
    c.toChunks.filterMap Chunk.citation? = c.citations := by
  rw [filterMap_toChunks, filterMap_callChunks _ fun _ _ _ _ => rfl]
  simp [Chunk.citation?]

theorem usage_toChunks (c : Completion) :
    c.toChunks.filterMap Chunk.usage? = c.usage.toList := by
  rw [filterMap_toChunks, filterMap_callChunks _ fun _ _ _ _ => rfl]
  simp [Chunk.usage?]

theorem filter_ne_empty (text : Option String) :
    (if text.getD "" = "" then none else some (text.getD "")) = text.filter (· ≠ "") := by
  cases text with
  | none => rfl
  | some s => by_cases h : s = "" <;> simp [h, Option.filter]

theorem Completion.ofChunks_toChunks_eq (c : Completion) :
    Completion.ofChunks c.toChunks =
      ((c.calls.map ToolCall.toPartial).mapM PartialCall.finish).map fun calls =>
        { c.plain with calls } := by
  have lanes (i : Nat) : laneOf (fragments i c.toChunks) = (c.calls.map ToolCall.toPartial)[i]? := by
    rw [fragments_toChunks, laneOf_callChunks]
  rw [Completion.ofChunks_eq lanes, texts_toChunks, join_filter_toList, citations_toChunks,
    usage_toChunks, filter_ne_empty]
  cases hu : c.usage <;> simp [Completion.plain, hu, Usage.addTo_none]

theorem Completion.ofChunks_toChunks {c : Completion} (h : c.ReadsBack) :
    Completion.ofChunks c.toChunks = .ok c.plain := by
  rw [ofChunks_toChunks_eq, finish_calls h]
  rfl

theorem ToolCall.readsBack_of_finish {c : ToolCall} (h : c.toPartial.finish = .ok c) :
    c.ReadsBack := by
  have read : parseArguments c.name c.arguments.render = .ok c.arguments := by
    obtain ⟨v, arguments, same⟩ := bind_eq_ok_iff.1 h
    have unchanged : v = c.arguments := congrArg ToolCall.arguments (Except.ok.inj same)
    exact arguments.trans (congrArg Except.ok unchanged)
  rw [parseArguments] at read
  split at read
  · next blank =>
    -- no arguments are written as an empty object, and that is not blank
    rw [← Except.ok.inj read] at blank
    exact absurd blank (by decide)
  · cases document : Json.parse? c.arguments.render with
    | none =>
      rw [document] at read
      cases read
    | some v =>
      rw [document] at read
      exact document.trans (congrArg some (Except.ok.inj read))

theorem finish_calls_iff (calls : List ToolCall) :
    (calls.map ToolCall.toPartial).mapM PartialCall.finish = .ok calls ↔
      ∀ c ∈ calls, c.ReadsBack := by
  refine ⟨fun finished => ?_, finish_calls⟩
  induction calls with
  | nil => nofun
  | cons c rest ih =>
    obtain ⟨d, ds, first, later, same⟩ := ok_of_mapM_cons finished
    obtain ⟨rfl, rfl⟩ := List.cons.inj same
    exact List.forall_mem_cons.2 ⟨ToolCall.readsBack_of_finish first, ih later⟩

/-- An answer that is replayed in chunks and put together again is the same answer, with an empty
text as none: all its calls, citations and usage as they were. This takes that the arguments of its
calls are read back from their texts, and nothing else. -/
theorem Completion.replay_iff (c : Completion) :
    (Accumulator.empty.pushAll c.toChunks).finish =
        .ok ⟨c.text.filter (· ≠ ""), c.calls, c.citations, c.usage⟩ ↔
      ∀ call ∈ c.calls, Json.parse? call.arguments.render = some call.arguments := by
  change Completion.ofChunks c.toChunks = .ok c.plain ↔ c.ReadsBack
  refine ⟨fun replayed => ?_, Completion.ofChunks_toChunks⟩
  rw [ofChunks_toChunks_eq] at replayed
  obtain ⟨calls, finished, whole⟩ := map_eq_ok_iff.1 replayed
  have same : calls = c.calls := congrArg Completion.calls whole
  exact (finish_calls_iff c.calls).1 (finished.trans (congrArg Except.ok same))

def Completion.errand : Completion where
  text := some ""
  calls := [⟨"c1", "lookup", .obj [("q", .int 1)]⟩, ⟨"c2", "menu", .arr [.null, .null]⟩]
  citations := [⟨none, .url "u" none⟩, ⟨some "[1]", .file "f" (some "q")⟩]
  usage := some ⟨0, 4294967295⟩

theorem Completion.errand_replayed :
    (Accumulator.empty.pushAll Completion.errand.toChunks).finish =
      .ok { Completion.errand with text := none } := by
  have readsBack : ∀ call ∈ Completion.errand.calls,
      Json.parse? call.arguments.render = some call.arguments := by
    intro call member
    simp only [Completion.errand, List.mem_cons, List.not_mem_nil, or_false] at member
    rcases member with rfl | rfl <;> rfl
  have replayed := (Completion.replay_iff Completion.errand).2 readsBack
  have silent : Completion.errand.text.filter (· ≠ "") = none := by decide
  rwa [silent] at replayed

theorem ChunkStream.gives_ofCompletion {c : Completion} (h : c.ReadsBack) :
    (ChunkStream.ofCompletion c).Gives c where
  toCompletion := Completion.ofChunks_toChunks h
  updates r := by
    rw [AgentResponse.applyAll_updates, ofCompletion, texts_toChunks, join_filter_toList,
      citations_toChunks, usage_toChunks]
    cases hu : c.usage <;> simp [AgentResponse.addCompletion, hu]

def ScriptedTurn.reply : ScriptedTurn → Except RemoteError Completion
  | .answer c => .ok c
  | .fail e => .error e
  | .pieces s => s.toCompletion

def ScriptedTurn.ReadsBack (t : ScriptedTurn) : Prop := ∀ c, t.reply = .ok c → c.ReadsBack

namespace Script

theorem complete_run (r : ModelRequest) (s : Script) :
    complete r s =
      match s.turns with
      | [] => (.error (.response "script exhausted"), ⟨[], s.requests ++ [r]⟩)
      | t :: rest => (t.reply, ⟨rest, s.requests ++ [r]⟩) := by
  rw [complete, Work.bind_run, next]
  cases s.turns with
  | nil => rfl
  | cons t rest => cases t <;> rfl

theorem stream_run (r : ModelRequest) (s : Script) :
    model.stream r s = ((complete r s).1.map ChunkStream.ofCompletion, (complete r s).2) := by
  change (do return ChunkStream.ofCompletion (← complete r) : Work Script RemoteError _) s = _
  rw [Work.bind_run]
  rcases complete r s with ⟨_ | _, _⟩ <;> rfl

/-- Scripts with the same turns to come, asked the same but for turns behind the first `n`
messages that one of them saw plain. -/
structure Mirrors (n : Nat) (s s' : Script) : Prop where
  turns : s'.turns = s.turns
  requests : s'.requests = s.requests.map (ModelRequest.plainAfter n)
  readsBack : ∀ t ∈ s.turns, t.ReadsBack

theorem lockstep (n : Nat) : model.Lockstep n (Mirrors n) where
  same {r s s'} h := by
    rw [stream_run, complete_run, h.turns]
    change SameTurn (complete r s).1 _
    rw [complete_run]
    cases ht : s.turns with
    | nil => exact rfl
    | cons t rest =>
      have readsBack := h.readsBack t (by simp [ht])
      cases hr : t.reply with
      | error e => simp [SameTurn, hr, Except.map]
      | ok c => simpa [SameTurn, hr, Except.map] using ChunkStream.gives_ofCompletion (readsBack c hr)
  related {r s s'} h := by
    rw [stream_run, complete_run, h.turns]
    change Mirrors n (complete r s).2 _
    rw [complete_run]
    have readsBack := h.readsBack
    cases ht : s.turns with
    | nil => exact ⟨rfl, by simp [h.requests], by simp⟩
    | cons t rest =>
      rw [ht] at readsBack
      exact ⟨rfl, by simp [h.requests], fun u hu => readsBack u (List.mem_cons_of_mem _ hu)⟩

end Script

/-- Over a script of whole answers and failures, waiting and streaming give the same response or the
same error, execute the same calls and ask the same, but for turns of the run with an empty content,
which streaming has as none. -/
theorem ChatAgent.collect_runStreaming_script (a : ChatAgent Script)
    (replaying : a.model = Script.model) (messages : List ChatMessage) (o : RunOptions)
    (turns : List ScriptedTurn) (readsBack : ∀ t ∈ turns, t.ReadsBack) :
    let whole := a.run messages o (.start ⟨turns, []⟩)
    let streamed := a.runStreaming messages o (.start ⟨turns, []⟩)
    collect streamed = whole.1 ∧
      streamed.world.executed = whole.2.executed ∧
      streamed.world.service.requests = whole.2.service.requests.map
        (ModelRequest.plainAfter (a.initialHistory messages o).length) := by
  have start (n : Nat) : Script.Mirrors n ⟨turns, []⟩ ⟨turns, []⟩ := ⟨rfl, rfl, readsBack⟩
  obtain ⟨result, mirrors, executed⟩ :=
    a.runStreaming_lockstep messages o (replaying ▸ Script.lockstep _) (start _)
  exact ⟨result, executed, mirrors.requests⟩

def Script.rehearsal : List ScriptedTurn :=
  [.answer ⟨some "", [⟨"c1", "lookup", .obj [("q", .int 1)]⟩], [], some ⟨3, 4⟩⟩,
   .answer ⟨some "done", [], [], none⟩]

theorem Script.rehearsal_readsBack : ∀ t ∈ Script.rehearsal, t.ReadsBack := by
  intro t ht c hc call hcall
  simp only [Script.rehearsal, List.mem_cons, List.not_mem_nil, or_false] at ht
  rcases ht with rfl | rfl
  · cases hc
    obtain rfl := List.mem_singleton.1 hcall
    rfl
  · cases hc
    simp at hcall

theorem ChatAgent.collect_runStreaming_rehearsal :
    (∀ t ∈ Script.rehearsal, t.ReadsBack) ∧
      let a : ChatAgent Script := ⟨Script.model, "agent", none, .empty, 3⟩
      let whole := a.run [] .default (.start ⟨Script.rehearsal, []⟩)
      let streamed := a.runStreaming [] .default (.start ⟨Script.rehearsal, []⟩)
      whole.1 = .ok ⟨"done", [], some ⟨3, 4⟩⟩ ∧
        collect streamed = whole.1 ∧
        streamed.world.executed = whole.2.executed ∧
        streamed.world.service.requests = whole.2.service.requests.map
          (ModelRequest.plainAfter (a.initialHistory [] .default).length) :=
  ⟨Script.rehearsal_readsBack, rfl,
    ChatAgent.collect_runStreaming_script ⟨Script.model, "agent", none, .empty, 3⟩ rfl [] .default
      Script.rehearsal Script.rehearsal_readsBack⟩

end ChatAgents
