import ChatAgents.Model.ChatCompletions
import ChatAgents.Proofs.EventStreams
import ChatAgents.Proofs.Exchanges
import ChatAgents.Proofs.Replay
import Mathlib.Data.List.Forall2
set_option autoImplicit false

namespace ChatAgents

namespace ChatCompletions

open Http (Network Reply Request Response)

def deltas (bodies : List ChunkBody) : List Delta :=
  bodies.flatMap fun b => b.choices.filterMap (·.delta)

def callDeltas (index : Nat) (bodies : List ChunkBody) : List CallDelta :=
  ((deltas bodies).flatMap (·.calls)).filter (·.index == index)

/-- One fragment names the id, and the names and arguments of all make those of the call. -/
structure CallFragments (c : WireCall) (ds : List CallDelta) : Prop where
  id : ds.filterMap (·.id) = [c.id]
  name : String.join (ds.filterMap (·.name)) = c.name
  arguments : String.join (ds.map (·.arguments)) = c.arguments

/-- The chunks are fragments of a message and a report of usage. -/
structure Fragments (m : AssistantMessage) (usage : Option Usage) (bodies : List ChunkBody) :
    Prop where
  content : String.join ((deltas bodies).filterMap (·.content)) = m.content.getD ""
  calls : ∀ i c, m.calls[i]? = some c → CallFragments c (callDeltas i bodies)
  indices : ∀ d ∈ (deltas bodies).flatMap (·.calls), d.index < m.calls.length
  citations : (deltas bodies).flatMap (·.citations) = m.citations
  usage : bodies.filterMap (·.usage) = usage.toList

theorem filterMap_delta {α : Type} (f : Chunk → Option α) (d : Delta) :
    d.toChunks.filterMap f =
      ((d.content.filter (· ≠ "")).bind fun s => f (.text s)).toList ++
        d.calls.filterMap (fun c => f (.call c.index c.id c.name c.arguments)) ++
        d.citations.filterMap (fun x => f (.citation x)) := by
  simp only [Delta.toChunks, List.filterMap_append, filterMap_textChunks, List.filterMap_map,
    Function.comp_def]

theorem filterMap_bodies {α : Type} (f : Chunk → Option α) (bodies : List ChunkBody) :
    (bodies.flatMap ChunkBody.toChunks).filterMap f =
      bodies.flatMap fun b =>
        ((b.choices.filterMap (·.delta)).flatMap fun d => d.toChunks.filterMap f) ++
          (b.usage.bind fun u => f (.usage u)).toList := by
  simp only [List.filterMap_flatMap, ChunkBody.toChunks, List.filterMap_append,
    filterMap_usageChunks]

theorem filterMap_bodies_of_deltas {α : Type} (f : Chunk → Option α) (bodies : List ChunkBody)
    (h : ∀ u, f (.usage u) = none) :
    (bodies.flatMap ChunkBody.toChunks).filterMap f =
      (deltas bodies).flatMap fun d => d.toChunks.filterMap f := by
  simp [filterMap_bodies, deltas, h, List.flatMap_assoc]

theorem texts_bodies (bodies : List ChunkBody) :
    String.join ((bodies.flatMap ChunkBody.toChunks).filterMap Chunk.text?) =
      String.join ((deltas bodies).filterMap (·.content)) := by
  rw [filterMap_bodies_of_deltas _ _ fun _ => rfl]
  induction deltas bodies with
  | nil => rfl
  | cons d ds ih =>
    rw [List.flatMap_cons, String.join_append, ih, filterMap_delta]
    cases hc : d.content with
    | none => simp [Chunk.text?, hc]
    | some s => by_cases hs : s = "" <;> simp [Chunk.text?, hc, hs, Option.filter]

theorem fragments_bodies (i : Nat) (bodies : List ChunkBody) :
    fragments i (bodies.flatMap ChunkBody.toChunks) =
      (callDeltas i bodies).map fun d => ⟨d.id, d.name, d.arguments⟩ := by
  rw [fragments, filterMap_bodies_of_deltas _ _ fun _ => rfl, callDeltas]
  induction deltas bodies with
  | nil => rfl
  | cons d ds ih =>
    rw [List.flatMap_cons, ih, filterMap_delta, List.flatMap_cons, List.filter_append,
      List.map_append]
    congr 1
    simp only [Chunk.fragment?]
    induction d.calls with
    | nil => simp
    | cons c cs ih' => by_cases hi : c.index = i <;> simp_all

theorem citations_bodies (bodies : List ChunkBody) :
    (bodies.flatMap ChunkBody.toChunks).filterMap Chunk.citation? =
      (deltas bodies).flatMap (·.citations) := by
  rw [filterMap_bodies_of_deltas _ _ fun _ => rfl]
  simp [filterMap_delta, Chunk.citation?]

theorem usage_bodies (bodies : List ChunkBody) :
    (bodies.flatMap ChunkBody.toChunks).filterMap Chunk.usage? = bodies.filterMap (·.usage) := by
  rw [filterMap_bodies]
  induction bodies with
  | nil => rfl
  | cons b bs ih =>
    rw [List.flatMap_cons, ih]
    cases hu : b.usage <;> simp [filterMap_delta, Chunk.usage?, hu]

def WireCall.toPartial (c : WireCall) : PartialCall := ⟨c.id, c.name, c.arguments⟩

theorem CallFragments.laneOf_eq {c : WireCall} {ds : List CallDelta} (h : CallFragments c ds) :
    laneOf (ds.map fun d => ⟨d.id, d.name, d.arguments⟩) = some c.toPartial := by
  have some_fragment : ds ≠ [] := by
    rintro rfl
    have := h.id
    simp at this
  simp only [laneOf, List.map_eq_nil_iff, some_fragment, if_false, PartialCall.extendAll_eq,
    List.filterMap_map, List.map_map, Function.comp_def, h.id, h.name, h.arguments]
  simp [PartialCall.empty, WireCall.toPartial]

theorem Fragments.laneOf_eq {m : AssistantMessage} {usage : Option Usage}
    {bodies : List ChunkBody} (h : Fragments m usage bodies) (i : Nat) :
    laneOf (fragments i (bodies.flatMap ChunkBody.toChunks)) =
      (m.calls.map WireCall.toPartial)[i]? := by
  rw [fragments_bodies, List.getElem?_map]
  cases hc : m.calls[i]? with
  | some c => exact (h.calls i c hc).laneOf_eq
  | none =>
    have beyond : m.calls.length ≤ i := List.getElem?_eq_none_iff.1 hc
    have none_there : callDeltas i bodies = [] := by
      rw [callDeltas, List.filter_eq_nil_iff]
      intro d hd
      have := h.indices d hd
      simp
      omega
    rw [none_there]
    rfl

theorem mapM_finish_toPartial (calls : List WireCall) :
    (calls.map WireCall.toPartial).mapM PartialCall.finish = calls.mapM WireCall.toCall := by
  induction calls with
  | nil => rfl
  | cons c rest ih =>
    rw [List.map_cons, List.mapM_cons, List.mapM_cons, ih]
    rfl

theorem foldl_addTo_toList (usage : Option Usage) :
    usage.toList.foldl Usage.addTo none = usage := by
  cases usage with
  | none => rfl
  | some u => simp [Usage.addTo_none]

/-- The chunks make the answer of the body, or fail at the same call. -/
theorem Fragments.ofChunks_eq {m : AssistantMessage} {usage : Option Usage}
    {bodies : List ChunkBody} (h : Fragments m usage bodies) :
    Completion.ofChunks (bodies.flatMap ChunkBody.toChunks) =
      (CompletionBody.mk [some m] usage).toCompletion := by
  rw [Completion.ofChunks_eq h.laneOf_eq, mapM_finish_toPartial, texts_bodies, h.content,
    filter_ne_empty, citations_bodies, h.citations, usage_bodies, h.usage, foldl_addTo_toList]
  rfl

theorem plain_of_toCompletion {m : AssistantMessage} {usage : Option Usage} {c : Completion}
    (h : (CompletionBody.mk [some m] usage).toCompletion = .ok c) :
    c.text = m.content.filter (· ≠ "") ∧ c.citations = m.citations ∧ c.usage = usage := by
  simp only [CompletionBody.toCompletion] at h
  cases hc : m.calls.mapM WireCall.toCall with
  | error e => simp [hc, Except.map] at h
  | ok calls =>
    simp only [hc, Except.map, Except.ok.injEq] at h
    subst h
    exact ⟨rfl, rfl, rfl⟩

theorem Fragments.gives {m : AssistantMessage} {usage : Option Usage} {bodies : List ChunkBody}
    (h : Fragments m usage bodies) {c : Completion}
    (hc : (CompletionBody.mk [some m] usage).toCompletion = .ok c) :
    (ChunkStream.mk (bodies.flatMap ChunkBody.toChunks) none).Gives c := by
  obtain ⟨text, citations, hu⟩ := plain_of_toCompletion hc
  have plain : c.plain = c := by
    cases c
    simp_all [Completion.plain]
  refine ⟨?_, fun r => ?_⟩
  · rw [plain, ← hc, ← h.ofChunks_eq]
    rfl
  · rw [AgentResponse.applyAll_updates, texts_bodies, h.content, citations_bodies, h.citations,
      usage_bodies, h.usage, AgentResponse.addCompletion, text, citations, hu, getD_filter]
    cases usage <;> rfl

def Carry (events : List Http.Event) (bodies : List ChunkBody) : Prop :=
  List.Forall₂
    (fun e b => e.isDone = false ∧ Json.readText? readChunkBody? e.data.toList = some b)
    events bodies

theorem chunkStream_of_carry {events : List Http.Event} {bodies : List ChunkBody}
    (h : Carry events bodies) (fault : Option RemoteError) (finished : Bool) {done : Http.Event}
    (stop : done.isDone = true) (rest : List Http.Event) :
    chunkStream fault finished (events ++ done :: rest) =
      ⟨bodies.flatMap ChunkBody.toChunks, none⟩ := by
  induction h generalizing finished with
  | nil => simp [chunkStream, stop]
  | cons first _ ih => simp [chunkStream, first.1, first.2, ih, ChunkStream.prepend]

/-- A response whose body is a completion of one choice with a message. -/
structure AnswersWhole (r : Response) (m : AssistantMessage) (usage : Option Usage) : Prop where
  success : Http.isSuccess r.status = true
  body : r.read? readCompletionBody? = some ⟨[some m], usage⟩

/-- A response whose body is an event stream of chunks, closed by an event that says so. -/
structure AnswersInChunks (r : Response) (bodies : List ChunkBody) : Prop where
  success : Http.isSuccess r.status = true
  body : ∃ events done rest, r.feed.events = events ++ done :: rest ∧ done.isDone = true ∧
    Carry events bodies

def closing : Http.Event := ⟨none, "[DONE]"⟩

def chunkEvents (lines : List String) : List Http.Event := lines.map (Http.Event.mk none) ++ [closing]

theorem oneLine_chunkEvents {lines : List String} (h : ∀ s ∈ lines, Http.OneLine s) :
    ∀ e ∈ chunkEvents lines, e.OneLine := by
  intro e he
  simp only [chunkEvents, List.mem_append, List.mem_map, List.mem_singleton] at he
  rcases he with ⟨s, hs, rfl⟩ | rfl
  · exact ⟨nofun, h s hs⟩
  · exact ⟨nofun, by decide⟩

theorem AnswersInChunks.of_write {status : Nat} (success : Http.isSuccess status = true)
    {lines : List String} (oneLine : ∀ s ∈ lines, Http.OneLine s) {bodies : List ChunkBody}
    (carry : Carry (lines.map (Http.Event.mk none)) bodies) :
    AnswersInChunks ⟨status, Http.writeEvents (chunkEvents lines), true⟩ bodies :=
  ⟨success, lines.map (Http.Event.mk none), closing, [],
    Http.decodeBody_writeEvents (oneLine_chunkEvents oneLine), rfl, carry⟩

/-- The second reply streams any fragmentation of the first. -/
def SameAnswer (whole streamed : Reply) : Prop :=
  ∃ r r' m usage bodies, whole.answer = .response r ∧ streamed.answer = .response r' ∧
    AnswersWhole r m usage ∧ AnswersInChunks r' bodies ∧ Fragments m usage bodies

def withoutStream : Json → Json
  | .obj members => .obj (members.filter fun m => m.1 ≠ "stream" ∧ m.1 ≠ "stream_options")
  | v => v

def unstreamed (r : Request) : Request := { r with body := r.body.map withoutStream }

/-- Peers that answer alike, asked alike so far. -/
structure Paired (n n' : Network) : Prop where
  links : ∃ replies replies', n.link = .scripted replies ∧ n'.link = .scripted replies' ∧
    List.Forall₂ SameAnswer replies replies'
  log : n'.log.map (fun x => unstreamed x.request) = n.log.map (fun x => unstreamed x.request)

theorem wireMessages_plainAfter (n : Nat) (messages : List ModelMessage) :
    wireMessages (plainAfter n messages) = wireMessages messages := by
  have plain (m : ModelMessage) : WireMessage.ofMessage? m.plain = WireMessage.ofMessage? m := by
    cases m with
    | assistant content calls => simp [ModelMessage.plain, WireMessage.ofMessage?]
    | system _ | user _ | toolResult _ _ _ _ => rfl
  conv_rhs => rw [← List.take_append_drop n messages]
  simp only [wireMessages, plainAfter, List.filterMap_append, List.filterMap_map,
    Function.comp_def, plain]

theorem withoutStream_record (front : List (String × Option Json)) (x y : Option Json) :
    withoutStream (.record (front ++ [("stream", x), ("stream_options", y)])) =
      withoutStream (.record front) := by
  cases x <;> cases y <;> simp [Json.record, withoutStream]

theorem withoutStream_requestBody (c : Config) (n : Nat) (r : ModelRequest) :
    withoutStream (requestBody c (r.plainAfter n) true) = withoutStream (requestBody c r false) := by
  have front (r : ModelRequest) (stream : Bool) := withoutStream_record [
    ("model", some (.str c.model)),
    ("messages", some (.arr ((wireMessages r.messages).map WireMessage.toJson))),
    ("tools", if r.tools.isEmpty then none else some (.arr (r.tools.map definitionToJson))),
    ("tool_choice", if r.tools.isEmpty then none else some (.str r.toolChoice.name)),
    ("temperature", (r.sampling.temperature <|> c.temperature).map Single.toJson),
    ("top_p", c.topP.map Single.toJson),
    ("max_tokens", (r.sampling.maxTokens <|> c.maxTokens).map wordToJson)]
    (if stream then some (.bool true) else none)
    (if stream then some (.obj [("include_usage", .bool true)]) else none)
  refine (front (r.plainAfter n) true).trans (Eq.trans ?_ (front r false).symm)
  simp only [ModelRequest.plainAfter, wireMessages_plainAfter]
  rfl

theorem build_stream (c : Config) (n : Nat) (r : ModelRequest) :
    (c.draft (r.plainAfter n) true).build = (c.draft r false).build.map fun q =>
      { q with body := some (requestBody c (r.plainAfter n) true) } :=
  Http.build_withBody (c.draft r false) (requestBody c (r.plainAfter n) true) rfl

theorem unstreamed_build {c : Config} {n : Nat} {r : ModelRequest} {q : Request}
    (h : (c.draft r false).build = .ok q) :
    unstreamed { q with body := some (requestBody c (r.plainAfter n) true) } = unstreamed q := by
  have body : q.body = some (requestBody c r false) := (Http.method_body_of_build h).2
  simp [unstreamed, body, withoutStream_requestBody]

theorem complete_run (c : Config) (r : ModelRequest) (n : Network) :
    complete c r n =
      (((Http.send (c.draft r false) n).1.bind (·.decode readCompletionBody?)).bind
          CompletionBody.toCompletion, (Http.send (c.draft r false) n).2) := by
  rw [complete, Work.bind_run, Http.sendFor_run]
  cases (Http.send (c.draft r false) n).1.bind (·.decode readCompletionBody?) <;> rfl

theorem stream_run (c : Config) (r : ModelRequest) (n : Network) :
    stream c r n =
      ((Http.send (c.draft r true) n).1.map fun response =>
          chunkStream response.feed.fault false response.feed.events,
        (Http.send (c.draft r true) n).2) := by
  rw [stream, Work.bind_run, Http.sendForEvents_run]
  cases (Http.send (c.draft r true) n).1 <;> rfl

theorem AnswersWhole.outcome_decode {r : Response} {m : AssistantMessage} {usage : Option Usage}
    (h : AnswersWhole r m usage) (q : Request) :
    (Http.outcome q (some r)).bind (·.decode readCompletionBody?) =
      .ok ⟨[some m], usage⟩ := by
  simp [Http.outcome, h.success, Except.bind, Response.decode, h.body]

theorem AnswersInChunks.outcome_chunkStream {r : Response} {bodies : List ChunkBody}
    (h : AnswersInChunks r bodies) (q : Request) :
    (Http.outcome q (some r)).map
        (fun response => chunkStream response.feed.fault false response.feed.events) =
      .ok ⟨bodies.flatMap ChunkBody.toChunks, none⟩ := by
  obtain ⟨events, done, rest, split, stop, carry⟩ := h.body
  simp [Http.outcome, h.success, Except.map, split, chunkStream_of_carry carry _ _ stop]

theorem Fragments.sameTurn {m : AssistantMessage} {usage : Option Usage}
    {bodies : List ChunkBody} (h : Fragments m usage bodies) :
    SameTurn (CompletionBody.mk [some m] usage).toCompletion
      (.ok ⟨bodies.flatMap ChunkBody.toChunks, none⟩) := by
  cases hc : (CompletionBody.mk [some m] usage).toCompletion with
  | error e => exact h.ofChunks_eq.trans hc
  | ok c => exact h.gives hc

theorem outcome_exhausted (q : Request) :
    Http.outcome q Http.exhausted.response? =
      .error (.status 500 (Http.failureText ⟨500, Text.Utf8.encode
        "\x7b\"error\":\x7b\"message\":\"script exhausted\"\x7d\x7d", true⟩)) := rfl

theorem Paired.exchange {n n' : Network} (h : Paired n n') {q q' : Request}
    (alike : unstreamed q' = unstreamed q) :
    (((n.exchange q).1 = Http.exhausted.response? ∧ (n'.exchange q').1 = Http.exhausted.response?) ∨
      ∃ r r' m usage bodies, (n.exchange q).1 = some r ∧ (n'.exchange q').1 = some r' ∧
        AnswersWhole r m usage ∧ AnswersInChunks r' bodies ∧ Fragments m usage bodies) ∧
      Paired (n.exchange q).2 (n'.exchange q').2 := by
  obtain ⟨⟨replies, replies', link, link', answers⟩, log⟩ := h
  rcases n with ⟨_, before, clock⟩
  rcases n' with ⟨_, before', clock'⟩
  obtain rfl := link
  obtain rfl := link'
  cases answers with
  | nil =>
    refine ⟨.inl ⟨rfl, rfl⟩, ⟨[], [], rfl, rfl, .nil⟩, ?_⟩
    simpa [Http.exchange_nil, alike] using log
  | @cons reply reply' replies replies' first rest =>
    obtain ⟨r, r', m, usage, bodies, answer, answer', whole, chunks, fragments⟩ := first
    refine ⟨.inr ⟨r, r', m, usage, bodies, ?_, ?_, whole, chunks, fragments⟩,
      ⟨replies, replies', rfl, rfl, rest⟩, ?_⟩
    · simp [Http.exchange_cons, answer, Http.Answer.response?]
    · simp [Http.exchange_cons, answer', Http.Answer.response?]
    · simpa [Http.exchange_cons, alike] using log

theorem lockstep (c : Config) (n : Nat) : (model c).Lockstep n Paired where
  same {r s s'} h := by
    change SameTurn (complete c r s).1 (stream c (r.plainAfter n) s').1
    have built' := build_stream c n r
    rw [complete_run, stream_run]
    cases built : (c.draft r false).build with
    | error fault =>
      rw [built] at built'
      rw [Http.send_unbuilt built, Http.send_unbuilt built']
      exact rfl
    | ok q =>
      rw [built] at built'
      rw [Http.send_built built, Http.send_built built']
      obtain ⟨⟨gone, gone'⟩ | ⟨r, r', m, usage, bodies, some_r, some_r', whole, chunks, same⟩, -⟩ :=
        h.exchange (unstreamed_build built)
      · dsimp only
        rw [gone, gone', outcome_exhausted, outcome_exhausted]
        exact rfl
      · dsimp only
        rw [some_r, some_r', whole.outcome_decode, chunks.outcome_chunkStream]
        exact same.sameTurn
  related {r s s'} h := by
    change Paired (complete c r s).2 (stream c (r.plainAfter n) s').2
    have built' := build_stream c n r
    rw [complete_run, stream_run]
    cases built : (c.draft r false).build with
    | error fault =>
      rw [built] at built'
      rw [Http.send_unbuilt built, Http.send_unbuilt built']
      exact h
    | ok q =>
      rw [built] at built'
      rw [Http.send_built built, Http.send_built built']
      exact (h.exchange (unstreamed_build built)).2

end ChatCompletions

open ChatCompletions (SameAnswer unstreamed)

/-- Against a peer that answers whole and one that streams fragments of the same answers, a run that
waits and one that streams give the same response or the same error, execute the same calls and send
the same requests, but for what asks for a stream. -/
theorem ChatAgent.collect_runStreaming_fragments (a : ChatAgent Http.Network)
    (c : ChatCompletions.Config) (asks : a.model = ChatCompletions.model c)
    (messages : List ChatMessage) (o : RunOptions) {replies replies' : List Http.Reply}
    (answers : List.Forall₂ SameAnswer replies replies') :
    let whole := a.run messages o (.start (.connect (.scripted replies)))
    let streamed := a.runStreaming messages o (.start (.connect (.scripted replies')))
    collect streamed = whole.1 ∧
      streamed.world.executed = whole.2.executed ∧
      streamed.world.service.log.map (fun x => unstreamed x.request) =
        whole.2.service.log.map (fun x => unstreamed x.request) := by
  have start : ChatCompletions.Paired (.connect (.scripted replies)) (.connect (.scripted replies')) :=
    ⟨⟨replies, replies', rfl, rfl, answers⟩, rfl⟩
  obtain ⟨result, paired, executed⟩ :=
    a.runStreaming_lockstep messages o (asks ▸ ChatCompletions.lockstep c _) start
  exact ⟨result, executed, paired.log⟩

namespace ChatCompletions

open Http (Reply Response)

def callWhole : String :=
  "\x7b\"choices\":[\x7b\"message\":\x7b\"content\":\"Hi\",\"tool_calls\":[\x7b\"id\":\"c\"," ++
    "\"type\":\"function\",\"function\":\x7b\"name\":\"f\",\"arguments\":\"[]\"\x7d\x7d]\x7d\x7d]," ++
    "\"usage\":\x7b\"prompt_tokens\":3\x7d\x7d"

def callChunks : List String :=
  ["\x7b\"choices\":[\x7b\"delta\":\x7b\"content\":\"H\",\"tool_calls\":[\x7b\"index\":0," ++
      "\"function\":\x7b\"arguments\":\"[\"\x7d\x7d]\x7d\x7d]\x7d",
    "\x7b\"choices\":[\x7b\"delta\":\x7b\"content\":\"i\",\"tool_calls\":[\x7b\"index\":0,\"id\":\"c\"," ++
      "\"function\":\x7b\"name\":\"f\",\"arguments\":\"]\"\x7d\x7d]\x7d\x7d]\x7d",
    "\x7b\"usage\":\x7b\"prompt_tokens\":3\x7d\x7d"]

def callMessage : AssistantMessage := ⟨some "Hi", [⟨"c", "f", "[]"⟩], []⟩

def callBodies : List ChunkBody :=
  [⟨[⟨some ⟨some "H", [⟨0, none, none, "["⟩], []⟩, none⟩], none⟩,
   ⟨[⟨some ⟨some "i", [⟨0, some "c", some "f", "]"⟩], []⟩, none⟩], none⟩,
   ⟨[], some ⟨3, 0⟩⟩]

theorem fragments_callBodies : Fragments callMessage (some ⟨3, 0⟩) callBodies where
  content := rfl
  calls i c h := by
    cases i with
    | zero =>
      obtain rfl := Option.some.inj h
      exact ⟨rfl, rfl, rfl⟩
    | succ i => simp [callMessage] at h
  indices := by decide
  citations := rfl
  usage := rfl

set_option maxRecDepth 4096 in
theorem answersWhole_callWhole :
    AnswersWhole ⟨200, Text.Utf8.encode callWhole, true⟩ callMessage (some ⟨3, 0⟩) := by
  refine ⟨rfl, ?_⟩
  rw [Response.read?, if_pos rfl, Text.Utf8.decode?_encode]
  decide +kernel

set_option maxRecDepth 4096 in
theorem answersInChunks_callChunks :
    AnswersInChunks ⟨200, Http.writeEvents (chunkEvents callChunks), true⟩ callBodies := by
  refine .of_write rfl (by decide +kernel) (.cons ⟨rfl, ?_⟩ (.cons ⟨rfl, ?_⟩ (.cons ⟨rfl, ?_⟩ .nil)))
  · decide +kernel
  · decide +kernel
  · decide +kernel

def callReplies : List Reply := [⟨.response ⟨200, Text.Utf8.encode callWhole, true⟩, 0⟩]

def callChunkReplies : List Reply :=
  [⟨.response ⟨200, Http.writeEvents (chunkEvents callChunks), true⟩, 5⟩]

theorem sameAnswer_callReplies : List.Forall₂ SameAnswer callReplies callChunkReplies :=
  .cons ⟨_, _, callMessage, some ⟨3, 0⟩, callBodies, rfl, rfl, answersWhole_callWhole,
    answersInChunks_callChunks, fragments_callBodies⟩ .nil

end ChatCompletions

theorem ChatAgent.collect_runStreaming_callReplies :
    List.Forall₂ SameAnswer ChatCompletions.callReplies ChatCompletions.callChunkReplies ∧
      let a : ChatAgent Http.Network :=
        ⟨ChatCompletions.model (.openAi "key" "model"), "agent", none, .empty, 3⟩
      let whole := a.run [] .default (.start (.connect (.scripted ChatCompletions.callReplies)))
      let streamed :=
        a.runStreaming [] .default (.start (.connect (.scripted ChatCompletions.callChunkReplies)))
      collect streamed = whole.1 ∧
        streamed.world.executed = whole.2.executed ∧
        streamed.world.service.log.map (fun x => unstreamed x.request) =
          whole.2.service.log.map (fun x => unstreamed x.request) :=
  ⟨ChatCompletions.sameAnswer_callReplies,
    ChatAgent.collect_runStreaming_fragments
      ⟨ChatCompletions.model (.openAi "key" "model"), "agent", none, .empty, 3⟩
      (.openAi "key" "model") rfl [] .default ChatCompletions.sameAnswer_callReplies⟩

end ChatAgents
