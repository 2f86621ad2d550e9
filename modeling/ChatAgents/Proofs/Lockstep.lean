import ChatAgents.Agent.Chat
import ChatAgents.Proofs.Accumulation
set_option autoImplicit false

/-!
# Runs in lockstep

A run that waits and a run that streams go on alike as long as each turn of one has the answer of the
turn of the other. Their histories may differ in turns whose content is empty, which streaming cannot
tell from none.
-/

namespace ChatAgents

def Completion.plain (c : Completion) : Completion := { c with text := c.text.filter (· ≠ "") }

def ModelMessage.plain : ModelMessage → ModelMessage
  | .assistant content calls => .assistant (content.filter (· ≠ "")) calls
  | m => m

theorem Completion.toMessage_plain (c : Completion) : c.plain.toMessage = c.toMessage.plain := rfl

/-- The first `n` messages as they are, and the turns after them with an empty content as none. -/
def plainAfter (n : Nat) (messages : List ModelMessage) : List ModelMessage :=
  messages.take n ++ (messages.drop n).map ModelMessage.plain

def ModelRequest.plainAfter (n : Nat) (r : ModelRequest) : ModelRequest :=
  { r with messages := ChatAgents.plainAfter n r.messages }

theorem plainAfter_length (messages : List ModelMessage) :
    plainAfter messages.length messages = messages := by
  simp [plainAfter]

theorem plainAfter_append {n : Nat} {messages : List ModelMessage} (h : n ≤ messages.length)
    (more : List ModelMessage) :
    plainAfter n (messages ++ more) = plainAfter n messages ++ more.map ModelMessage.plain := by
  simp [plainAfter, List.take_append_of_le_length h, List.drop_append_of_le_length h]

theorem AgentResponse.applyAll_updates (r : AgentResponse) (chunks : List Chunk) :
    r.applyAll (chunks.filterMap ChatAgent.updateOf?) =
      ⟨r.text ++ String.join (chunks.filterMap Chunk.text?),
        r.citations ++ chunks.filterMap Chunk.citation?,
        (chunks.filterMap Chunk.usage?).foldl Usage.addTo r.usage⟩ := by
  have texts : (fun c => (ChatAgent.updateOf? c).bind Update.text?) = Chunk.text? := by
    funext c
    cases c <;> rfl
  have citations : (fun c => (ChatAgent.updateOf? c).bind Update.citation?) = Chunk.citation? := by
    funext c
    cases c <;> rfl
  have usage : (fun c => (ChatAgent.updateOf? c).bind Update.usage?) = Chunk.usage? := by
    funext c
    cases c <;> rfl
  rw [applyAll_eq, List.filterMap_filterMap, List.filterMap_filterMap, List.filterMap_filterMap,
    texts, citations, usage]

/-- The pieces make the answer, and tell the consumer what is in it. -/
structure ChunkStream.Gives (s : ChunkStream) (c : Completion) : Prop where
  toCompletion : s.toCompletion = .ok c.plain
  updates : ∀ r : AgentResponse,
    r.applyAll (s.chunks.filterMap ChatAgent.updateOf?) = r.addCompletion c

/-- A turn answered whole and one answered in pieces have the same answer or the same failure. -/
def SameTurn : Except RemoteError Completion → Except RemoteError ChunkStream → Prop
  | .error e, .error e' => e' = e
  | .error e, .ok s => s.toCompletion = .error e
  | .ok c, .ok s => s.Gives c
  | .ok _, .error _ => False

/-- Asked alike in related states, the service answers alike and its states stay related. The
request in pieces may have its turns behind the first `n` messages plain. -/
structure ChatModel.Lockstep {σ : Type} (m : ChatModel σ) (n : Nat) (rel : σ → σ → Prop) :
    Prop where
  same : ∀ {r : ModelRequest} {s s' : σ}, rel s s' →
    SameTurn (m.complete r s).1 (m.stream (r.plainAfter n) s').1
  related : ∀ {r : ModelRequest} {s s' : σ}, rel s s' →
    rel (m.complete r s).2 (m.stream (r.plainAfter n) s').2

namespace ChatAgent

variable {σ : Type} (a : ChatAgent σ)

def resultsOf (calls : List ToolCall) : List ModelMessage :=
  calls.map fun c => (a.registry.execute c).toMessage c

theorem plain_resultsOf (calls : List ToolCall) :
    (a.resultsOf calls).map ModelMessage.plain = a.resultsOf calls := by
  simp [resultsOf, Function.comp_def, ToolOutcome.toMessage, ModelMessage.plain]

def afterCalls (w : ChatWorld σ) (calls : List ToolCall) : ChatWorld σ :=
  { w with executed := w.executed ++ calls }

theorem answerCall_run (c : ToolCall) (w : ChatWorld σ) :
    a.answerCall c w = (.ok ((a.registry.execute c).toMessage c), afterCalls w [c]) := rfl

theorem mapM_answerCall (calls : List ToolCall) (w : ChatWorld σ) :
    calls.mapM a.answerCall w = (.ok (a.resultsOf calls), afterCalls w calls) := by
  induction calls generalizing w with
  | nil => simp [resultsOf, afterCalls, Work.pure_run]
  | cons c rest ih =>
    rw [List.mapM_cons, Work.bind_run, answerCall_run]
    dsimp only
    rw [Work.bind_run, ih]
    simp [Work.pure_run, resultsOf, afterCalls]

def callUpdates (c : ToolCall) : List Update :=
  [.toolCall c.name c.arguments c.id,
   .toolResult c.name (a.registry.execute c).text c.id (a.registry.execute c).isError]

theorem applyAll_callUpdates (r : AgentResponse) (calls : List ToolCall) :
    r.applyAll (calls.flatMap a.callUpdates) = r := by
  induction calls with
  | nil => rfl
  | cons c rest ih => simpa [callUpdates, AgentResponse.apply] using ih

theorem streamCall_run (c : ToolCall) (w : ChatWorld σ) :
    (a.streamCall c w).items = a.callUpdates c ∧
      (a.streamCall c w).result = .ok ((a.registry.execute c).toMessage c) ∧
      (a.streamCall c w).world = afterCalls w [c] := ⟨rfl, rfl, rfl⟩

theorem mapM_streamCall (calls : List ToolCall) (w : ChatWorld σ) :
    (calls.mapM a.streamCall w).items = calls.flatMap a.callUpdates ∧
      (calls.mapM a.streamCall w).result = .ok (a.resultsOf calls) ∧
      (calls.mapM a.streamCall w).world = afterCalls w calls := by
  induction calls generalizing w with
  | nil => exact ⟨rfl, rfl, by simp [afterCalls, pure, Producer.pure]⟩
  | cons c rest ih =>
    obtain ⟨items, result, world⟩ := a.streamCall_run c w
    obtain ⟨items', result', world'⟩ := ih (afterCalls w [c])
    rw [List.mapM_cons, Producer.bind_run, result]
    dsimp only
    rw [world, Producer.bind_run, result']
    dsimp only
    simp only [Progress.items_prepend, Progress.result_prepend, Progress.world_prepend, world']
    refine ⟨?_, rfl, ?_⟩
    · change (a.streamCall c w).items ++ ((rest.mapM a.streamCall (afterCalls w [c])).items ++ []) = _
      rw [items, items', List.append_nil, List.flatMap_cons]
    · simp [pure, Producer.pure, afterCalls]

def served (w : ChatWorld σ) (service : σ) : ChatWorld σ := { w with service }

theorem call_run {α : Type} (x : Work σ RemoteError α) (w : ChatWorld σ) :
    ChatWorld.call x w = ((x w.service).1.mapError .remote, served w (x w.service).2) := rfl

theorem streamTurn_world (o : RunOptions) (history : List ModelMessage) (w : ChatWorld σ) :
    (a.streamTurn o history w).world =
      served w (a.model.stream (a.request o history) w.service).2 := by
  rw [streamTurn, Producer.bind_run]
  simp only [Producer.lift, call_run]
  cases (a.model.stream (a.request o history) w.service).1 with
  | error e => rfl
  | ok s => simp [Producer.bind_run, Producer.yieldAll_run, Producer.ofExcept]

theorem streamTurn_error {o : RunOptions} {history : List ModelMessage} {w : ChatWorld σ}
    {e : RemoteError} (h : (a.model.stream (a.request o history) w.service).1 = .error e) :
    (a.streamTurn o history w).result = .error (.remote e) := by
  rw [streamTurn, Producer.bind_run]
  simp [Producer.lift, call_run, h]

theorem streamTurn_ok {o : RunOptions} {history : List ModelMessage} {w : ChatWorld σ}
    {s : ChunkStream} (h : (a.model.stream (a.request o history) w.service).1 = .ok s) :
    (a.streamTurn o history w).items = s.chunks.filterMap updateOf? ∧
      (a.streamTurn o history w).result = s.toCompletion.mapError .remote := by
  rw [streamTurn, Producer.bind_run]
  simp [Producer.lift, call_run, h, Producer.bind_run, Producer.yieldAll_run,
    Producer.ofExcept, Progress.items, Progress.prepend, Function.comp_def]

theorem runTurns_error {o : RunOptions} {n : Nat} {history : List ModelMessage}
    {r : AgentResponse} {w : ChatWorld σ} {e : RemoteError}
    (h : (a.model.complete (a.request o history) w.service).1 = .error e) :
    a.runTurns o (n + 1) history r w =
      (.error (.remote e), served w (a.model.complete (a.request o history) w.service).2) := by
  rw [runTurns, Work.bind_run, call_run, h]
  rfl

theorem runTurns_ok {o : RunOptions} {n : Nat} {history : List ModelMessage}
    {r : AgentResponse} {w : ChatWorld σ} {c : Completion}
    (h : (a.model.complete (a.request o history) w.service).1 = .ok c) :
    a.runTurns o (n + 1) history r w =
      let w' := served w (a.model.complete (a.request o history) w.service).2
      if c.calls.isEmpty then (.ok (r.addCompletion c), w')
      else
        a.runTurns o n (history ++ c.toMessage :: a.resultsOf c.calls) (r.addCompletion c)
          (afterCalls w' c.calls) := by
  rw [runTurns, Work.bind_run, call_run, h]
  simp only [mapError_ok]
  split
  · rfl
  · rw [Work.bind_run, mapM_answerCall]

theorem streamTurns_error {o : RunOptions} {n : Nat} {history : List ModelMessage}
    {w : ChatWorld σ} {e : AgentError} (h : (a.streamTurn o history w).result = .error e) :
    (a.streamTurns o (n + 1) history w).result = .error e ∧
      (a.streamTurns o (n + 1) history w).world = (a.streamTurn o history w).world := by
  rw [streamTurns, Producer.bind_run, h]
  exact ⟨rfl, rfl⟩

theorem streamTurns_last {o : RunOptions} {n : Nat} {history : List ModelMessage}
    {w : ChatWorld σ} {c : Completion} (h : (a.streamTurn o history w).result = .ok c)
    (last : c.calls.isEmpty = true) :
    (a.streamTurns o (n + 1) history w).items = (a.streamTurn o history w).items ∧
      (a.streamTurns o (n + 1) history w).result = .ok () ∧
      (a.streamTurns o (n + 1) history w).world = (a.streamTurn o history w).world := by
  rw [streamTurns, Producer.bind_run, h]
  dsimp only
  rw [if_pos last]
  exact ⟨by simp [Progress.items, pure, Producer.pure, Progress.prepend], rfl, rfl⟩

theorem streamTurns_next {o : RunOptions} {n : Nat} {history : List ModelMessage}
    {w : ChatWorld σ} {c : Completion} (h : (a.streamTurn o history w).result = .ok c)
    (more : c.calls.isEmpty = false) :
    let rest := a.streamTurns o n (history ++ c.toMessage :: a.resultsOf c.calls)
      (afterCalls (a.streamTurn o history w).world c.calls)
    (a.streamTurns o (n + 1) history w).items =
        (a.streamTurn o history w).items ++ (c.calls.flatMap a.callUpdates ++ rest.items) ∧
      (a.streamTurns o (n + 1) history w).result = rest.result ∧
      (a.streamTurns o (n + 1) history w).world = rest.world := by
  obtain ⟨items, result, world⟩ := a.mapM_streamCall c.calls (a.streamTurn o history w).world
  rw [streamTurns, Producer.bind_run, h]
  dsimp only
  rw [more, if_neg Bool.false_ne_true, Producer.bind_run, result]
  dsimp only
  rw [world]
  refine ⟨?_, rfl, rfl⟩
  rw [Progress.items_prepend, Progress.items_prepend]
  change (a.streamTurn o history w).items ++ ((c.calls.mapM a.streamCall _).items ++ _) = _
  rw [items]

/-- Turn by turn, both runs stay in related worlds, and the consumer's updates add up to the
response of the run that waits. -/
theorem streamTurns_lockstep {k : Nat} {rel : σ → σ → Prop} (lock : a.model.Lockstep k rel)
    (o : RunOptions) (n : Nat) (history : List ModelMessage) (long : k ≤ history.length)
    (r : AgentResponse) (w w' : ChatWorld σ) (service : rel w.service w'.service)
    (executed : w'.executed = w.executed) :
    let whole := a.runTurns o n history r w
    let streamed := a.streamTurns o n (plainAfter k history) w'
    streamed.result.map (fun _ => r.applyAll streamed.items) = whole.1 ∧
      rel whole.2.service streamed.world.service ∧ streamed.world.executed = whole.2.executed := by
  -- both histories grow at every turn, and stay equal but for the turns that `plainAfter` changes
  induction n generalizing history r w w' with
  | zero => exact ⟨rfl, service, executed⟩
  | succ n ih =>
    have same : SameTurn (a.model.complete (a.request o history) w.service).1
        (a.model.stream (a.request o (plainAfter k history)) w'.service).1 := lock.same service
    have related : rel (a.model.complete (a.request o history) w.service).2
        (a.model.stream (a.request o (plainAfter k history)) w'.service).2 := lock.related service
    have world := a.streamTurn_world o (plainAfter k history) w'
    cases asked : (a.model.complete (a.request o history) w.service).1 with
    | error e =>
      have failed : (a.streamTurn o (plainAfter k history) w').result = .error (.remote e) := by
        rw [asked] at same
        cases streamed : (a.model.stream (a.request o (plainAfter k history)) w'.service).1 with
        | error e' =>
          rw [streamed] at same
          obtain rfl : e' = e := same
          exact a.streamTurn_error streamed
        | ok s =>
          rw [streamed] at same
          rw [(a.streamTurn_ok streamed).2, show s.toCompletion = .error e from same]
          rfl
      obtain ⟨result, last⟩ := a.streamTurns_error (n := n) failed
      simp only [a.runTurns_error asked, result, last, world]
      exact ⟨rfl, related, executed⟩
    | ok c =>
      rw [asked] at same
      cases streamed : (a.model.stream (a.request o (plainAfter k history)) w'.service).1 with
      | error e =>
        rw [streamed] at same
        exact same.elim
      | ok s =>
        rw [streamed] at same
        have gives : s.Gives c := same
        obtain ⟨items, result⟩ := a.streamTurn_ok streamed
        rw [gives.toCompletion] at result
        rw [a.runTurns_ok asked]
        cases last : c.calls.isEmpty with
        | true =>
          obtain ⟨items', result', world'⟩ := a.streamTurns_last (n := n) result last
          simp only [items', result', world', items, world, Except.map, gives.updates, if_true]
          exact ⟨trivial, related, executed⟩
        | false =>
          obtain ⟨items', result', world'⟩ := a.streamTurns_next (n := n) result last
          have next : plainAfter k history ++ c.plain.toMessage :: a.resultsOf c.plain.calls =
              plainAfter k (history ++ c.toMessage :: a.resultsOf c.calls) := by
            rw [plainAfter_append long, List.map_cons, plain_resultsOf, c.toMessage_plain]
            rfl
          rw [next, world] at items' result' world'
          simp only [items', result', world', items, AgentResponse.applyAll_append,
            gives.updates, applyAll_callUpdates, Bool.false_eq_true, if_false]
          refine ih _ ?_ _ _ _ related ?_
          · simp only [List.length_append]
            omega
          · exact congrArg (· ++ c.calls) executed

theorem runStreaming_lockstep (messages : List ChatMessage) (o : RunOptions)
    {rel : σ → σ → Prop} (lock : a.model.Lockstep (a.initialHistory messages o).length rel)
    {s s' : σ} (related : rel s s') :
    let whole := a.run messages o (.start s)
    let streamed := a.runStreaming messages o (.start s')
    collect streamed = whole.1 ∧ rel whole.2.service streamed.world.service ∧
      streamed.world.executed = whole.2.executed := by
  have h := a.streamTurns_lockstep lock o a.maxIterations (a.initialHistory messages o)
    (Nat.le_refl _) .empty (.start s) (.start s') related rfl
  rw [plainAfter_length] at h
  obtain ⟨result, service, executed⟩ := h
  refine ⟨?_, service, executed⟩
  rw [run, ← result]
  unfold collect runStreaming
  cases (a.streamTurns o a.maxIterations (a.initialHistory messages o) (.start s')).result <;> rfl

end ChatAgent
end ChatAgents
