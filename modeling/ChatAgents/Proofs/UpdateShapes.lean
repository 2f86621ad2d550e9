import ChatAgents.Agent.Persistent.Basic
import ChatAgents.Proofs.ToolLoop
import Mathlib.Data.List.Chain
set_option autoImplicit false

namespace ChatAgents

/-- Updates in their shape, and the tool calls among them with their results. -/
inductive Shaped : List Update → List ToolExchange → Prop
  | nil : Shaped [] []
  | text {us : List Update} {xs : List ToolExchange} (s : String) (more : Shaped us xs) :
    Shaped (.text s :: us) xs
  | citation {us : List Update} {xs : List ToolExchange} (c : Citation) (more : Shaped us xs) :
    Shaped (.citation c :: us) xs
  | usage {us : List Update} {xs : List ToolExchange} (u : Usage) (more : Shaped us xs) :
    Shaped (.usage u :: us) xs
  | pair {us : List Update} {xs : List ToolExchange} (x : ToolExchange) (more : Shaped us xs) :
    Shaped (.toolCall x.call.name x.call.arguments x.call.id ::
      .toolResult x.call.name x.outcome.text x.call.id x.outcome.isError :: us) (x :: xs)

/-- A stream in its shape: updates, and behind them at most one error. -/
inductive ShapedStream : List (Except AgentError Update) → List ToolExchange → Prop
  | whole {us : List Update} {xs : List ToolExchange} (shaped : Shaped us xs) :
    ShapedStream (us.map .ok) xs
  | failed {us : List Update} {xs : List ToolExchange} (shaped : Shaped us xs) (e : AgentError) :
    ShapedStream (us.map .ok ++ [.error e]) xs

def Progress.stream {ι σ ε α : Type} (p : Progress ι σ ε α) : List (Except ε ι) :=
  match p.result with
  | .ok _ => p.items.map .ok
  | .error e => p.items.map .ok ++ [.error e]

theorem Progress.stream_congr {ι σ τ ε α : Type} {p : Progress ι σ ε α} {q : Progress ι τ ε α}
    (items : q.items = p.items) (result : q.result = p.result) : q.stream = p.stream := by
  rw [stream, stream, items, result]

theorem Progress.shapedStream {σ α : Type} {p : Progress Update σ AgentError α}
    {xs : List ToolExchange} (h : Shaped p.items xs) : ShapedStream p.stream xs := by
  rw [stream]
  cases p.result with
  | ok v => exact .whole h
  | error e => exact .failed h e

namespace Shaped

theorem append {us vs : List Update} {xs ys : List ToolExchange} (h : Shaped us xs)
    (h' : Shaped vs ys) : Shaped (us ++ vs) (xs ++ ys) := by
  induction h with
  | nil => exact h'
  | text s _ ih => exact .text s ih
  | citation c _ ih => exact .citation c ih
  | usage u _ ih => exact .usage u ih
  | pair x _ ih => exact .pair x ih

theorem exchanges (xs : List ToolExchange) : Shaped (xs.flatMap ToolExchange.updates) xs := by
  induction xs with
  | nil => exact .nil
  | cons x rest ih => exact .pair x ih

theorem chunks (cs : List Chunk) : Shaped (cs.filterMap ChatAgent.updateOf?) [] := by
  induction cs with
  | nil => exact .nil
  | cons c rest ih =>
    cases c with
    | text s => exact .text s ih
    | citation c => exact .citation c ih
    | usage u => exact .usage u ih
    | call index id name arguments => exact ih

end Shaped

structure Consultation where
  request : ModelRequest
  answer : Except RemoteError ChunkStream

def Consultation.received (e : Consultation) : Received := e.answer.bind ChunkStream.toCompletion

def ToolExchange.toMessage (x : ToolExchange) : ModelMessage :=
  .toolResult x.call.id x.call.name x.outcome.text x.outcome.isError

/-- The model, which writes down what it is asked and what it answers. -/
def ChatModel.recording {σ : Type} (m : ChatModel σ) : ChatModel (σ × List Consultation) where
  complete r s :=
    let (answer, s') := m.complete r s.1
    (answer, s', s.2 ++ [⟨r, answer.map .ofCompletion⟩])
  stream r s :=
    let (answer, s') := m.stream r s.1
    (answer, s', s.2 ++ [⟨r, answer⟩])

namespace ChatAgent

variable {σ : Type} (a : ChatAgent σ)

def recording : ChatAgent (σ × List Consultation) :=
  ⟨a.model.recording, a.name, a.instructions, a.registry, a.maxIterations⟩

def exchangesOf (e : Consultation) : List ToolExchange :=
  e.received.calls.map fun c => ⟨c, a.registry.execute c⟩

/-- The next request of a run carries on with the turn received and the results of its calls. -/
def CarriesOn (e e' : Consultation) : Prop :=
  ∃ c, e.received = .ok c ∧ e'.request.messages =
    e.request.messages ++ c.toMessage :: (a.exchangesOf e).map ToolExchange.toMessage

def consultation (o : RunOptions) (history : List ModelMessage) (w : ChatWorld σ) : Consultation :=
  ⟨a.request o history, (a.model.stream (a.request o history) w.service).1⟩

def piecesOf : Except RemoteError ChunkStream → List Update
  | .ok s => s.chunks.filterMap updateOf?
  | .error _ => []

theorem shaped_piecesOf (x : Except RemoteError ChunkStream) : Shaped (piecesOf x) [] := by
  cases x with
  | ok s => exact .chunks s.chunks
  | error e => exact .nil

theorem streamTurn_run (o : RunOptions) (history : List ModelMessage) (w : ChatWorld σ) :
    let e := a.consultation o history w
    (a.streamTurn o history w).items = piecesOf e.answer ∧
      (a.streamTurn o history w).result = e.received.mapError .remote ∧
      (a.streamTurn o history w).world =
        served w (a.model.stream (a.request o history) w.service).2 := by
  dsimp only [consultation]
  refine ⟨?_, ?_, a.streamTurn_world o history w⟩
  · cases asked : (a.model.stream (a.request o history) w.service).1 with
    | error e =>
      rw [streamTurn, Producer.bind_run]
      simp [Producer.lift, call_run, asked, Progress.items, piecesOf]
    | ok s => exact (a.streamTurn_ok asked).1
  · cases asked : (a.model.stream (a.request o history) w.service).1 with
    | error e => exact a.streamTurn_error asked
    | ok s => exact (a.streamTurn_ok asked).2

theorem items_streamTurns_error {o : RunOptions} {n : Nat} {history : List ModelMessage}
    {w : ChatWorld σ} {e : AgentError} (h : (a.streamTurn o history w).result = .error e) :
    (a.streamTurns o (n + 1) history w).items = (a.streamTurn o history w).items := by
  rw [streamTurns, Producer.bind_run, h]
  rfl

theorem flatMap_callUpdates (calls : List ToolCall) :
    calls.flatMap a.callUpdates =
      (calls.map fun c => (⟨c, a.registry.execute c⟩ : ToolExchange)).flatMap
        ToolExchange.updates := by
  rw [List.flatMap_map]
  rfl

variable {a} {o : RunOptions} {w : ChatWorld σ} {w' : ChatWorld (σ × List Consultation)}

theorem service_afterCalls (w : ChatWorld σ) (calls : List ToolCall) :
    (afterCalls w calls).service = w.service := rfl

theorem callUpdates_recording : a.recording.callUpdates = a.callUpdates := rfl

theorem resultsOf_recording (calls : List ToolCall) :
    a.recording.resultsOf calls = a.resultsOf calls := rfl

theorem streamTurn_recording (o : RunOptions) (history : List ModelMessage)
    (same : w'.service.1 = w.service) :
    let turn := a.streamTurn o history w
    let turn' := a.recording.streamTurn o history w'
    turn'.items = turn.items ∧ turn'.result = turn.result ∧
      turn'.world.service =
        (turn.world.service, w'.service.2 ++ [a.consultation o history w]) := by
  have recorded : a.recording.model.stream (a.recording.request o history) w'.service =
      ((a.model.stream (a.request o history) w.service).1,
        (a.model.stream (a.request o history) w.service).2,
        w'.service.2 ++ [a.consultation o history w]) := by
    rw [consultation, ← same]
    rfl
  obtain ⟨items, result, world⟩ := a.streamTurn_run o history w
  obtain ⟨items', result', world'⟩ := a.recording.streamTurn_run o history w'
  rw [recorded] at world'
  have answered : (a.recording.consultation o history w').answer =
      (a.consultation o history w).answer := congrArg Prod.fst recorded
  refine ⟨?_, ?_, ?_⟩
  · rw [items', items, answered]
  · rw [result', result, Consultation.received, Consultation.received, answered]
  · rw [world', world]
    rfl

/-- A run does the same while it is recorded. The record begins with this history and goes on as it
has to, and its calls are those handed over. -/
def Recorded (a : ChatAgent σ) (history : List ModelMessage) (before : List Consultation)
    (p : Progress Update (ChatWorld σ) AgentError Unit)
    (q : Progress Update (ChatWorld (σ × List Consultation)) AgentError Unit) : Prop :=
  q.items = p.items ∧ q.result = p.result ∧
    ∃ log, q.world.service = (p.world.service, before ++ log) ∧
      (∀ e ∈ log.head?, e.request.messages = history) ∧ log.IsChain a.CarriesOn ∧
      Shaped p.items (log.flatMap a.exchangesOf)

theorem recorded_turn {history : List ModelMessage}
    {p : Progress Update (ChatWorld σ) AgentError Unit}
    {q : Progress Update (ChatWorld (σ × List Consultation)) AgentError Unit}
    (same : w'.service.1 = w.service)
    (none_called : a.exchangesOf (a.consultation o history w) = [])
    (items : p.items = (a.streamTurn o history w).items)
    (items' : q.items = (a.recording.streamTurn o history w').items)
    (result : q.result = p.result) (world : p.world = (a.streamTurn o history w).world)
    (world' : q.world = (a.recording.streamTurn o history w').world) :
    a.Recorded history w'.service.2 p q := by
  obtain ⟨turn_items, -, service⟩ := streamTurn_recording o history same
  refine ⟨?_, result, [a.consultation o history w], ?_, ?_, .singleton _, ?_⟩
  · rw [items, items', turn_items]
  · rw [world, world', service]
  · rintro _ ⟨⟩
    rfl
  · rw [items, List.flatMap_singleton, none_called, (a.streamTurn_run o history w).1]
    exact shaped_piecesOf _

theorem streamTurns_recorded (n : Nat) (history : List ModelMessage)
    (same : w'.service.1 = w.service) :
    a.Recorded history w'.service.2 (a.streamTurns o n history w)
      (a.recording.streamTurns o n history w') := by
  -- turn by turn; the exchange of each turn stands before those of the turns behind it
  induction n generalizing history w w' with
  | zero =>
    refine ⟨rfl, rfl, [], ?_, nofun, .nil, .nil⟩
    rw [List.append_nil]
    exact Prod.ext same rfl
  | succ n ih =>
    obtain ⟨pieces, result, -⟩ := a.streamTurn_run o history w
    obtain ⟨items', result', service'⟩ := streamTurn_recording o history same
    have exchanges : a.exchangesOf (a.consultation o history w) =
        (a.consultation o history w).received.calls.map fun c => ⟨c, a.registry.execute c⟩ := rfl
    cases received : (a.consultation o history w).received with
    | error err =>
      rw [received] at result exchanges
      obtain ⟨ended, last⟩ := a.streamTurns_error (n := n) result
      obtain ⟨ended', last'⟩ := a.recording.streamTurns_error (n := n) (result'.trans result)
      exact recorded_turn same exchanges (a.items_streamTurns_error result)
        (a.recording.items_streamTurns_error (result'.trans result)) (ended'.trans ended.symm)
        last last'
    | ok c =>
      rw [received] at result exchanges
      cases last : c.calls.isEmpty with
      | true =>
        obtain ⟨handed, ended, world⟩ := a.streamTurns_last (n := n) result last
        obtain ⟨handed', ended', world'⟩ :=
          a.recording.streamTurns_last (n := n) (result'.trans result) last
        refine recorded_turn same (exchanges.trans ?_) handed handed' (ended'.trans ended.symm)
          world world'
        rw [Received.calls, List.isEmpty_iff.1 last, List.map_nil]
      | false =>
        obtain ⟨handed, ended, world⟩ := a.streamTurns_next (n := n) result last
        obtain ⟨handed', ended', world'⟩ :=
          a.recording.streamTurns_next (n := n) (result'.trans result) last
        have still_same :
            (afterCalls (a.recording.streamTurn o history w').world c.calls).service.1 =
              (afterCalls (a.streamTurn o history w).world c.calls).service :=
          congrArg Prod.fst service'
        obtain ⟨later_items, later_result, log, later_service, begins, chain, shaped⟩ :=
          ih (history ++ c.toMessage :: a.resultsOf c.calls) still_same
        refine ⟨?_, (ended'.trans later_result).trans ended.symm,
          a.consultation o history w :: log, ?_, ?_, ?_, ?_⟩
        · rw [handed, handed', items', callUpdates_recording, resultsOf_recording, later_items]
        · rw [world, world']
          refine later_service.trans ?_
          rw [service_afterCalls, service', List.append_assoc]
          rfl
        · rintro _ ⟨⟩
          rfl
        · refine chain.cons fun e first => ⟨c, received, ?_⟩
          rw [begins e first, exchanges, List.map_map]
          rfl
        · rw [handed, List.flatMap_cons, exchanges, flatMap_callUpdates, pieces]
          exact (shaped_piecesOf _).append ((Shaped.exchanges _).append shaped)

theorem runStreaming_recorded (a : ChatAgent σ) (messages : List ChatMessage) (o : RunOptions)
    (s : σ) :
    a.Recorded (a.initialHistory messages o) [] (a.runStreaming messages o (.start s))
      (a.recording.runStreaming messages o (.start (s, []))) := by
  have same : (ChatWorld.start (s, ([] : List Consultation))).service.1 =
      (ChatWorld.start s).service := rfl
  exact streamTurns_recorded a.maxIterations (a.initialHistory messages o) same

theorem call_exchangesOf (log : List Consultation) :
    (log.flatMap a.exchangesOf).map ToolExchange.call = log.flatMap fun e => e.received.calls := by
  rw [List.map_flatMap]
  refine congrArg (log.flatMap ·) (funext fun e => ?_)
  rw [exchangesOf, List.map_map]
  exact List.map_id _

end ChatAgent

end ChatAgents
