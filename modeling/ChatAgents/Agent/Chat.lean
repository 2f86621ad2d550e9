import ChatAgents.Agent.Producer
import ChatAgents.Agent.Basic
import ChatAgents.Model.Basic
import ChatAgents.Tool.Basic
set_option autoImplicit false

namespace ChatAgents

structure ChatAgentSpec (σ : Type) where
  model : Option (ChatModel σ)
  name : String
  instructions : Option String
  tools : List AgentTool
  maxIterations : Nat

def ChatAgentSpec.empty (σ : Type) : ChatAgentSpec σ where
  model := none
  name := "agent"
  instructions := none
  tools := []
  maxIterations := 24

structure ChatAgent (σ : Type) where
  model : ChatModel σ
  name : String
  instructions : Option String
  registry : Registry
  maxIterations : Nat

def ChatAgentSpec.build {σ : Type} (s : ChatAgentSpec σ) : Except AgentError (ChatAgent σ) :=
  match s.model with
  | none =>
    .error (.misconfigured "agent model must be configured via ChatAgentBuilder::model(...)")
  | some model =>
    match Registry.ofTools s.tools with
    | .error e => .error e
    | .ok registry =>
      match registry.hosted with
      | hosted :: _ =>
        .error (.misconfigured ("hosted tool '" ++ hosted.kind ++
          "' needs an agent-hosting backend; use PersistentAgent"))
      | [] =>
        .ok {
          model
          name := s.name
          instructions := s.instructions
          registry
          maxIterations := s.maxIterations }

structure ChatWorld (σ : Type) where
  service : σ
  executed : List ToolCall

namespace ChatWorld

variable {σ α : Type}

def start (service : σ) : ChatWorld σ := ⟨service, []⟩

def call (x : Work σ RemoteError α) : Work (ChatWorld σ) AgentError α :=
  x.within ChatWorld.service (fun w service => { w with service }) .remote

def execute (r : Registry) (c : ToolCall) : Work (ChatWorld σ) AgentError ToolOutcome := fun w =>
  (.ok (r.execute c), { w with executed := w.executed ++ [c] })

end ChatWorld

def Completion.toMessage (c : Completion) : ModelMessage := .assistant c.text c.calls

def ToolOutcome.toMessage (o : ToolOutcome) (c : ToolCall) : ModelMessage :=
  .toolResult c.id c.name o.text o.isError

namespace ChatAgent

variable {σ : Type}

def initialHistory (a : ChatAgent σ) (messages : List ChatMessage) (o : RunOptions) :
    List ModelMessage :=
  ((o.instructions a.instructions).map ModelMessage.system).toList ++ messages.map .ofChat

def toolChoice (a : ChatAgent σ) : ToolChoice :=
  if a.registry.definitions.isEmpty then .none else .auto

def request (a : ChatAgent σ) (o : RunOptions) (history : List ModelMessage) : ModelRequest where
  messages := history
  tools := a.registry.definitions
  toolChoice := a.toolChoice
  sampling := o.sampling

def answerCall (a : ChatAgent σ) (c : ToolCall) :
    Work (ChatWorld σ) AgentError ModelMessage := do
  return (← ChatWorld.execute a.registry c).toMessage c

/-- At most `n` more turns. -/
def runTurns (a : ChatAgent σ) (o : RunOptions) :
    Nat → List ModelMessage → AgentResponse → Work (ChatWorld σ) AgentError AgentResponse
  | 0, _, _ => Work.fail (.maxIterations a.maxIterations)
  | n + 1, history, response => do
    let completion ← ChatWorld.call (a.model.complete (a.request o history))
    let response := response.addCompletion completion
    if completion.calls.isEmpty then return response
    let results ← completion.calls.mapM a.answerCall
    runTurns a o n (history ++ completion.toMessage :: results) response

def run (a : ChatAgent σ) (messages : List ChatMessage) (o : RunOptions) :
    Work (ChatWorld σ) AgentError AgentResponse :=
  a.runTurns o a.maxIterations (a.initialHistory messages o) .empty

/-- What a piece of an answer tells the consumer. Fragments of tool calls tell nothing yet. -/
def updateOf? : Chunk → Option Update
  | .text s => some (.text s)
  | .citation c => some (.citation c)
  | .usage u => some (.usage u)
  | .call .. => none

def streamCall (a : ChatAgent σ) (c : ToolCall) :
    Producer Update (ChatWorld σ) AgentError ModelMessage := do
  Producer.yield (.toolCall c.name c.arguments c.id)
  let outcome ← Producer.lift (ChatWorld.execute a.registry c)
  Producer.yield (.toolResult c.name outcome.text c.id outcome.isError)
  return outcome.toMessage c

def streamTurn (a : ChatAgent σ) (o : RunOptions) (history : List ModelMessage) :
    Producer Update (ChatWorld σ) AgentError Completion := do
  let pieces ← Producer.lift (ChatWorld.call (a.model.stream (a.request o history)))
  Producer.yieldAll (pieces.chunks.filterMap updateOf?)
  Producer.ofExcept (pieces.toCompletion.mapError .remote)

def streamTurns (a : ChatAgent σ) (o : RunOptions) :
    Nat → List ModelMessage → Producer Update (ChatWorld σ) AgentError Unit
  | 0, _ => Producer.fail (.maxIterations a.maxIterations)
  | n + 1, history => do
    let completion ← a.streamTurn o history
    if completion.calls.isEmpty then return ()
    let results ← completion.calls.mapM a.streamCall
    streamTurns a o n (history ++ completion.toMessage :: results)

def runStreaming (a : ChatAgent σ) (messages : List ChatMessage) (o : RunOptions) :
    Producer Update (ChatWorld σ) AgentError Unit :=
  a.streamTurns o a.maxIterations (a.initialHistory messages o)

end ChatAgent

def collect {σ : Type} (p : Progress Update σ AgentError Unit) : Except AgentError AgentResponse :=
  match p.result with
  | .ok () => .ok (.ofUpdates p.items)
  | .error e => .error e

end ChatAgents
