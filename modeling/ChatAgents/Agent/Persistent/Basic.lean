import ChatAgents.Agent.Basic
import ChatAgents.Hosting.Operation
import ChatAgents.Hosting.Run
import ChatAgents.Tool.Basic
set_option autoImplicit false

/-!
# Persistent agents

An agent whose definition lives on a hosting service. It is created there when it is first needed
and stays until it is deleted; an agent deleted here is created anew by the next run. Every run has
a thread of its own, which is deleted once the run is over, however it ends.
-/

namespace ChatAgents

open Http (Calls Network)
open Hosting (Operation RequiredCall ToolOutput)

structure PersistentAgentSpec where
  config : Hosting.Config
  name : String
  instructions : Option String
  /-- Another model deployment than that of the project. -/
  model : Option String
  tools : List AgentTool
  /-- The id of an agent that is on the service already. -/
  existing : Option String

def PersistentAgentSpec.empty (config : Hosting.Config) : PersistentAgentSpec where
  config
  name := "agent"
  instructions := none
  model := none
  tools := []
  existing := none

structure PersistentAgent where
  config : Hosting.Config
  name : String
  instructions : Option String
  model : String
  registry : Registry
  existing : Option String

def PersistentAgentSpec.build (s : PersistentAgentSpec) : Except AgentError PersistentAgent :=
  (Registry.ofTools s.tools).map fun registry =>
    { config := s.config
      name := s.name
      instructions := s.instructions
      model := s.model.getD s.config.deployment
      registry
      existing := s.existing }

structure HostState where
  network : Network
  /-- The id of the agent on the service, as long as there is one. -/
  agentId : Option String
  /-- The thread that the current run still has to delete. -/
  thread : Option String

namespace HostState

variable {α : Type}

def call (x : Calls RemoteError α) : Work HostState AgentError α :=
  x.within HostState.network (fun w network => { w with network }) .remote

def remaining (w : HostState) : Nat := w.network.remaining

def forgetThread (w : HostState) : HostState := { w with thread := none }

end HostState

namespace PersistentAgent

def start (a : PersistentAgent) (network : Network) : HostState := ⟨network, a.existing, none⟩

def definition (a : PersistentAgent) : Hosting.Definition where
  model := a.model
  name := a.name
  instructions := a.instructions
  functions := a.registry.definitions
  hosted := a.registry.hosted

def create (a : PersistentAgent) : Work HostState AgentError String := do
  match (← Work.world).agentId with
  | some id => return id
  | none =>
    let id ← HostState.call
      ((Operation.createAgent a.definition).performFor Hosting.readId? a.config)
    Work.modify fun w => { w with agentId := some id }
    return id

/-- Callers that ask for the agent at the same time get their turns one after the other. -/
def createMany (a : PersistentAgent) : Nat → HostState → List (Except AgentError String) × HostState
  | 0, w => ([], w)
  | n + 1, w =>
    let (first, w) := a.create w
    let (rest, w) := a.createMany n w
    (first :: rest, w)

/-- Deletes the agent on the service. Its id is forgotten only when the service confirms that, so
that a deletion that failed can be tried again. -/
def delete (a : PersistentAgent) (w : HostState) : HostState :=
  match w.agentId with
  | none => w
  | some id =>
    match (Operation.deleteAgent id).perform a.config w.network with
    | (.ok (), network) => { w with network, agentId := none }
    | (.error _, network) => { w with network }

def startThread (a : PersistentAgent) (messages : List ChatMessage) :
    Work HostState AgentError String := do
  let id ← HostState.call (Operation.createThread.performFor Hosting.readId? a.config)
  Work.modify fun w => { w with thread := some id }
  (messages.filterMap Hosting.messageToJson?).forM fun message =>
    HostState.call ((Operation.createMessage id message).perform a.config)
  return id

/-- Deletes the thread that is held, if there is one, whatever the service says to that. -/
def release (a : PersistentAgent) (w : HostState) : HostState :=
  match w.thread with
  | none => w
  | some id =>
    { w with network := ((Operation.deleteThread id).perform a.config w.network).2, thread := none }

end PersistentAgent

def RunOptions.runRequest (o : RunOptions) (agentId : String) : Hosting.RunRequest where
  agentId
  additionalInstructions := o.instructions none
  sampling := o.sampling

structure ToolExchange where
  call : ToolCall
  outcome : ToolOutcome

namespace ToolExchange

def output (x : ToolExchange) : ToolOutput := ⟨x.call.id, x.outcome.text⟩

def updates (x : ToolExchange) : List Update :=
  [.toolCall x.call.name x.call.arguments x.call.id,
   .toolResult x.call.name x.outcome.text x.call.id x.outcome.isError]

end ToolExchange

namespace Registry

/-- Runs a required call. One whose arguments cannot be read is not run, and counts as failed. -/
def answer (r : Registry) (c : RequiredCall) : ToolExchange :=
  match parseArguments c.name c.arguments with
  | .ok arguments =>
    let call := ⟨c.id, c.name, arguments⟩
    ⟨call, r.execute call⟩
  | .error e => ⟨⟨c.id, c.name, .str c.arguments⟩, ⟨e.message, true⟩⟩

def exchanges (r : Registry) (calls : List RequiredCall) : List ToolExchange := calls.map r.answer

def outputs (r : Registry) (calls : List RequiredCall) : List ToolOutput :=
  (r.exchanges calls).map ToolExchange.output

end Registry
end ChatAgents
