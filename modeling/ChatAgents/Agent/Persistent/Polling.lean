import ChatAgents.Agent.Persistent.Basic
import ChatAgents.Http.Calls
set_option autoImplicit false

namespace ChatAgents

open Http (Calls Network)
open Hosting (Operation Run)

namespace PersistentAgent

/-- The next report on an unfinished run: the answer to the tool outputs that it waits for, or what
is to be seen of it after a pause. -/
def nextReport (a : PersistentAgent) (threadId : String) (run : Run) :
    Calls RemoteError Run := fun n =>
  if run.status = .requiresAction then
    (Operation.submitOutputs threadId run.id (a.registry.outputs run.required) false).performFor
      Hosting.readRun? a.config n
  else
    (Operation.getRun threadId run.id).performFor Hosting.readRun? a.config
      (n.wait a.config.pollInterval)

def followUp (a : PersistentAgent) (threadId : String) (run : Run) : Operation :=
  if run.status = .requiresAction then
    .submitOutputs threadId run.id (a.registry.outputs run.required) false
  else .getRun threadId run.id

def pauseBefore (a : PersistentAgent) (run : Run) : Nat :=
  if run.status = .requiresAction then 0 else a.config.pollInterval

theorem nextReport_eq (a : PersistentAgent) (threadId : String) (run : Run) (n : Network) :
    a.nextReport threadId run n =
      (a.followUp threadId run).performFor Hosting.readRun? a.config
        (n.wait (a.pauseBefore run)) := by
  rw [nextReport, followUp, pauseBefore]
  split <;> rfl

theorem remaining_nextReport_lt {a : PersistentAgent} {threadId : String} {run run' : Run}
    {n n' : Network} (h : a.nextReport threadId run n = (.ok run', n')) :
    n'.remaining < n.remaining := by
  rw [nextReport_eq] at h
  exact Http.remaining_sendFor_lt (n := n.wait _) h

def timedOut (a : PersistentAgent) : RemoteError := .timeout (a.config.runTimeout / 1000)

/-- The completed run, watched from a report on; `started` is when the watch began. -/
def watch (a : PersistentAgent) (threadId : String) (started : Nat) (run : Run) (n : Network) :
    Except RemoteError Run × Network :=
  if run.status = .completed then (.ok run, n)
  else if run.status.isFailure then (.error run.failure, n)
  else if a.config.runTimeout ≤ n.clock - started then (.error a.timedOut, n)
  else
    match _h : a.nextReport threadId run n with
    | (.error e, n') => (.error e, n')
    | (.ok run', n') => a.watch threadId started run' n'
termination_by n.remaining
decreasing_by exact remaining_nextReport_lt _h

def awaitRun (a : PersistentAgent) (threadId : String) (run : Run) :
    Calls RemoteError Run := fun n =>
  a.watch threadId n.clock run n

def answer (a : PersistentAgent) (agentId threadId : String) (o : RunOptions) :
    Work HostState AgentError AgentResponse := do
  let run ← HostState.call
    ((Operation.createRun threadId (o.runRequest agentId) false).performFor Hosting.readRun?
      a.config)
  let run ← HostState.call (a.awaitRun threadId run)
  let messages ← HostState.call
    ((Operation.listMessages threadId run.id).performFor Hosting.readMessageList? a.config)
  match Hosting.answer? messages with
  | none => Work.fail .missingFinalResponse
  | some response => return run.usage.elim response response.addUsage

/-- A run after which its thread may still be held, if a message could not be put into it. -/
def runHolding (a : PersistentAgent) (messages : List ChatMessage) (o : RunOptions) :
    Work HostState AgentError AgentResponse := do
  let agentId ← a.create
  let threadId ← a.startThread messages
  (a.answer agentId threadId o).closing a.release

def run (a : PersistentAgent) (messages : List ChatMessage) (o : RunOptions) :
    Work HostState AgentError AgentResponse :=
  (a.runHolding messages o).closing a.release

def runAndDelete (a : PersistentAgent) (messages : List ChatMessage) (o : RunOptions) :
    Work HostState AgentError AgentResponse :=
  ((a.runHolding messages o).closing a.delete).closing a.release

end PersistentAgent
end ChatAgents
