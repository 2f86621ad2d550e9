import ChatAgents.Agent.Persistent.Basic
import ChatAgents.Agent.Producer
import ChatAgents.Hosting.Round
import ChatAgents.Http.Calls
set_option autoImplicit false

namespace ChatAgents

open Http (Calls Feed Network)
open Hosting (Operation Round Run)

theorem HostState.remaining_call_lt {α : Type} {x : Calls RemoteError α} {w w' : HostState} {a : α}
    (decreasing : ∀ {n n' : Network} {a : α}, x n = (.ok a, n') → n'.remaining < n.remaining)
    (h : HostState.call x w = (.ok a, w')) : w'.remaining < w.remaining := by
  simp only [call, Work.within, Prod.mk.injEq] at h
  obtain ⟨hx, rfl⟩ := h
  rcases hr : x w.network with ⟨_ | b, n'⟩
  · rw [hr] at hx
    simp at hx
  · exact decreasing hr

namespace PersistentAgent

def nextRound (a : PersistentAgent) (threadId : String) (run : Run) :
    Work HostState AgentError Feed :=
  let outputs := a.registry.outputs run.required
  HostState.call
    ((Operation.submitOutputs threadId run.id outputs true).performForEvents a.config)

theorem remaining_nextRound_lt {a : PersistentAgent} {threadId : String} {run : Run} {feed : Feed}
    {w w' : HostState} (h : a.nextRound threadId run w = (.ok feed, w')) :
    w'.remaining < w.remaining :=
  HostState.remaining_call_lt Http.remaining_sendForEvents_lt h

def roundUpdates (a : PersistentAgent) (r : Round) : List Update :=
  match r.ending with
  | .action run => r.updates ++ (a.registry.exchanges run.required).flatMap ToolExchange.updates
  | .finished | .failed _ => r.updates

/-- The rounds of a run, from one that is coming in. The result says whether the assistant has said
anything. -/
def streamRounds (a : PersistentAgent) (threadId : String) (answered : Bool) (feed : Feed)
    (w : HostState) : Progress Update HostState AgentError Bool :=
  let round := Round.ofFeed feed
  let delivered := (a.roundUpdates round).map fun u => (u, w)
  match round.ending with
  | .finished => ⟨delivered, .ok (answered || round.answered), w⟩
  | .failed e => ⟨delivered, .error (.remote e), w⟩
  | .action run =>
    match _h : a.nextRound threadId run w with
    | (.error e, w') => ⟨delivered, .error e, w'⟩
    | (.ok feed, w') =>
      (a.streamRounds threadId (answered || round.answered) feed w').prepend delivered
termination_by w.remaining
decreasing_by exact remaining_nextRound_lt _h

/-- The updates of a run. A failed run, and one that its consumer leaves, still holds its thread. -/
def runStreaming (a : PersistentAgent) (messages : List ChatMessage) (o : RunOptions) :
    Producer Update HostState AgentError Unit := do
  let agentId ← Producer.lift a.create
  let threadId ← Producer.lift (a.startThread messages)
  let feed ← Producer.lift (HostState.call
    ((Operation.createRun threadId (o.runRequest agentId) true).performForEvents a.config))
  let answered ← a.streamRounds threadId false feed
  Producer.lift (Work.modify a.release)
  if answered then return () else Producer.fail .missingFinalResponse

/-- Whether all messages get into the thread of a run. The run lets go at once of a thread that
misses one. -/
def fillsThread (a : PersistentAgent) (messages : List ChatMessage) (w : HostState) : Bool :=
  match (a.create >>= fun _ => a.startThread messages) w with
  | (.ok _, _) => true
  | (.error _, _) => false

/-- Whether a stream still has its thread in hand when its consumer drops it, with what the consumer
has seen of it after it asked for `asked` items, or to the end. A run that failed in its filled
thread lets go of it only when it is asked for an item behind its error. -/
def keepsThread (filled : Bool) (asked : Option Nat) (updates : List Update) :
    Option (Except AgentError Unit) → Bool
  | none => asked.isSome
  | some (.ok ()) | some (.error .missingFinalResponse) => false
  | some (.error _) => filled && asked.any (· ≤ updates.length + 1)

/-- What is left once the consumer has dropped the stream. A thread that the stream still had in hand
stays on the service where nothing can be sent (`detached`); any other is deleted. -/
def afterStream (a : PersistentAgent) (letGo detached : Bool) (w : HostState) : HostState :=
  if detached && !letGo then w.forgetThread else a.release w

end PersistentAgent
end ChatAgents
