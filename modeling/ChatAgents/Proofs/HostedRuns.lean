import ChatAgents.Agent.Persistent.Polling
import ChatAgents.Agent.Persistent.Streaming
import ChatAgents.Proofs.Exchanges
set_option autoImplicit false

namespace ChatAgents

open Http (Draft Feed Network)
open Hosting (Operation Round Run)

/-- Goes on with the value of a computation, or makes something of its failure. -/
def Work.andThen {σ ε α β : Type} (x : Work σ ε α) (fail : ε → β) (f : α → σ → β × σ)
    (w : σ) : β × σ :=
  match x w with
  | (.error e, u) => (fail e, u)
  | (.ok v, u) => f v u

theorem Work.andThen_ok {σ ε α β : Type} {x : Work σ ε α} {fail : ε → β} {f : α → σ → β × σ}
    {w u : σ} {v : α} (h : x w = (.ok v, u)) : x.andThen fail f w = f v u := by
  unfold Work.andThen
  rw [h]

theorem Work.bind_eq_andThen {σ ε α β : Type} (x : Work σ ε α) (f : α → Work σ ε β) :
    (x >>= f) = x.andThen .error f := by
  funext w
  unfold Work.andThen
  rw [Work.bind_run]
  rcases x w with ⟨_ | _, _⟩ <;> rfl

theorem Work.bind_andThen {σ ε α β γ : Type} (x : Work σ ε α) (f : α → Work σ ε β)
    (fail : ε → γ) (g : β → σ → γ × σ) :
    (x >>= f).andThen fail g = x.andThen fail fun v => (f v).andThen fail g := by
  funext w
  unfold Work.andThen
  rw [Work.bind_run]
  rcases x w with ⟨_ | _, _⟩ <;> rfl

theorem Work.map_andThen {σ ε α β γ : Type} (x : Work σ ε α) (fail : ε → β) (f : α → σ → β × σ)
    (g : β → γ) :
    (fun w => (g (x.andThen fail f w).1, (x.andThen fail f w).2)) =
      x.andThen (fun e => g (fail e)) fun v w => (g (f v w).1, (f v w).2) := by
  funext w
  unfold Work.andThen
  rcases x w with ⟨_ | _, _⟩ <;> rfl

theorem HostState.call_run {α : Type} (x : Http.Calls RemoteError α) (w : HostState) :
    HostState.call x w =
      ((x w.network).1.mapError .remote, { w with network := (x w.network).2 }) := rfl

namespace PersistentAgent

variable (a : PersistentAgent)

theorem create_known {a : PersistentAgent} {w : HostState} {id : String} (h : w.agentId = some id) :
    a.create w = (.ok id, w) := by
  rw [create, Work.bind_run]
  simp only [Work.world, h]
  rfl

theorem create_unknown {a : PersistentAgent} {w : HostState} (h : w.agentId = none) :
    a.create w =
      match HostState.call ((Operation.createAgent a.definition).performFor Hosting.readId? a.config)
        w with
      | (.error e, u) => (.error e, u)
      | (.ok id, u) => (.ok id, { u with agentId := some id }) := by
  rw [create, Work.bind_run]
  simp only [Work.world, h]
  rw [Work.bind_run]
  rcases HostState.call
    ((Operation.createAgent a.definition).performFor Hosting.readId? a.config) w with ⟨_ | _, _⟩ <;> rfl

def openStream (messages : List ChatMessage) (o : RunOptions) :
    Work HostState AgentError (String × Feed) := do
  let agentId ← a.create
  let threadId ← a.startThread messages
  let feed ← HostState.call
    ((Operation.createRun threadId (o.runRequest agentId) true).performForEvents a.config)
  return (threadId, feed)

theorem lift_bind_run {α β : Type} (x : Work HostState AgentError α)
    (f : α → Producer Update HostState AgentError β) (w : HostState) :
    (Producer.lift x >>= f) w =
      match x w with
      | (.error e, w') => ⟨[], .error e, w'⟩
      | (.ok v, w') => f v w' := by
  rw [Producer.bind_run, Producer.lift]
  rcases x w with ⟨_ | v, w'⟩
  · rfl
  · rfl

/-- How a streamed run ends after its last round. A run that failed has not released its thread. -/
def conclude (p : Progress Update HostState AgentError Bool) :
    Progress Update HostState AgentError Unit :=
  match p.result with
  | .error e => ⟨p.delivered, .error e, p.world⟩
  | .ok answered =>
    ⟨p.delivered, if answered then .ok () else .error .missingFinalResponse, a.release p.world⟩

theorem delivered_conclude (p : Progress Update HostState AgentError Bool) :
    (a.conclude p).delivered = p.delivered := by
  rw [conclude]
  cases p.result <;> rfl

theorem items_conclude (p : Progress Update HostState AgentError Bool) :
    (a.conclude p).items = p.items := congrArg _ (a.delivered_conclude p)

theorem runStreaming_run (messages : List ChatMessage) (o : RunOptions) (w : HostState) :
    a.runStreaming messages o w =
      match a.openStream messages o w with
      | (.error e, w') => ⟨[], .error e, w'⟩
      | (.ok (threadId, feed), w') => a.conclude (a.streamRounds threadId false feed w') := by
  rw [runStreaming, openStream, lift_bind_run, Work.bind_run]
  rcases a.create w with ⟨_ | agentId, w₁⟩
  · rfl
  · dsimp only
    rw [lift_bind_run, Work.bind_run]
    rcases a.startThread messages w₁ with ⟨_ | threadId, w₂⟩
    · rfl
    · dsimp only
      rw [lift_bind_run, Work.bind_run]
      rcases HostState.call ((Operation.createRun threadId (o.runRequest agentId)
        true).performForEvents a.config) w₂ with ⟨_ | feed, w₃⟩
      · rfl
      · dsimp only [Work.pure_run]
        refine (Producer.bind_run (a.streamRounds threadId false feed) _ w₃).trans ?_
        rcases a.streamRounds threadId false feed w₃ with ⟨delivered, _ | answered, w₄⟩
        · rfl
        · dsimp only
          rw [lift_bind_run]
          cases answered <;>
            simp [conclude, Work.modify, Progress.prepend, pure, Producer.pure, Producer.fail]

def roundDelivered (feed : Feed) (w : HostState) : List (Update × HostState) :=
  (a.roundUpdates (Round.ofFeed feed)).map fun u => (u, w)

theorem map_roundDelivered (feed : Feed) (w : HostState) :
    (a.roundDelivered feed w).map (·.1) = a.roundUpdates (Round.ofFeed feed) := by
  simp [roundDelivered, Function.comp_def]

variable {a} {threadId : String} {answered : Bool} {feed : Feed} {w : HostState}

theorem streamRounds_finished (h : (Round.ofFeed feed).ending = .finished) :
    a.streamRounds threadId answered feed w =
      ⟨a.roundDelivered feed w, .ok (answered || (Round.ofFeed feed).answered), w⟩ := by
  rw [streamRounds, h]
  rfl

theorem streamRounds_failed {e : RemoteError} (h : (Round.ofFeed feed).ending = .failed e) :
    a.streamRounds threadId answered feed w = ⟨a.roundDelivered feed w, .error (.remote e), w⟩ := by
  rw [streamRounds, h]
  rfl

theorem streamRounds_action {run : Run} (h : (Round.ofFeed feed).ending = .action run) :
    a.streamRounds threadId answered feed w =
      match a.nextRound threadId run w with
      | (.error e, w') => ⟨a.roundDelivered feed w, .error e, w'⟩
      | (.ok feed', w') =>
        (a.streamRounds threadId (answered || (Round.ofFeed feed).answered) feed' w').prepend
          (a.roundDelivered feed w) := by
  rw [streamRounds, h]
  dsimp only
  split <;> rename_i next
  · rw [next]
    rfl
  · rw [next]
    rfl

end PersistentAgent
end ChatAgents
