import ChatAgents.Proofs.ScopedRuns
set_option autoImplicit false

namespace ChatAgents

open Http (Calls Draft Exchange Feed Network)
open Hosting (Operation Round Run)

/-- An operation with these exchanges ends with the failure of one that counts: it has no other
result, and sends nothing but what may stand behind. A status is the failure of such an exchange. -/
structure EndsAtFailure (counts : Exchange → Prop) (behind : List Exchange → List Exchange → Prop)
    (l : List Exchange) (failure : Option RemoteError) : Prop where
  ends : ∀ (before after : List Exchange) (e : Exchange) (err : RemoteError),
    l = before ++ e :: after → counts e → e.Fails err → failure = some err ∧ behind before after
  caused : ∀ (code : Nat) (text : String), failure = some (.status code text) →
    ∃ before after e, l = before ++ e :: after ∧ counts e ∧ e.Fails (.status code text) ∧
      behind before after

namespace Producer

variable {ι σ ε α β : Type}

def drained (p : Producer ι σ ε α) : Work σ ε α := fun w => ((p w).result, (p w).world)

theorem drained_bind (p : Producer ι σ ε α) (f : α → Producer ι σ ε β) :
    (p >>= f).drained = p.drained >>= fun v => (f v).drained := by
  funext w
  rw [drained, bind_run, Work.bind_run, drained]
  cases (p w).result <;> rfl

theorem drained_lift (x : Work σ ε α) : (lift x : Producer ι σ ε α).drained = x := rfl

end Producer

/-- A model over the network stops at its first failing exchange, and nothing in the pieces of its
answers reports a status. -/
structure ChatModel.Stops (m : ChatModel Network) : Prop where
  complete : ∀ r n, ChatAgents.Stops Network.log (failure? some) (m.complete r) n
  stream : ∀ r n, ChatAgents.Stops Network.log (failure? some) (m.stream r) n
  fault : ∀ {r : ModelRequest} {n n' : Network} {s : ChunkStream}, m.stream r n = (.ok s, n') →
    s.fault.bind RemoteError.statusCode? = none

theorem ChatCompletions.stops_model (c : Config) : (model c).Stops where
  complete r n := by
    refine (Http.stops_sendFor _ _ n).bind fun body _ _ => .ofExcept ?_
    cases read : body.toCompletion with
    | ok => rfl
    | error e => exact CompletionBody.toCompletion_error read
  stream r n := (Http.stops_sendForEvents _ n).bind fun feed _ _ => .returns _
  fault {r n n' s} h := by
    obtain ⟨feed, _, sent, read⟩ := Work.ok_of_bind h
    obtain rfl := Except.ok.inj (Prod.mk.inj read).1
    exact fault_chunkStream (Http.fault_of_sendForEvents sent) false feed.events

namespace ChatAgent

abbrev StopsRun {α : Type} (x : Work (ChatWorld Network) AgentError α)
    (w : ChatWorld Network) : Prop :=
  Stops (·.service.log) (failure? AgentError.remote?) x w

variable {a : ChatAgent Network} {w : ChatWorld Network}

theorem stops_call {α : Type} {x : Calls RemoteError α}
    (h : Stops Network.log (failure? some) x w.service) : StopsRun (ChatWorld.call x) w :=
  h.within rfl (fun _ => rfl) fun _ => rfl

theorem stops_runTurns (model : a.model.Stops) (o : RunOptions) (n : Nat)
    (history : List ModelMessage) (response : AgentResponse) :
    StopsRun (a.runTurns o n history response) w := by
  induction n generalizing history response w with
  | zero => exact .fails rfl
  | succ n ih =>
    rw [runTurns]
    refine (stops_call (model.complete _ _)).bind fun completion u _ => ?_
    dsimp only
    split
    · exact .returns _
    · exact (Stops.still (a.mapM_answerCall _ u) rfl rfl).bind fun results u' _ => ih _ _

theorem stops_streamTurn (model : a.model.Stops) (o : RunOptions) (history : List ModelMessage) :
    StopsRun (a.streamTurn o history).drained w := by
  rw [streamTurn, Producer.drained_bind, Producer.drained_lift]
  refine (stops_call (model.stream _ _)).bind fun pieces u streamed => ?_
  obtain ⟨n, asked, -⟩ := Work.ok_of_within streamed
  rw [Producer.drained_bind]
  have handed_over : (Producer.yieldAll (pieces.chunks.filterMap updateOf?) :
      Producer Update (ChatWorld Network) AgentError Unit).drained u = (.ok (), u) := by
    rw [Producer.drained, Producer.yieldAll_run]
  refine (Stops.still handed_over rfl rfl).bind fun _ u' _ => ?_
  refine Stops.still (x := (Producer.ofExcept _).drained) (u := u') rfl rfl ?_
  cases put_together : pieces.toCompletion with
  | ok => rfl
  | error e => exact ChunkStream.toCompletion_error (model.fault asked) put_together

theorem stops_streamTurns (model : a.model.Stops) (o : RunOptions) (n : Nat)
    (history : List ModelMessage) : StopsRun (a.streamTurns o n history).drained w := by
  induction n generalizing history w with
  | zero => exact .still rfl rfl rfl
  | succ n ih =>
    rw [streamTurns, Producer.drained_bind]
    refine (stops_streamTurn model o history).bind fun completion u _ => ?_
    split
    · exact .still rfl rfl rfl
    · rw [Producer.drained_bind]
      obtain ⟨-, result, world⟩ := a.mapM_streamCall completion.calls u
      refine Stops.bind ?_ fun results u' _ => ih _
      exact .still (u := afterCalls u completion.calls) (Prod.ext result world) rfl rfl

end ChatAgent

namespace PersistentAgent

abbrev StopsRun {α : Type} (x : Work HostState AgentError α) (w : HostState) : Prop :=
  Stops (·.network.log) (failure? AgentError.remote?) x w

variable (a : PersistentAgent) {w : HostState}

theorem stops_call {α : Type} {x : Calls RemoteError α}
    (h : Stops Network.log (failure? some) x w.network) : StopsRun (HostState.call x) w :=
  h.within rfl (fun _ => rfl) fun _ => rfl

theorem stops_ask {α : Type} (o : Operation) (reading : Hosting.Reading α) :
    StopsRun (HostState.call (o.ask reading a.config)) w := by
  refine stops_call ((Http.stops_send _ _).bind fun r _ _ => .ofExcept ?_)
  cases read : reading.of r with
  | ok => rfl
  | error e => exact Hosting.Reading.error_of read

theorem stops_create : StopsRun a.create w := by
  refine Stops.bind (.still (v := .ok w) rfl rfl rfl) fun v u _ => ?_
  cases v.agentId with
  | some id => exact .returns id
  | none =>
    dsimp only
    rw [Operation.performFor_eq_ask]
    refine (a.stops_ask _ _).bind fun id u' _ => ?_
    exact (Stops.modify rfl).bind fun _ _ _ => .returns id

end PersistentAgent

theorem Steps.stops {a : PersistentAgent} {fine : String → Prop} {may : Operation → Prop} {β : Type}
    {told : β → Option RemoteError} {n : Nat} {x : HostState → β × HostState}
    (h : Steps a fine may told n x) {w : HostState} (few : w.remaining ≤ n) (names : w.Names fine) :
    Stops (·.network.log) told x w := by
  refine Steps.from_world (P := Stops (·.network.log) told) ?_ ?_ ?_ ?_ ?_ ?_ h few names
  · exact fun _ _ other => .still rfl rfl other
  · exact fun _ _ later => later
  · exact fun _ _ _ later => later
  · exact fun _ _ _ _ later => later
  · exact fun _ _ _ reports next => a.stops_create.andThen reports next
  · exact fun o reading _ _ _ _ _ reports next => (a.stops_ask o reading).andThen reports next

namespace PersistentAgent

variable {a : PersistentAgent} {w : HostState}

/-- Nothing is sent, or only the deletion of the thread that was obtained before. -/
def OnlyReleases (c : Hosting.Config) (before after : List Exchange) : Prop :=
  after = [] ∨ ∃ id last, after = [last] ∧ Deletion c id last ∧ ∃ e ∈ before, Obtains c id e

theorem Holding.endsAtFailure {β : Type} {x : HostState → β × HostState} {v : β} {u : HostState}
    (held : a.Holding x w v u) {report : β → Option RemoteError}
    (stops : Stops (·.network.log) report x w) :
    ∃ l, (a.release u).network.log = w.network.log ++ l ∧
      EndsAtFailure (¬ Deletes ·) (OnlyReleases a.config) l (report v) := by
  obtain ⟨l, added, heeds⟩ := stops
  obtain ⟨l', added', undeleted, named⟩ := held.added
  rw [held.run] at added heeds
  obtain rfl : l = l' := List.append_cancel_left (added.symm.trans added')
  rcases a.sends_release u with unsent | ⟨id, last, holds, deletion, sent⟩
  · refine ⟨l, unsent.trans added, fun before after e err split _ fails => ?_,
      fun code text told => ?_⟩
    · obtain ⟨nothing, reported⟩ := heeds.of_split split fails
      exact ⟨reported, .inl nothing⟩
    · obtain ⟨before, last, rfl, fails⟩ := heeds.of_status told
      exact ⟨before, [], last, rfl, undeleted last (by simp), fails, .inl rfl⟩
  · obtain ⟨opening, opened, obtains⟩ := (named id).2 holds
    have succeeds : opening.Succeeds := by
      obtain ⟨-, r, answer, success, -⟩ := obtains
      exact ⟨r, answer, success⟩
    -- the thread was obtained before the exchange that failed, which is the last one but the release
    have releases {before : List Exchange} {e : Exchange} {err : RemoteError}
        (split : l = before ++ [e]) (fails : e.Fails err) :
        OnlyReleases a.config before [last] := by
      refine .inr ⟨id, last, rfl, deletion, opening, ?_, obtains⟩
      rw [split] at opened
      refine (List.mem_append.1 opened).resolve_right fun same => ?_
      obtain rfl := List.mem_singleton.1 same
      exact fails.not_succeeds succeeds
    refine ⟨l ++ [last], ?_, fun before after e err split undeleted' fails => ?_,
      fun code text told => ?_⟩
    · rw [sent, added', List.append_assoc]
    · rcases cases_of_last split with ⟨-, rfl, -⟩ | ⟨after', rfl, split'⟩
      · exact absurd deletion.deletes undeleted'
      · obtain ⟨rfl, reported⟩ := heeds.of_split split' fails
        exact ⟨reported, releases split' fails⟩
    · obtain ⟨before, e, split, fails⟩ := heeds.of_status told
      refine ⟨before, [last], e, ?_, undeleted e (by rw [split]; simp), fails, releases split fails⟩
      rw [split, List.append_assoc]
      rfl

theorem run_endsAtFailure (messages : List ChatMessage) (o : RunOptions) (free : w.thread = none) :
    ∃ l, (a.run messages o w).2.network.log = w.network.log ++ l ∧
      EndsAtFailure (¬ Deletes ·) (OnlyReleases a.config) l
        (failure? AgentError.remote? (a.run messages o w).1) := by
  obtain ⟨v, u, held⟩ := a.holding_runInThread messages o free
  have steps : Steps a (fun _ => True) (fun _ => True) _ w.remaining (a.runInThread messages o) :=
    steps_runInThread messages o (fun _ _ => trivial) fun _ _ => trivial
  rw [run_eq, held.run]
  exact held.endsAtFailure (steps.stops (Nat.le_refl _) w.names_any)

theorem runStreaming_endsAtFailure (messages : List ChatMessage) (o : RunOptions) (detached : Bool)
    (free : w.thread = none) :
    let p := a.runStreaming messages o w
    ∃ l, (a.afterStream true detached p.world).network.log = w.network.log ++ l ∧
      EndsAtFailure (¬ Deletes ·) (OnlyReleases a.config) l
        (failure? AgentError.remote? p.result) := by
  obtain ⟨v, u, held⟩ := a.holding_streamInThread messages o none free
  obtain ⟨seen, after⟩ := a.runStreaming_seen messages o none true detached w fun _ _ => rfl
  rw [held.run] at seen after
  have steps : Steps a (fun _ => True) (fun _ => True) _ w.remaining
      (a.streamInThread messages o none) :=
    steps_streamInThread messages o none (fun _ _ => trivial) fun _ _ => trivial
  obtain ⟨l, added, ends⟩ := held.endsAtFailure (steps.stops (Nat.le_refl _) w.names_any)
  have ended : v.1.2 = some (a.runStreaming messages o w).result := (congrArg Prod.snd seen).symm
  have released : a.afterStream true detached (a.runStreaming messages o w).world = a.release u :=
    after.trans (a.afterStream_letGo detached u)
  refine ⟨l, by rw [released, added], ?_⟩
  rw [seenFailure?, ended] at ends
  exact ends

end PersistentAgent

theorem Heeds.endsAtFailure {l : List Exchange} {failure : Option RemoteError}
    (h : Heeds l failure) :
    EndsAtFailure (fun _ => True) (fun _ after => after = []) l failure where
  ends _ _ _ _ split _ fails := (h.of_split split fails).symm
  caused _ _ told := by
    obtain ⟨before, last, split, fails⟩ := h.of_status told
    exact ⟨before, [], last, split, trivial, fails, rfl⟩

/-- The first exchange that fails ends a run of either kind of agent, waited for or streamed to its
end. A chat agent sends nothing more then, and a persistent one at most deletes its thread. -/
theorem first_failure_ends_operation (replies : List Http.Reply) (log : List Exchange)
    (clock : Nat) :
    (∀ (c : ChatCompletions.Config) (agent : ChatAgent Network) (messages : List ChatMessage)
        (o : RunOptions),
      let a := { agent with model := ChatCompletions.model c }
      let start := ChatWorld.start ⟨.scripted replies, log, clock⟩
      let waited := a.run messages o start
      let streamed := a.runStreaming messages o start
      (∃ l, waited.2.service.log = log ++ l ∧
          EndsAtFailure (fun _ => True) (fun _ after => after = []) l
            (failure? AgentError.remote? waited.1)) ∧
        ∃ l, streamed.world.service.log = log ++ l ∧
          EndsAtFailure (fun _ => True) (fun _ after => after = []) l
            (failure? AgentError.remote? streamed.result)) ∧
    ∀ (a : PersistentAgent) (messages : List ChatMessage) (o : RunOptions)
        (agentId : Option String) (detached : Bool),
      let start : HostState := ⟨⟨.scripted replies, log, clock⟩, agentId, none⟩
      let waited := a.run messages o start
      let streamed := a.runStreaming messages o start
      (∃ l, waited.2.network.log = log ++ l ∧
          EndsAtFailure (¬ Deletes ·) (PersistentAgent.OnlyReleases a.config) l
            (failure? AgentError.remote? waited.1)) ∧
        ∃ l, (a.afterStream true detached streamed.world).network.log = log ++ l ∧
          EndsAtFailure (¬ Deletes ·) (PersistentAgent.OnlyReleases a.config) l
            (failure? AgentError.remote? streamed.result) := by
  constructor
  · intro c agent messages o a start
    have model : a.model.Stops := ChatCompletions.stops_model c
    obtain ⟨l, waited, heeds⟩ := ChatAgent.stops_runTurns (w := start) model o a.maxIterations
      (a.initialHistory messages o) .empty
    obtain ⟨l', streamed, heeds'⟩ := ChatAgent.stops_streamTurns (w := start) model o
      a.maxIterations (a.initialHistory messages o)
    exact ⟨⟨l, waited, heeds.endsAtFailure⟩, l', streamed, heeds'.endsAtFailure⟩
  · intro a messages o agentId detached start
    exact ⟨PersistentAgent.run_endsAtFailure (w := start) messages o rfl,
      PersistentAgent.runStreaming_endsAtFailure (w := start) messages o detached rfl⟩

end ChatAgents
