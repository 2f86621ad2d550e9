import ChatAgents.Proofs.FirstFailure
import ChatAgents.Proofs.UpdateShapes
import ChatAgents.Proofs.WatchedCourses
set_option autoImplicit false

namespace ChatAgents

open Http (Draft Exchange Feed)
open Hosting (CitedText Effect Operation Round RoundEnd Run)

namespace Hosting

theorem CitedText.shaped_updates (texts : List CitedText) :
    Shaped (texts.flatMap CitedText.updates) [] := by
  have cites (citations : List Citation) : Shaped (citations.map .citation) [] := by
    induction citations with
    | nil => exact .nil
    | cons c rest ih => exact .citation c ih
  induction texts with
  | nil => exact .nil
  | cons t rest ih =>
    have one : Shaped t.updates [] := by
      rw [CitedText.updates]
      split
      · exact cites t.citations
      · exact .text t.value (cites t.citations)
    exact one.append ih

theorem Round.shaped_updates (fault : Option RemoteError) (completed : Bool)
    (events : List Http.Event) : Shaped (ofEvents fault completed events).updates [] := by
  induction events generalizing completed with
  | nil => exact .nil
  | cons e rest ih =>
    have possible := Effect.possible_ofEvent e
    rw [ofEvents]
    cases effect : Effect.ofEvent e with
    | nothing => exact ih completed
    | action | done | fail => exact .nil
    | message updates =>
      rw [effect] at possible
      cases possible with
      | message texts => exact (CitedText.shaped_updates texts).append (ih completed)
    | completed updates =>
      rw [effect] at possible
      cases possible with
      | completed usage =>
        have used : Shaped (usageUpdates usage) [] := by
          cases usage with
          | none => exact .nil
          | some u => exact .usage u .nil
        exact used.append (ih true)

def RoundEnd.action? : RoundEnd → Option Run
  | .action run => some run
  | .finished | .failed _ => none

end Hosting

namespace Http.Exchange

def feed? (e : Exchange) : Option Feed :=
  e.answer.response?.bind fun r => if isSuccess r.status then some r.feed else none

def action? (e : Exchange) : Option Run :=
  e.feed?.bind fun feed => (Round.ofFeed feed).ending.action?

def required (e : Exchange) : List Hosting.RequiredCall := e.action?.elim [] Run.required

end Http.Exchange

namespace PersistentAgent

variable (a : PersistentAgent)

def exchangesAt (e : Exchange) : List ToolExchange := a.registry.exchanges e.required

/-- The next request of a run submits the outputs of the calls of its round. -/
def Submits (threadId : String) (e e' : Exchange) : Prop :=
  ∃ run, e.action? = some run ∧
    ((Operation.submitOutputs threadId run.id ((a.exchangesAt e).map ToolExchange.output)
      true).draft a.config).build = .ok e'.request

end PersistentAgent

inductive Opens (d : Draft) (w u : HostState) : Except AgentError Feed → Prop
  | unsent {err : AgentError} (same : u.network.log = w.network.log) : Opens d w u (.error err)
  | refused {e : Exchange} {err : AgentError} (built : d.build = .ok e.request)
      (sent : u.network.log = w.network.log ++ [e]) (none_came : e.feed? = none) :
      Opens d w u (.error err)
  | opened {e : Exchange} {feed : Feed} (built : d.build = .ok e.request)
      (sent : u.network.log = w.network.log ++ [e]) (came : e.feed? = some feed) :
      Opens d w u (.ok feed)

theorem opens_sendForEvents (d : Draft) (w : HostState) :
    Opens d w (HostState.call (Http.sendForEvents d) w).2
      (HostState.call (Http.sendForEvents d) w).1 := by
  rw [HostState.call_run, Http.sendForEvents_run]
  cases built : d.build with
  | error fault =>
    rw [Http.send_unbuilt built]
    exact .unsent rfl
  | ok q =>
    rw [Http.send_built built]
    rcases Http.exchange_cases w.network q with ⟨answer, given, log⟩ | ⟨-, unreached⟩
    · dsimp only
      rw [given]
      cases answer with
      | closed => exact .refused (e := ⟨q, .closed⟩) built log rfl
      | response r =>
        rw [Http.Answer.response?, Http.outcome]
        cases success : Http.isSuccess r.status with
        | true =>
          refine .opened (e := ⟨q, .response r⟩) built log ?_
          simp [Http.Exchange.feed?, Http.Answer.response?, success]
        | false =>
          refine .refused (e := ⟨q, .response r⟩) built log ?_
          simp [Http.Exchange.feed?, Http.Answer.response?, success]
    · rw [unreached]
      exact .unsent rfl

namespace PersistentAgent

variable (a : PersistentAgent)

theorem exchangesAt_of_refused {e : Exchange} (none_came : e.feed? = none) :
    a.exchangesAt e = [] := by
  rw [exchangesAt, Http.Exchange.required, Http.Exchange.action?, none_came]
  rfl

theorem exchangesAt_of_action {e : Exchange} {feed : Feed} {run : Run} (opened : e.feed? = some feed)
    (ending : (Round.ofFeed feed).ending = .action run) :
    e.action? = some run ∧ a.exchangesAt e = a.registry.exchanges run.required := by
  have acts : e.action? = some run := by
    rw [Http.Exchange.action?, opened, Option.bind_some, ending]
    rfl
  refine ⟨acts, ?_⟩
  rw [exchangesAt, Http.Exchange.required, acts]
  rfl

theorem shaped_roundUpdates {e : Exchange} {feed : Feed} (opened : e.feed? = some feed) :
    Shaped (a.roundUpdates (Round.ofFeed feed)) (a.exchangesAt e) := by
  have quiet : Shaped (Round.ofFeed feed).updates [] := Round.shaped_updates _ _ _
  rw [exchangesAt, Http.Exchange.required, Http.Exchange.action?, opened, roundUpdates]
  dsimp only [Option.bind_some]
  cases (Round.ofFeed feed).ending with
  | action run => exact quiet.append (.exchanges _)
  | finished => exact quiet
  | failed err => exact quiet

/-- From round to round, the exchanges say what is handed over, and each submits what the one before
asked for. -/
theorem rounds_shaped (threadId : String) (answered : Bool) {feed : Feed} {e : Exchange}
    (opened : e.feed? = some feed) (w : HostState) :
    let p := a.rounds threadId answered feed w
    ∃ turns, p.world.network.log = w.network.log ++ turns ∧
      (e :: turns).IsChain (a.Submits threadId) ∧
      Shaped p.items ((e :: turns).flatMap a.exchangesAt) := by
  -- on the replies still to come: every round but the first uses up one of them
  induction left : w.remaining using Nat.strongRecOn generalizing answered feed e w with
  | ind left_now ih =>
    have round := a.shaped_roundUpdates opened
    suffices later : ∃ turns,
        (a.afterRound threadId answered feed w).world.network.log = w.network.log ++ turns ∧
          (e :: turns).IsChain (a.Submits threadId) ∧
          Shaped (a.afterRound threadId answered feed w).items (turns.flatMap a.exchangesAt) by
      obtain ⟨turns, log, chain, shaped⟩ := later
      dsimp only
      rw [rounds_run]
      refine ⟨turns, log, chain, ?_⟩
      rw [Progress.items_prepend, map_roundDelivered, List.flatMap_cons]
      exact round.append shaped
    rw [afterRound]
    cases ending : (Round.ofFeed feed).ending with
    | finished => exact ⟨[], (List.append_nil _).symm, .singleton e, .nil⟩
    | failed err => exact ⟨[], (List.append_nil _).symm, .singleton e, .nil⟩
    | action run =>
      obtain ⟨acts, asked⟩ := a.exchangesAt_of_action opened ending
      have opens : Opens _ w (a.nextRound threadId run w).2 (a.nextRound threadId run w).1 :=
        opens_sendForEvents _ w
      dsimp only
      rw [lift_bind_run]
      rcases next : a.nextRound threadId run w with ⟨err | feed', u⟩
      · rw [next] at opens
        dsimp only
        cases opens with
        | unsent same => exact ⟨[], by rw [same, List.append_nil], .singleton e, .nil⟩
        | @refused e' _ built sent none_came =>
          refine ⟨[e'], sent, .cons_cons ⟨run, acts, asked ▸ built⟩ (.singleton e'), ?_⟩
          rw [List.flatMap_singleton, a.exchangesAt_of_refused none_came]
          exact .nil
      · rw [next] at opens
        cases opens with
        | @opened e' _ built sent came =>
          have fewer : u.remaining < left_now := left ▸ remaining_nextRound_lt next
          obtain ⟨turns, log, chain, shaped⟩ := ih u.remaining fewer
            (answered || (Round.ofFeed feed).answered) came u rfl
          refine ⟨e' :: turns, ?_, .cons_cons ⟨run, acts, asked ▸ built⟩ chain, shaped⟩
          rw [log, sent, List.append_assoc]
          rfl

end PersistentAgent

def Hosting.Operation.prepares : Operation → Bool
  | .createAgent _ | .createThread | .createMessage .. => true
  | .deleteAgent _ | .deleteThread _ | .listMessages .. | .createRun .. | .getRun ..
  | .submitOutputs .. => false

def Prepares (c : Hosting.Config) (e : Exchange) : Prop :=
  ∃ o : Operation, o.prepares = true ∧ (o.draft c).build = .ok e.request

theorem Hosting.Operation.Fills.prepares {fine : String → Prop} {o : Operation}
    (h : o.Fills fine) : o.prepares = true := by
  cases o with
  | createThread | createMessage => rfl
  | createAgent | deleteAgent | deleteThread | listMessages | createRun | getRun | submitOutputs =>
    exact h.elim

namespace PersistentAgent

variable (a : PersistentAgent)

theorem traced_prepare (messages : List ChatMessage) (w : HostState) :
    Traced (Prepares a.config) (a.prepare messages) w := by
  have steps : Steps a (fun _ => True) (fun o => o.prepares = true) _ w.remaining
      (a.prepare messages) := steps_prepare_only messages fun _ fills => fills.prepares
  exact steps.traced (fun q answer built => ⟨_, rfl, built⟩)
    (fun o prepares q answer built => ⟨o, prepares, built⟩) (Nat.le_refl _) w.names_any

def Starts (o : RunOptions) (threadId : String) (e : Exchange) : Prop :=
  ∃ agentId, ((Operation.createRun threadId (o.runRequest agentId) true).draft a.config).build =
    .ok e.request

/-- The exchanges of a streamed run: what it takes to start it, the rounds, and the release of the
thread. Each round has its tool calls, and the next one submits their outputs. -/
structure StreamLog (o : RunOptions) (threadId : String) (setup turns cleanup : List Exchange) :
    Prop where
  prepares : ∀ e ∈ setup, Prepares a.config e
  starts : ∀ e ∈ turns.head?, a.Starts o threadId e
  submits : turns.IsChain (a.Submits threadId)
  releases : cleanup = [] ∨ ∃ id last, cleanup = [last] ∧ Deletion a.config id last

theorem ids_exchangesAt (turns : List Exchange) :
    ((turns.flatMap a.exchangesAt).map fun x => (x.call.id, x.call.name)) =
      (turns.flatMap fun e => e.required).map fun c => (c.id, c.name) := by
  rw [List.map_flatMap, List.map_flatMap]
  refine congrArg (turns.flatMap ·) (funext fun e => ?_)
  rw [exchangesAt, Registry.exchanges, List.map_map]
  refine List.map_congr_left fun c _ => ?_
  rw [Function.comp_apply, Registry.answer]
  split <;> rfl

theorem afterStream_conclude (p : Progress Update HostState AgentError Bool) (detached : Bool) :
    a.afterStream true detached (a.conclude p).world = a.release p.world := by
  rw [afterStream_letGo, conclude]
  cases p.result with
  | error e => rfl
  | ok answered => exact a.release_release p.world

theorem log_cleanup {w u : HostState} {l : List Exchange}
    (added : u.network.log = w.network.log ++ l) :
    ∃ cleanup, (a.release u).network.log = w.network.log ++ (l ++ cleanup) ∧
      (cleanup = [] ∨ ∃ id last, cleanup = [last] ∧ Deletion a.config id last) := by
  rcases a.sends_release u with unsent | ⟨id, last, -, deletion, sent⟩
  · exact ⟨[], by rw [unsent, added, List.append_nil], .inl rfl⟩
  · exact ⟨[last], by rw [sent, added, List.append_assoc], .inr ⟨id, last, rfl, deletion⟩⟩

theorem openStream_log (messages : List ChatMessage) (o : RunOptions) (w : HostState) :
    ∃ (threadId : String) (setup : List Exchange) (first : Option Exchange),
      (a.openStream messages o w).2.network.log =
          w.network.log ++ (setup ++ first.toList) ∧
        (∀ e ∈ setup, Prepares a.config e) ∧
        (∀ e ∈ first, a.Starts o threadId e) ∧
        match (a.openStream messages o w).1 with
        | .error _ => ∀ e ∈ first, e.feed? = none
        | .ok opened => opened.1 = threadId ∧ ∃ e, first = some e ∧ e.feed? = some opened.2 := by
  obtain ⟨prepared, u, traces⟩ := a.traced_prepare messages w
  obtain ⟨setup, added, prepares⟩ := traces.added
  rw [openStream_eq_prepare, Work.bind_run, traces.run]
  rcases prepared with err | ids
  · refine ⟨"", setup, none, ?_, prepares, nofun, nofun⟩
    rw [Option.toList_none, List.append_nil]
    exact added
  · have opens := opens_sendForEvents ((Operation.createRun ids.2 (o.runRequest ids.1)
      true).draft a.config) u
    refine ⟨ids.2, setup, ?_⟩
    dsimp only
    rw [Work.bind_run, Operation.performForEvents]
    rcases asked : HostState.call (Http.sendForEvents ((Operation.createRun ids.2
      (o.runRequest ids.1) true).draft a.config)) u with ⟨err | feed, u'⟩
    · rw [asked] at opens
      dsimp only
      cases opens with
      | unsent same =>
        exact ⟨none, by rw [same, added, Option.toList_none, List.append_nil], prepares, nofun,
          nofun⟩
      | @refused e _ built sent none_came =>
        refine ⟨some e, ?_, prepares, ?_, ?_⟩
        · rw [sent, added, List.append_assoc]
          rfl
        · rintro _ ⟨⟩
          exact ⟨ids.1, built⟩
        · rintro _ ⟨⟩
          exact none_came
    · rw [asked] at opens
      dsimp only
      cases opens with
      | @opened e _ built sent came =>
        refine ⟨some e, ?_, prepares, ?_, rfl, e, rfl, came⟩
        · rw [Work.pure_run, sent, added, List.append_assoc]
          rfl
        · rintro _ ⟨⟩
          exact ⟨ids.1, built⟩

theorem runStreaming_shaped (messages : List ChatMessage) (o : RunOptions) (detached : Bool)
    (w : HostState) :
    let p := a.runStreaming messages o w
    ∃ threadId setup turns cleanup,
      (a.afterStream true detached p.world).network.log =
          w.network.log ++ (setup ++ turns ++ cleanup) ∧
        a.StreamLog o threadId setup turns cleanup ∧
        Shaped p.items (turns.flatMap a.exchangesAt) := by
  obtain ⟨threadId, setup, first, added, prepares, starts, opens⟩ := a.openStream_log messages o w
  dsimp only
  rw [runStreaming_run]
  rcases opened : a.openStream messages o w with ⟨err | ⟨id, feed⟩, u⟩
  · rw [opened] at added opens
    -- nothing is handed over, and at most the request for the first round was sent
    obtain ⟨cleanup, released, releases⟩ := a.log_cleanup added
    dsimp only at opens ⊢
    rw [afterStream_letGo]
    refine ⟨threadId, setup, first.toList, cleanup, released, ⟨prepares, ?_, ?_, releases⟩, ?_⟩
    · cases first <;> exact starts
    · cases first <;> simp
    · cases first with
      | none => exact .nil
      | some e =>
        rw [Option.toList_some, List.flatMap_singleton, a.exchangesAt_of_refused (opens e rfl)]
        exact .nil
  · rw [opened] at added opens
    obtain ⟨rfl, e, rfl, came⟩ := opens
    obtain ⟨turns, log, submits, shaped⟩ := a.rounds_shaped id false came u
    have all_added : (a.rounds id false feed u).world.network.log =
        w.network.log ++ (setup ++ e :: turns) := by
      rw [log, added, List.append_assoc, List.append_assoc]
      rfl
    obtain ⟨cleanup, released, releases⟩ := a.log_cleanup all_added
    dsimp only
    rw [afterStream_conclude, items_conclude]
    refine ⟨id, setup, e :: turns, cleanup, released, ⟨prepares, ?_, submits, releases⟩, shaped⟩
    exact starts

end PersistentAgent

/-- The stream of either kind of agent has its shape. Its calls are those asked for, in their order,
and what is sent after a round of calls are the results handed over: as messages by a chat agent, and
as outputs by a persistent one, which sends nothing else behind a round but the deletion of its
thread. -/
theorem update_streams_shaped :
    (∀ (σ : Type) (a : ChatAgent σ) (messages : List ChatMessage) (o : RunOptions) (s : σ),
      let p := a.runStreaming messages o (.start s)
      let q := a.recording.runStreaming messages o (.start (s, []))
      let log := q.world.service.2
      (q.stream = p.stream ∧ q.world.service.1 = p.world.service) ∧
        ShapedStream p.stream (log.flatMap a.exchangesOf) ∧
        ((log.flatMap a.exchangesOf).map ToolExchange.call =
          log.flatMap fun e => e.received.calls) ∧
        log.IsChain a.CarriesOn) ∧
    ∀ (a : PersistentAgent) (messages : List ChatMessage) (o : RunOptions) (n : Http.Network)
        (agentId : Option String) (detached : Bool),
      let p := a.runStreaming messages o ⟨n, agentId, none⟩
      ∃ threadId setup turns cleanup,
        (a.afterStream true detached p.world).network.log = n.log ++ (setup ++ turns ++ cleanup) ∧
          a.StreamLog o threadId setup turns cleanup ∧
          ShapedStream p.stream (turns.flatMap a.exchangesAt) ∧
          ((turns.flatMap a.exchangesAt).map fun x => (x.call.id, x.call.name)) =
            (turns.flatMap fun e => e.required).map fun c => (c.id, c.name) := by
  constructor
  · intro σ a messages o s
    obtain ⟨items, result, log, service, -, carries, shaped⟩ := a.runStreaming_recorded messages o s
    dsimp only
    rw [service]
    exact ⟨⟨Progress.stream_congr items result, rfl⟩, Progress.shapedStream shaped,
      ChatAgent.call_exchangesOf log, carries⟩
  · intro a messages o n agentId detached
    obtain ⟨threadId, setup, turns, cleanup, log, sent, shaped⟩ :=
      a.runStreaming_shaped messages o detached ⟨n, agentId, none⟩
    exact ⟨threadId, setup, turns, cleanup, log, sent, Progress.shapedStream shaped,
      a.ids_exchangesAt turns⟩

end ChatAgents
