import ChatAgents.Proofs.HandlerRuns
import ChatAgents.Proofs.StreamOutcomes
set_option autoImplicit false

namespace ChatAgents

open Http (Draft Exchange Feed Network Request)
open Hosting (Operation RequiredCall Round Run)

namespace Http

/-- Drafts that differ in their bodies at most. -/
inductive Draft.Like : Draft → Draft → Prop
  | same (d : Draft) : Like d d
  | body {d : Draft} (b : Json) (bodied : d.body.isSome = true) : Like d { d with body := some b }

structure Exchange.Like (e e' : Exchange) : Prop where
  request : { e'.request with body := none } = { e.request with body := none }
  answer : e'.answer = e.answer

/-- The same peer with the same replies left, at the same time, after exchanges of this kind. -/
structure Network.Like (n n' : Network) : Prop where
  link : n'.link = n.link
  clock : n'.clock = n.clock
  log : List.Forall₂ Exchange.Like n.log n'.log

theorem Network.Like.refl (n : Network) : n.Like n :=
  ⟨rfl, rfl, List.forall₂_same.2 fun _ _ => ⟨rfl, rfl⟩⟩

theorem Network.Like.wait {n n' : Network} (h : n.Like n') (milliseconds : Nat) :
    (n.wait milliseconds).Like (n'.wait milliseconds) :=
  ⟨h.link, congrArg (· + milliseconds) h.clock, h.log⟩

theorem Network.Like.exchange {n n' : Network} (h : n.Like n') {q q' : Request}
    (same : { q' with body := none } = { q with body := none }) :
    (n'.exchange q').1 = (n.exchange q).1 ∧ (n.exchange q).2.Like (n'.exchange q').2 := by
  obtain ⟨link, clock, log⟩ := h
  rcases n with ⟨_ | _ | ⟨reply, rest⟩, log₁, clock₁⟩ <;> rcases n' with ⟨link₂, log₂, clock₂⟩ <;>
    obtain rfl := link <;> obtain rfl : clock₂ = clock₁ := clock
  · exact ⟨rfl, rfl, rfl, log⟩
  · exact ⟨rfl, rfl, rfl, List.rel_append log (.cons ⟨same, rfl⟩ .nil)⟩
  · exact ⟨rfl, rfl, rfl, List.rel_append log (.cons ⟨same, rfl⟩ .nil)⟩

theorem Draft.Like.build {d d' : Draft} (h : d.Like d') :
    (∃ fault, d.build = .error fault ∧ d'.build = .error fault) ∨
      ∃ q q', d.build = .ok q ∧ d'.build = .ok q' ∧
        { q' with body := none } = { q with body := none } := by
  cases h with
  | same =>
    cases built : d.build with
    | error fault => exact .inl ⟨fault, rfl, rfl⟩
    | ok q => exact .inr ⟨q, q, rfl, rfl, rfl⟩
  | body b bodied =>
    rw [build_withBody d b bodied]
    cases built : d.build with
    | error fault => exact .inl ⟨fault, rfl, rfl⟩
    | ok q => exact .inr ⟨q, _, rfl, rfl, rfl⟩

end Http

/-- From alike worlds, both computations give the same result, and leave alike worlds. -/
def Work.Alike {σ ε α : Type} (like : σ → σ → Prop) (x y : Work σ ε α) : Prop :=
  ∀ ⦃w w' : σ⦄, like w w' → (y w').1 = (x w).1 ∧ like (x w).2 (y w').2

namespace Work.Alike

variable {σ ε α β : Type} {like : σ → σ → Prop}

theorem pure (v : α) : Work.Alike (ε := ε) like (Pure.pure v) (Pure.pure v) :=
  fun _ _ related => ⟨rfl, related⟩

theorem outcomes {x y : Work σ ε α} (h : Work.Alike like x y) {w w' : σ} (related : like w w') :
    (∃ e u u', x w = (.error e, u) ∧ y w' = (.error e, u') ∧ like u u') ∨
      ∃ v u u', x w = (.ok v, u) ∧ y w' = (.ok v, u') ∧ like u u' := by
  obtain ⟨same, later⟩ := h related
  rcases run : x w with ⟨e | v, u⟩ <;> rcases run' : y w' with ⟨result, u'⟩ <;>
    rw [run, run'] at same later <;> obtain rfl := same
  · exact .inl ⟨e, u, u', rfl, rfl, later⟩
  · exact .inr ⟨v, u, u', rfl, rfl, later⟩

theorem bind {x y : Work σ ε α} {f g : α → Work σ ε β} (first : Work.Alike like x y)
    (next : ∀ v, Work.Alike like (f v) (g v)) : Work.Alike like (x >>= f) (y >>= g) := by
  intro w w' related
  rw [Work.bind_run, Work.bind_run]
  rcases first.outcomes related with
    ⟨e, u, u', run, run', later⟩ | ⟨v, u, u', run, run', later⟩ <;> rw [run, run']
  · exact ⟨rfl, later⟩
  · exact next v later

theorem forM {ι : Type} {f : ι → Work σ ε Unit} (each : ∀ i, Work.Alike like (f i) (f i))
    (is : List ι) : Work.Alike like (is.forM f) (is.forM f) := by
  induction is with
  | nil => exact .pure ()
  | cons i rest ih => exact (each i).bind fun _ => ih

theorem closing {x y : Work σ ε α} {close close' : σ → σ} (h : Work.Alike like x y)
    (closes : ∀ ⦃w w'⦄, like w w' → like (close w) (close' w')) :
    Work.Alike like (x.closing close) (y.closing close') :=
  fun _ _ related => ⟨(h related).1, closes (h related).2⟩

end Work.Alike

namespace Http

theorem alike_send {d d' : Draft} (h : d.Like d') : Work.Alike Network.Like (send d) (send d') := by
  intro n n' related
  rcases h.build with ⟨fault, unbuilt, unbuilt'⟩ | ⟨q, q', built, built', same⟩
  · rw [send_unbuilt unbuilt, send_unbuilt unbuilt']
    exact ⟨rfl, related⟩
  · obtain ⟨response, later⟩ := related.exchange same
    have url := congrArg Request.url same
    dsimp only at url
    rw [send_built built, send_built built', response]
    refine ⟨?_, later⟩
    cases (n.exchange q).1 with
    | none => simp only [outcome, url]
    | some r => rfl

theorem alike_sendFor {α : Type} (read : Json → Option α) {d d' : Draft} (h : d.Like d') :
    Work.Alike Network.Like (sendFor read d) (sendFor read d') :=
  (alike_send h).bind fun _ _ _ related => ⟨rfl, related⟩

theorem alike_sendForEvents {d d' : Draft} (h : d.Like d') :
    Work.Alike Network.Like (sendForEvents d) (sendForEvents d') :=
  (alike_send h).bind fun _ => .pure _

end Http

/-- Agents' worlds that remember the same, on alike networks. -/
structure HostState.Like (w w' : HostState) : Prop where
  network : w.network.Like w'.network
  agentId : w'.agentId = w.agentId
  thread : w'.thread = w.thread

theorem HostState.alike_call {α : Type} {x y : Http.Calls RemoteError α}
    (h : Work.Alike Network.Like x y) : Work.Alike HostState.Like (call x) (call y) := by
  intro w w' related
  obtain ⟨same, later⟩ := h related.network
  rw [call_run, call_run, same]
  exact ⟨rfl, later, related.agentId, related.thread⟩

theorem HostState.alike_modify {f : HostState → HostState}
    (h : ∀ ⦃w w'⦄, HostState.Like w w' → HostState.Like (f w) (f w')) :
    Work.Alike (ε := AgentError) HostState.Like (Work.modify f) (Work.modify f) :=
  fun _ _ related => ⟨rfl, h related⟩

namespace PersistentAgent

variable (a : PersistentAgent) (r : Registry)

def withRegistry : PersistentAgent := { a with registry := r }

theorem like_createAgent : ((Operation.createAgent a.definition).draft a.config).Like
    ((Operation.createAgent (a.withRegistry r).definition).draft a.config) := .body _ rfl

theorem like_submitOutputs (threadId : String) (run : Run) (stream : Bool) :
    ((Operation.submitOutputs threadId run.id (a.registry.outputs run.required) stream).draft
      a.config).Like
    ((Operation.submitOutputs threadId run.id (r.outputs run.required) stream).draft a.config) :=
  .body _ rfl

theorem alike_create : Work.Alike HostState.Like a.create (a.withRegistry r).create := by
  intro w w' related
  rw [create, create, Work.bind_run, Work.bind_run]
  simp only [Work.world, related.agentId]
  cases w.agentId with
  | some id => exact ⟨rfl, related⟩
  | none =>
    refine Work.Alike.bind (HostState.alike_call (Http.alike_sendFor _ (a.like_createAgent r)))
      (fun id => ?_) related
    refine (HostState.alike_modify ?_).bind fun _ => .pure id
    exact fun _ _ later => ⟨later.network, rfl, later.thread⟩

theorem alike_startThread (messages : List ChatMessage) : Work.Alike HostState.Like
    (a.startThread messages) ((a.withRegistry r).startThread messages) := by
  refine (HostState.alike_call (Http.alike_sendFor _ (.same _))).bind fun id => ?_
  refine (HostState.alike_modify ?_).bind fun _ => ?_
  · exact fun _ _ later => ⟨later.network, later.agentId, rfl⟩
  · refine (Work.Alike.forM (fun message => HostState.alike_call ?_) _).bind fun _ => .pure id
    exact (Http.alike_send (.same _)).bind fun _ => .pure ()

theorem alike_release {w w' : HostState} (related : w.Like w') :
    (a.release w).Like ((a.withRegistry r).release w') := by
  rw [release, release, related.thread]
  cases w.thread with
  | none => exact related
  | some id =>
    have deleted := (Http.alike_send (.same ((Operation.deleteThread id).draft a.config))).bind
      (fun _ => .pure ()) related.network
    exact ⟨deleted.2, related.agentId, rfl⟩

theorem alike_nextReport (threadId : String) (run : Run) : Work.Alike Network.Like
    (a.nextReport threadId run) ((a.withRegistry r).nextReport threadId run) := by
  intro n n' related
  rw [nextReport, nextReport]
  split
  · exact Http.alike_sendFor _ (a.like_submitOutputs r threadId run false) related
  · exact Http.alike_sendFor _ (.same _) (related.wait _)

/-- On the replies still to come. -/
theorem watch_alike (threadId : String) (started : Nat) (run : Run) {n n' : Network}
    (related : n.Like n') :
    ((a.withRegistry r).watch threadId started run n').1 = (a.watch threadId started run n).1 ∧
      (a.watch threadId started run n).2.Like
        ((a.withRegistry r).watch threadId started run n').2 := by
  induction left : n.remaining using Nat.strongRecOn generalizing run n n' with
  | ind left_now ih =>
    rw [watch, watch, related.clock]
    split
    · exact ⟨rfl, related⟩
    · split
      · exact ⟨rfl, related⟩
      · have bound : (a.withRegistry r).config.runTimeout = a.config.runTimeout := rfl
        rw [bound]
        split
        · exact ⟨rfl, related⟩
        · rcases (a.alike_nextReport r threadId run).outcomes related with
            ⟨err, u, u', report, report', later⟩ | ⟨next, u, u', report, report', later⟩ <;>
            rw [report, report']
          · exact ⟨rfl, later⟩
          · exact ih _ (left ▸ remaining_nextReport_lt report) next later rfl

theorem alike_answer (agentId threadId : String) (o : RunOptions) : Work.Alike HostState.Like
    (a.answer agentId threadId o) ((a.withRegistry r).answer agentId threadId o) := by
  refine (HostState.alike_call (Http.alike_sendFor _ (.same _))).bind fun run => ?_
  refine Work.Alike.bind (HostState.alike_call fun n n' related => ?_) fun run => ?_
  · rw [awaitRun, awaitRun, related.clock]
    exact a.watch_alike r threadId n.clock run related
  · refine (HostState.alike_call (Http.alike_sendFor _ (.same _))).bind fun messages => ?_
    cases Hosting.answer? messages with
    | none => exact fun _ _ related => ⟨rfl, related⟩
    | some response => exact .pure _

theorem alike_run (messages : List ChatMessage) (o : RunOptions) : Work.Alike HostState.Like
    (a.run messages o) ((a.withRegistry r).run messages o) := by
  have releases : ∀ ⦃w w' : HostState⦄, w.Like w' →
      (a.release w).Like ((a.withRegistry r).release w') := fun _ _ => a.alike_release r
  refine Work.Alike.closing ?_ releases
  refine (a.alike_create r).bind fun agentId => (a.alike_startThread r messages).bind fun id => ?_
  exact (a.alike_answer r agentId id o).closing releases

/-- An update without what a tool made of its call. -/
def sansOutcome : Update → Update
  | .toolResult tool _ callId _ => .toolResult tool "" callId false
  | u => u

/-- The same is handed over but for the outcomes of calls, with the same result, in alike worlds. -/
structure AlikeStreams {α : Type} (p p' : Progress Update HostState AgentError α) : Prop where
  items : p'.items.map sansOutcome = p.items.map sansOutcome
  result : p'.result = p.result
  world : p.world.Like p'.world

theorem call_answer (r r' : Registry) (c : RequiredCall) :
    (r'.answer c).call = (r.answer c).call := by
  rw [Registry.answer, Registry.answer]
  cases parseArguments c.name c.arguments <;> rfl

theorem sansOutcome_exchanges (r r' : Registry) (calls : List RequiredCall) :
    ((r'.exchanges calls).flatMap ToolExchange.updates).map sansOutcome =
      ((r.exchanges calls).flatMap ToolExchange.updates).map sansOutcome := by
  induction calls with
  | nil => rfl
  | cons c rest ih =>
    have one : (r'.answer c).updates.map sansOutcome = (r.answer c).updates.map sansOutcome := by
      simp [ToolExchange.updates, sansOutcome, call_answer r r' c]
    simp only [Registry.exchanges, List.map_cons, List.flatMap_cons, List.map_append] at ih ⊢
    rw [one, ih]

theorem items_roundDelivered_sansOutcome (feed : Feed) (w w' : HostState) :
    (((a.withRegistry r).roundDelivered feed w').map (·.1)).map sansOutcome =
      ((a.roundDelivered feed w).map (·.1)).map sansOutcome := by
  rw [map_roundDelivered, map_roundDelivered, roundUpdates, roundUpdates]
  cases (Round.ofFeed feed).ending with
  | action run =>
    dsimp only
    rw [List.map_append, List.map_append]
    exact congrArg _ (sansOutcome_exchanges a.registry r run.required)
  | finished | failed _ => rfl

/-- On the replies still to come. -/
theorem streamRounds_alike (threadId : String) (answered : Bool) (feed : Feed) {w w' : HostState}
    (related : w.Like w') :
    AlikeStreams (a.streamRounds threadId answered feed w)
      ((a.withRegistry r).streamRounds threadId answered feed w') := by
  -- on the replies to the first agent; the second gets its replies in step with it
  induction left : w.remaining using Nat.strongRecOn generalizing answered feed w w' with
  | ind left_now ih =>
    have told := a.items_roundDelivered_sansOutcome r feed w w'
    cases ending : (Round.ofFeed feed).ending with
    | finished =>
      rw [streamRounds_finished ending, streamRounds_finished ending]
      exact ⟨told, rfl, related⟩
    | failed e =>
      rw [streamRounds_failed ending, streamRounds_failed ending]
      exact ⟨told, rfl, related⟩
    | action run =>
      have submit : Work.Alike HostState.Like (a.nextRound threadId run)
          ((a.withRegistry r).nextRound threadId run) :=
        HostState.alike_call (Http.alike_sendForEvents (a.like_submitOutputs r threadId run true))
      rw [streamRounds_action ending, streamRounds_action ending]
      rcases submit.outcomes related with
        ⟨err, u, u', next, next', later⟩ | ⟨feed', u, u', next, next', later⟩ <;> rw [next, next']
      · exact ⟨told, rfl, later⟩
      · have fewer : u.remaining < left_now := left ▸ remaining_nextRound_lt next
        obtain ⟨items, result, world⟩ :=
          ih _ fewer (answered || (Round.ofFeed feed).answered) feed' later rfl
        refine ⟨?_, result, world⟩
        dsimp only
        rw [Progress.items_prepend, Progress.items_prepend, List.map_append, List.map_append, told,
          items]

theorem AlikeStreams.conclude {p p' : Progress Update HostState AgentError Bool}
    (h : AlikeStreams p p') : AlikeStreams (a.conclude p) ((a.withRegistry r).conclude p') := by
  refine ⟨?_, ?_, ?_⟩
  · rw [items_conclude, items_conclude, h.items]
  · rw [result_conclude, result_conclude, h.result]
  · rw [PersistentAgent.conclude, PersistentAgent.conclude, h.result]
    cases p.result with
    | error e => exact h.world
    | ok answered => exact a.alike_release r h.world

theorem alike_openStream (messages : List ChatMessage) (o : RunOptions) :
    Work.Alike HostState.Like (a.openStream messages o)
      ((a.withRegistry r).openStream messages o) := by
  refine (a.alike_create r).bind fun agentId => (a.alike_startThread r messages).bind fun id => ?_
  exact (HostState.alike_call (Http.alike_sendForEvents (.same _))).bind fun _ => .pure _

theorem runStreaming_alike (messages : List ChatMessage) (o : RunOptions) {w w' : HostState}
    (related : w.Like w') :
    AlikeStreams (a.runStreaming messages o w) ((a.withRegistry r).runStreaming messages o w') := by
  rw [runStreaming_run, runStreaming_run]
  rcases (a.alike_openStream r messages o).outcomes related with
    ⟨err, u, u', opened, opened', later⟩ | ⟨⟨threadId, feed⟩, u, u', opened, opened', later⟩ <;>
    rw [opened, opened']
  · exact ⟨rfl, rfl, later⟩
  · exact (a.streamRounds_alike r threadId false feed later).conclude a r

def SubmitsOutputs (threadId : String) (stream : Bool) (run : Run) (q : Request) : Prop :=
  ((Operation.submitOutputs threadId run.id (a.registry.outputs run.required) stream).draft
    a.config).build = .ok q

theorem followUp_of_action {run : Run} (h : run.status = .requiresAction) (threadId : String) :
    a.followUp threadId run =
      .submitOutputs threadId run.id (a.registry.outputs run.required) false := if_pos h

theorem ids_outputs (r : Registry) (calls : List RequiredCall) :
    (r.outputs calls).map Hosting.ToolOutput.callId = calls.map RequiredCall.id := by
  rw [Registry.outputs, Registry.exchanges, List.map_map, List.map_map]
  refine List.map_congr_left fun c _ => ?_
  rw [Function.comp_apply, Function.comp_apply, Registry.answer]
  split <;> rfl

/-- Every call that a run waits for has one output, in its place and under its id: what the handler
says, or the text of the error that kept it from saying it; and a handler runs only on arguments
that can be read and that its schema accepts. A run that is watched and one that is streamed submit
these outputs in the request that follows the report, and only what the service makes of it counts:
with any other tools a run ends in the same way, after the same requests but for their bodies. -/
theorem required_calls_are_answered :
    (∀ calls : List RequiredCall, ∃ answers : List (Hosting.ToolOutput × List HandlerRun),
      List.Forall₂ (fun c x => a.registry.Answers c x.1 x.2) calls answers ∧
        a.registry.outputs calls = answers.map Prod.fst ∧
        (a.registry.outputs calls).map Hosting.ToolOutput.callId = calls.map RequiredCall.id ∧
        a.registry.exchangesBy Tool.recorded calls [] =
          (a.registry.exchanges calls, answers.flatMap Prod.snd) ∧
        a.registry.exchangesBy Tool.handled calls = (pure (a.registry.exchanges calls) : Id _)) ∧
    (∀ threadId started run n,
      let readings := a.elapsed threadId started run n
      let (result, n') := a.watch threadId started run n
      ∃ (looks : List Look) (last : Run) (final : List Exchange),
        looks.map Look.run ++ [last] = run :: looks.map Look.reported ∧
          (∀ l ∈ looks, l.run.status = .requiresAction →
            a.SubmitsOutputs threadId false l.run l.exchange.request) ∧
          a.Settles threadId last (readings looks.length) (n.answerAfter looks.length) result
            final ∧
          n'.log = n.log ++ looks.map Look.exchange ++ final) ∧
    (∀ threadId answered feed w,
      let p := a.streamRounds threadId answered feed w
      ∃ turns last final, a.Unfolds threadId feed w.network turns last ∧
        (∀ t ∈ turns, t.round.ending = .action t.run ∧
          a.SubmitsOutputs threadId true t.run t.exchange.request) ∧
        a.Concludes threadId last (answered = true ∨ ∃ r ∈ allRounds turns last, r.Answers)
          (w.network.answerAfter turns.length) (verdict p.result) final ∧
        p.world.network.log = w.network.log ++ turns.map Turn.exchange ++ final) ∧
    ∀ (r : Registry) (messages : List ChatMessage) (o : RunOptions) (w : HostState),
      ((a.withRegistry r).run messages o w).1 = (a.run messages o w).1 ∧
        HostState.Like (a.run messages o w).2 ((a.withRegistry r).run messages o w).2 ∧
        AlikeStreams (a.runStreaming messages o w)
          ((a.withRegistry r).runStreaming messages o w) := by
  refine ⟨fun calls => ?_, fun threadId started run n => ?_, fun threadId answered feed w => ?_,
    fun r messages o w => ?_⟩
  · obtain ⟨answers, answered, outputs, recorded⟩ := a.registry.exchanges_recorded calls []
    exact ⟨answers, answered, outputs, ids_outputs a.registry calls, recorded,
      a.registry.exchangesBy_handled calls⟩
  · dsimp only
    rw [watch_eq_watchBy]
    obtain ⟨looks, last, final, linked, going, settles, log, -⟩ :=
      watches_watchBy (a.elapsed threadId started run n) run n
    refine ⟨looks, last, final, linked, fun l hl action => ?_, settles, log⟩
    obtain ⟨k, at_k⟩ := List.mem_iff_getElem?.1 hl
    have built := (going k l at_k).served.built
    rwa [a.followUp_of_action action] at built
  · obtain ⟨turns, last, final, unfolds, concludes, -, log⟩ :=
      a.streams_streamRounds threadId answered feed w
    refine ⟨turns, last, final, unfolds, fun t ht => ?_, concludes, log⟩
    obtain ⟨_, goes⟩ := unfolds.goesOn_of_mem ht
    exact ⟨goes.stopped, goes.submitted.built⟩
  · have related : w.Like w := ⟨.refl w.network, rfl, rfl⟩
    obtain ⟨result, world⟩ := a.alike_run r messages o related
    exact ⟨result, world, a.runStreaming_alike r messages o related⟩

end PersistentAgent
end ChatAgents
