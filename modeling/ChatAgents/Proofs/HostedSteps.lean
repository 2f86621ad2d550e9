import ChatAgents.Proofs.Consumers
import ChatAgents.Proofs.Failures
set_option autoImplicit false

/-!
# Steps of a hosted run

What a run does up to the release of its thread, one step after the other: it looks at the clock or
waits, has the agent created, holds on to a thread, asks for something within it, or ends. What holds
of a whole run is shown once for each of these steps.
-/

namespace ChatAgents

open Http (Draft Feed Network Response)
open Hosting (Operation Round Run)

/-- All ids that can be read of a response are fine. -/
structure Http.Response.Names (fine : String → Prop) (r : Response) : Prop where
  id : ∀ id, r.read? Hosting.readId? = some id → fine id
  run : ∀ run, r.read? Hosting.readRun? = some run → fine run.id
  action : ∀ run, (Round.ofFeed r.feed).ending = .action run → fine run.id

def Http.Network.Names (fine : String → Prop) (n : Network) : Prop :=
  ∀ replies, n.link = .scripted replies → ∀ reply ∈ replies, ∀ r, reply.answer = .response r →
    r.Names fine

structure HostState.Names (fine : String → Prop) (w : HostState) : Prop where
  network : w.network.Names fine
  agentId : ∀ id, w.agentId = some id → fine id
  thread : ∀ id, w.thread = some id → fine id

theorem HostState.names_any (w : HostState) : w.Names fun _ => True :=
  ⟨fun _ _ _ _ _ _ => ⟨fun _ _ => trivial, fun _ _ => trivial, fun _ _ => trivial⟩,
    fun _ _ => trivial, fun _ _ => trivial⟩

theorem Http.Response.read?_of_decode {α : Type} {read : Json → Option α} {r : Response} {v : α}
    (h : r.decode read = .ok v) : r.read? read = some v := by
  rw [decode] at h
  cases came : r.read? read with
  | none =>
    rw [came] at h
    cases h
  | some v' =>
    rw [came] at h
    exact congrArg some (Except.ok.inj h)

variable {fine : String → Prop}

theorem Http.Network.Names.exchange {n : Network} (h : n.Names fine) (q : Http.Request) :
    (n.exchange q).2.Names fine := by
  rcases n with ⟨_ | _ | ⟨reply, rest⟩, log, clock⟩
  · exact h
  · exact h
  · intro replies link
    obtain rfl := Http.Link.scripted.inj link
    exact fun reply' member => h _ rfl reply' (List.mem_cons_of_mem reply member)

theorem Http.Network.Names.send {n : Network} (h : n.Names fine) (d : Draft) :
    (Http.send d n).2.Names fine := by
  cases built : d.build with
  | error fault =>
    rw [Http.send_unbuilt built]
    exact h
  | ok q =>
    rw [Http.send_built built]
    exact h.exchange q

theorem Http.Network.Names.response {n n' : Network} {d : Draft} {r : Response} (h : n.Names fine)
    (sent : Http.send d n = (.ok r, n')) : r.Names fine := by
  cases built : d.build with
  | error fault =>
    rw [Http.send_unbuilt built] at sent
    cases sent
  | ok q =>
    rw [Http.send_built built] at sent
    obtain ⟨outcome, -⟩ := Prod.mk.inj sent
    rcases n with ⟨_ | _ | ⟨reply, rest⟩, log, clock⟩
    · cases outcome
    · cases outcome
    · rcases reply with ⟨_ | r', delay⟩
      · cases outcome
      · rw [Http.exchange_cons] at outcome
        cases success : Http.isSuccess r'.status with
        | false => simp [Http.Answer.response?, Http.outcome, success] at outcome
        | true =>
          simp only [Http.Answer.response?, Http.outcome, success, if_true] at outcome
          obtain rfl := Except.ok.inj outcome
          exact h _ rfl _ List.mem_cons_self r' rfl

namespace Hosting

inductive Reading : Type → Type 1
  | nothing : Reading Unit
  | record {γ : Type} (read : Json → Option γ) : Reading γ
  | events : Reading Feed

namespace Reading

def of {γ : Type} : Reading γ → Response → Except RemoteError γ
  | .nothing, _ => .ok ()
  | .record read, r => r.decode read
  | .events, r => .ok r.feed

def isEvents {γ : Type} : Reading γ → Bool
  | .events => true
  | .nothing | .record _ => false

theorem error_of {γ : Type} {reading : Reading γ} {r : Response} {e : RemoteError}
    (h : reading.of r = .error e) : e.statusCode? = none := by
  cases reading with
  | nothing | events => cases h
  | record read =>
    change r.decode read = .error e at h
    rw [Response.decode] at h
    cases came : r.read? read with
    | some v =>
      rw [came] at h
      cases h
    | none =>
      rw [came] at h
      obtain rfl := Except.error.inj h
      rfl

end Reading

namespace Operation

def streams : Operation → Bool
  | .createRun _ _ stream | .submitOutputs _ _ _ stream => stream
  | _ => false

/-- What is sent to have a thread with its messages. -/
def Fills (fine : String → Prop) : Operation → Prop
  | .createThread => True
  | .createMessage threadId message => fine threadId ∧ message ≠ .empty
  | _ => False

/-- What is sent for a run in its thread. -/
def Runs (fine : String → Prop) : Operation → Prop
  | .createRun threadId _ _ => fine threadId
  | .getRun threadId runId | .listMessages threadId runId | .submitOutputs threadId runId _ _ =>
    fine threadId ∧ fine runId
  | _ => False

def ask {γ : Type} (o : Operation) (reading : Reading γ) (c : Config) :
    Http.Calls RemoteError γ := do
  let r ← Http.send (o.draft c)
  Work.ofExcept (reading.of r)

variable (o : Operation) (c : Config)

theorem performFor_eq_ask {γ : Type} (read : Json → Option γ) :
    o.performFor read c = o.ask (.record read) c := rfl

theorem performForEvents_eq_ask : o.performForEvents c = o.ask .events c := rfl

theorem perform_eq_ask : o.perform c = o.ask .nothing c := rfl

end Operation

end Hosting

theorem HostState.call_bind {α β : Type} (x : Http.Calls RemoteError α)
    (f : α → Http.Calls RemoteError β) :
    HostState.call (x >>= f) = HostState.call x >>= fun v => HostState.call (f v) := by
  funext w
  rw [Work.bind_run, HostState.call_run, HostState.call_run, Work.bind_run]
  rcases x w.network with ⟨_ | _, _⟩ <;> rfl

theorem HostState.world_call_ask {γ : Type} (o : Operation) (reading : Hosting.Reading γ)
    (c : Hosting.Config) (w : HostState) :
    (HostState.call (o.ask reading c) w).2 =
      { w with network := (Http.send (o.draft c) w.network).2 } := by
  rw [call_run, Operation.ask, Work.bind_run]
  rcases Http.send (o.draft c) w.network with ⟨_ | _, _⟩ <;> rfl

namespace HostState.Names

variable {w u : HostState}

theorem ask {γ : Type} {o : Operation} {reading : Hosting.Reading γ} {c : Hosting.Config}
    (h : w.Names fine) : (HostState.call (o.ask reading c) w).2.Names fine := by
  rw [world_call_ask]
  exact ⟨h.network.send _, h.agentId, h.thread⟩

theorem asked {γ : Type} {o : Operation} {reading : Hosting.Reading γ} {c : Hosting.Config} {v : γ}
    (h : w.Names fine) (came : HostState.call (o.ask reading c) w = (.ok v, u)) :
    u.Names fine ∧ u.remaining < w.remaining ∧ ∃ r, r.Names fine ∧ reading.of r = .ok v := by
  have names : (HostState.call (o.ask reading c) w).2.Names fine := h.ask
  rw [came] at names
  obtain ⟨network, asked, rfl⟩ := Work.ok_of_within came
  obtain ⟨r, n', sent, read⟩ := Work.ok_of_bind asked
  obtain ⟨value, rfl⟩ : reading.of r = .ok v ∧ n' = network := Prod.mk.inj read
  exact ⟨names, Http.remaining_send_lt sent, r, h.network.response sent, value⟩

variable {a : PersistentAgent}

theorem created {id : String} (h : w.Names fine) (created : a.create w = (.ok id, u)) :
    u.Names fine ∧ u.remaining ≤ w.remaining ∧ fine id := by
  cases known : w.agentId with
  | some id' =>
    rw [PersistentAgent.create_known known] at created
    obtain ⟨same, rfl⟩ := Prod.mk.inj created
    obtain rfl := Except.ok.inj same
    exact ⟨h, Nat.le_refl _, h.agentId _ known⟩
  | none =>
    rw [PersistentAgent.create_unknown known, Operation.performFor_eq_ask] at created
    rcases asked : HostState.call ((Operation.createAgent a.definition).ask
      (.record Hosting.readId?) a.config) w with ⟨_ | id', u'⟩
    · rw [asked] at created
      cases created
    · rw [asked] at created
      obtain ⟨same, rfl⟩ := Prod.mk.inj created
      obtain rfl := Except.ok.inj same
      obtain ⟨names, fewer, r, named, read⟩ := h.asked asked
      have fine_id := named.id _ (Http.Response.read?_of_decode read)
      exact ⟨⟨names.network, fun _ same => Option.some.inj same ▸ fine_id, names.thread⟩,
        Nat.le_of_lt fewer, fine_id⟩

theorem create (h : w.Names fine) : (a.create w).2.Names fine := by
  rcases made : a.create w with ⟨e | id, u⟩
  · cases known : w.agentId with
    | some id =>
      rw [PersistentAgent.create_known known] at made
      cases made
    | none =>
      have names : (HostState.call ((Operation.createAgent a.definition).ask
        (.record Hosting.readId?) a.config) w).2.Names fine := h.ask
      rw [PersistentAgent.create_unknown known, Operation.performFor_eq_ask] at made
      generalize HostState.call _ w = out at names made
      rcases out with ⟨_ | _, _⟩
      · exact (Prod.mk.inj made).2 ▸ names
      · cases made
  · exact (h.created made).1

end HostState.Names

section Steps

variable (a : PersistentAgent) (fine : String → Prop) (may : Operation → Prop)

/-- In a world with at most `n` replies left, and where only fine ids are named, this is done in steps
one after the other. It asks only for what it may, and ends with the first failure, which it reports;
`told` is what its results report. -/
inductive Steps {β : Type} (told : β → Option RemoteError) :
    Nat → (HostState → β × HostState) → Prop
  | done {n : Nat} {v : β} (other : (told v).bind RemoteError.statusCode? = none) :
    Steps told n fun w => (v, w)
  | look {n : Nat} {k : Nat → HostState → β × HostState} (next : ∀ clock, Steps told n (k clock)) :
    Steps told n fun w => k w.network.clock w
  | wait {n : Nat} {x : HostState → β × HostState} (milliseconds : Nat) (next : Steps told n x) :
    Steps told n fun w => x { w with network := w.network.wait milliseconds }
  | hold {n : Nat} {x : HostState → β × HostState} {id : String} (named : fine id)
      (asked : may .createThread) (next : Steps told n x) :
    Steps told n fun w => x { w with thread := some id }
  | create {n : Nat} {fail : AgentError → β} {f : String → HostState → β × HostState}
      (reports : ∀ e, told (fail e) = e.remote?) (next : ∀ id, fine id → Steps told n (f id)) :
    Steps told n (a.create.andThen fail f)
  | ask {n : Nat} {γ : Type} {o : Operation} {reading : Hosting.Reading γ} {fail : AgentError → β}
      {f : γ → HostState → β × HostState} (allowed : may o) (streams : reading.isEvents = o.streams)
      (reports : ∀ e, told (fail e) = e.remote?)
      (next : ∀ r v m, r.Names fine → reading.of r = .ok v → m < n → Steps told m (f v)) :
    Steps told n ((HostState.call (o.ask reading a.config)).andThen fail f)

end Steps

variable {a : PersistentAgent} {may : Operation → Prop} {β γ : Type}
  {told : β → Option RemoteError} {n : Nat}

namespace Steps

theorem mono {m : Nat} {x : HostState → β × HostState} (h : Steps a fine may told n x)
    (le : m ≤ n) : Steps a fine may told m x := by
  induction h with
  | done other => exact .done other
  | look _ ih => exact .look fun clock => ih clock le
  | wait milliseconds _ ih => exact .wait milliseconds (ih le)
  | hold named asked _ ih => exact .hold named asked (ih le)
  | create reports _ ih => exact .create reports fun id named => ih id named le
  | ask allowed streams reports next =>
    exact .ask allowed streams reports fun r v m' named read less =>
      next r v m' named read (Nat.lt_of_lt_of_le less le)

theorem map {told' : γ → Option RemoteError} {x : HostState → β × HostState} (g : β → γ)
    (h : Steps a fine may told n x) (same : ∀ v, told' (g v) = told v) :
    Steps a fine may told' n fun w => (g (x w).1, (x w).2) := by
  induction h with
  | @done _ v other => exact .done (v := g v) (by rwa [same])
  | @look _ k _ ih => exact .look (k := fun clock w => (g (k clock w).1, (k clock w).2)) ih
  | @wait _ x milliseconds _ ih => exact .wait (x := fun w => (g (x w).1, (x w).2)) milliseconds ih
  | @hold _ x _ named asked _ ih =>
    exact .hold (x := fun w => (g (x w).1, (x w).2)) named asked ih
  | create reports _ ih =>
    rw [Work.map_andThen]
    exact .create (fun e => (same _).trans (reports e)) ih
  | ask allowed streams reports _ ih =>
    rw [Work.map_andThen]
    exact .ask allowed streams (fun e => (same _).trans (reports e)) ih

/-- What holds of a computation from a world on if it holds of each step, given that it holds of what
the computation does after it. -/
theorem from_world {P : (HostState → β × HostState) → HostState → Prop}
    (done : ∀ v w, (told v).bind RemoteError.statusCode? = none → P (fun w => (v, w)) w)
    (look : ∀ (k : Nat → HostState → β × HostState) w, P (k w.network.clock) w →
      P (fun w => k w.network.clock w) w)
    (wait : ∀ x milliseconds w, P x { w with network := w.network.wait milliseconds } →
      P (fun w => x { w with network := w.network.wait milliseconds }) w)
    (hold : ∀ x id w, may .createThread → P x { w with thread := some id } →
      P (fun w => x { w with thread := some id }) w)
    (create : ∀ fail f w, (∀ e, told (fail e) = e.remote?) →
      (∀ id u, a.create w = (.ok id, u) → P (f id) u) → P (a.create.andThen fail f) w)
    (ask : ∀ {γ : Type} (o : Operation) (reading : Hosting.Reading γ) fail f w, may o →
      reading.isEvents = o.streams → (∀ e, told (fail e) = e.remote?) →
      (∀ v u, HostState.call (o.ask reading a.config) w = (.ok v, u) → P (f v) u) →
      P ((HostState.call (o.ask reading a.config)).andThen fail f) w)
    {x : HostState → β × HostState} (h : Steps a fine may told n x) {w : HostState}
    (few : w.remaining ≤ n) (names : w.Names fine) : P x w := by
  induction h generalizing w with
  | done other => exact done _ w other
  | look _ ih => exact look _ w (ih w.network.clock few names)
  | @wait _ x milliseconds _ ih =>
    have names' : HostState.Names fine { w with network := w.network.wait milliseconds } :=
      ⟨names.network, names.agentId, names.thread⟩
    exact wait x milliseconds w (ih few names')
  | @hold _ x id named asked _ ih =>
    have names' : HostState.Names fine { w with thread := some id } :=
      ⟨names.network, names.agentId, fun _ same => Option.some.inj same ▸ named⟩
    exact hold x id w asked (ih few names')
  | create reports _ ih =>
    refine create _ _ w reports fun id u created => ?_
    obtain ⟨names', fewer, named⟩ := names.created created
    exact ih id named (Nat.le_trans fewer few) names'
  | ask allowed streams reports _ ih =>
    refine ask _ _ _ _ w allowed streams reports fun v u came => ?_
    obtain ⟨names', fewer, r, named, read⟩ := names.asked came
    exact ih r v u.remaining named read (Nat.lt_of_lt_of_le fewer few) (Nat.le_refl _) names'

end Steps

namespace PersistentAgent

variable (a : PersistentAgent)

def putMessages (messages : List ChatMessage) (threadId : String) : Work HostState AgentError Unit :=
  (messages.filterMap Hosting.messageToJson?).forM fun message =>
    HostState.call ((Operation.createMessage threadId message).perform a.config)

def requestThread : Work HostState AgentError (String × String) := do
  let agentId ← a.create
  let threadId ← HostState.call (Operation.createThread.performFor Hosting.readId? a.config)
  return (agentId, threadId)

def openThread : Work HostState AgentError (String × String) := do
  let ids ← a.requestThread
  Work.modify fun w => { w with thread := some ids.2 }
  return ids

/-- The agent and the thread of a run, with the messages put into it. -/
def prepare (messages : List ChatMessage) : Work HostState AgentError (String × String) := do
  let ids ← a.openThread
  a.putMessages messages ids.2
  return ids

theorem create_startThread {α : Type} (messages : List ChatMessage)
    (f : String → String → Work HostState AgentError α) :
    (do
      let agentId ← a.create
      let threadId ← a.startThread messages
      f agentId threadId) = a.prepare messages >>= fun ids => f ids.1 ids.2 := by
  simp only [prepare, openThread, requestThread, startThread, putMessages, bind_assoc, pure_bind]

theorem openStream_eq_prepare (messages : List ChatMessage) (o : RunOptions) :
    a.openStream messages o = a.prepare messages >>= fun ids => do
      let feed ← HostState.call
        ((Operation.createRun ids.2 (o.runRequest ids.1) true).performForEvents a.config)
      return (ids.2, feed) :=
  a.create_startThread messages fun agentId threadId => do
    let feed ← HostState.call
      ((Operation.createRun threadId (o.runRequest agentId) true).performForEvents a.config)
    return (threadId, feed)

def watching (threadId : String) (started : Nat) (run : Run) : Http.Calls RemoteError Run :=
  a.watch threadId started run

def watchingAt (threadId : String) (started : Nat) (run : Run) (clock : Nat) :
    Work HostState AgentError Run :=
  if run.status = .completed then pure run
  else if run.status.isFailure then Work.fail (.remote run.failure)
  else if a.config.runTimeout ≤ clock - started then Work.fail (.remote a.timedOut)
  else
    HostState.call (a.nextReport threadId run) >>= fun run' =>
      HostState.call (a.watching threadId started run')

theorem call_watching_eq (threadId : String) (started : Nat) (run : Run) :
    HostState.call (a.watching threadId started run) = fun w =>
      a.watchingAt threadId started run w.network.clock w := by
  funext w
  rw [HostState.call_run, watching, watch, watchingAt]
  split
  · rfl
  · split
    · rfl
    · split
      · rfl
      · rw [Work.bind_run, HostState.call_run]
        split <;> rename_i reported <;> rw [reported] <;> rfl

/-- Something done in a thread with its messages, and whether they all got there. -/
def inThread {β : Type} (messages : List ChatMessage) (fail : AgentError → β)
    (f : String × String → HostState → β × HostState) : HostState → (β × Bool) × HostState :=
  (a.prepare messages).andThen (fun e => (fail e, false)) fun ids w =>
    (((f ids w).1, true), (f ids w).2)

theorem inThread_run {β : Type} (messages : List ChatMessage) (fail : AgentError → β)
    (f : String × String → HostState → β × HostState) (w : HostState) :
    a.inThread messages fail f w =
      match a.prepare messages w with
      | (.error e, u) => ((fail e, false), u)
      | (.ok ids, u) => (((f ids u).1, true), (f ids u).2) := by
  unfold inThread Work.andThen
  rcases a.prepare messages w with ⟨_ | _, _⟩ <;> rfl

def runInThread (messages : List ChatMessage) (o : RunOptions) :
    HostState → (Except AgentError AgentResponse × Bool) × HostState :=
  a.inThread messages .error fun ids => a.answer ids.1 ids.2 o

def streamFrom (ids : String × String) (o : RunOptions) (last : Option Nat) :
    HostState → (List Update × Option (Except AgentError Unit)) × HostState :=
  (HostState.call ((Operation.createRun ids.2 (o.runRequest ids.1) true).performForEvents
    a.config)).andThen (fun e => ([], some (.error e))) fun feed w =>
      let s := (a.rounds ids.2 false feed w).seen last
      ((s.1.1, s.1.2.map verdict), s.2)

theorem streamFrom_run (ids : String × String) (o : RunOptions) (last : Option Nat)
    (w : HostState) :
    a.streamFrom ids o last w =
      match HostState.call ((Operation.createRun ids.2 (o.runRequest ids.1) true).performForEvents
        a.config) w with
      | (.error e, u) => (([], some (.error e)), u)
      | (.ok feed, u) =>
        let s := (a.rounds ids.2 false feed u).seen last
        ((s.1.1, s.1.2.map verdict), s.2) := by
  unfold streamFrom Work.andThen
  rcases HostState.call ((Operation.createRun ids.2 (o.runRequest ids.1) true).performForEvents
    a.config) w with ⟨_ | _, _⟩ <;> rfl

def streamInThread (messages : List ChatMessage) (o : RunOptions) (last : Option Nat) :
    HostState → ((List Update × Option (Except AgentError Unit)) × Bool) × HostState :=
  a.inThread messages (fun e => ([], some (.error e))) fun ids => a.streamFrom ids o last

end PersistentAgent

theorem Http.Response.fault_feed (r : Response) :
    r.feed.fault.bind RemoteError.statusCode? = none := by
  rw [feed]
  split <;> rfl

theorem messageToJson?_ne_empty {m : ChatMessage} {v : Json}
    (h : Hosting.messageToJson? m = some v) : v ≠ .empty := by
  obtain ⟨content, -, rfl⟩ := Option.map_eq_some_iff.1 h
  simp [Json.empty]

def seenFailure? {α : Type} (s : List Update × Option (Except AgentError α)) :
    Option RemoteError := s.2.bind (failure? AgentError.remote?)

namespace PersistentAgent

variable {threadId : String} {fail : AgentError → β}

theorem steps_putMessages {messages : List ChatMessage} {x : HostState → β × HostState}
    (fills : ∀ message, message ≠ .empty → may (.createMessage threadId message))
    (reports : ∀ e, told (fail e) = e.remote?) (next : Steps a fine may told n x) :
    Steps a fine may told n ((a.putMessages messages threadId).andThen fail fun _ => x) := by
  have written : ∀ v ∈ messages.filterMap Hosting.messageToJson?, v ≠ .empty := fun v member => by
    obtain ⟨m, -, written⟩ := List.mem_filterMap.1 member
    exact messageToJson?_ne_empty written
  rw [putMessages]
  generalize messages.filterMap Hosting.messageToJson? = documents at written
  induction documents generalizing n with
  | nil => exact next
  | cons v rest ih =>
    change Steps a fine may told n ((HostState.call
      ((Operation.createMessage threadId v).perform a.config) >>= fun _ => rest.forM _).andThen fail
        fun _ => x)
    rw [Work.bind_andThen, Operation.perform_eq_ask]
    refine .ask (fills v (written v List.mem_cons_self)) rfl reports fun r _ m _ _ less => ?_
    exact ih (next.mono (Nat.le_of_lt less)) fun v' member =>
      written v' (List.mem_cons_of_mem v member)

theorem steps_prepare {messages : List ChatMessage}
    {f : String × String → HostState → β × HostState}
    (fills : ∀ o : Operation, o.Fills fine → may o) (reports : ∀ e, told (fail e) = e.remote?)
    (next : ∀ ids : String × String, fine ids.1 → fine ids.2 → Steps a fine may told n (f ids)) :
    Steps a fine may told n ((a.prepare messages).andThen fail f) := by
  simp only [prepare, openThread, requestThread, bind_assoc, pure_bind, Work.bind_andThen]
  refine .create reports fun agentId agent => ?_
  rw [Operation.performFor_eq_ask]
  refine .ask (fills _ trivial) rfl reports fun r threadId m named read less => ?_
  have thread : fine threadId := named.id _ (Http.Response.read?_of_decode read)
  refine .hold (x := (a.putMessages messages threadId).andThen fail fun _ => f (agentId, threadId))
    thread (fills _ trivial) ?_
  exact steps_putMessages (fun _ written => fills _ ⟨thread, written⟩) reports
    ((next (agentId, threadId) agent thread).mono (Nat.le_of_lt less))

theorem steps_prepare_only (messages : List ChatMessage)
    (fills : ∀ o : Operation, o.Fills fine → may o) :
    Steps a fine may (failure? AgentError.remote?) n (a.prepare messages) := by
  have same : a.prepare messages =
      (a.prepare messages).andThen .error fun ids w => (.ok ids, w) :=
    (bind_pure (a.prepare messages)).symm.trans (Work.bind_eq_andThen _ _)
  rw [same]
  exact steps_prepare fills (fun _ => rfl) fun ids _ _ => .done (v := Except.ok ids) rfl

theorem steps_nextReport {run : Run} {f : Run → HostState → β × HostState}
    (runs : ∀ o : Operation, o.Runs fine → may o) (thread : fine threadId) (named : fine run.id)
    (reports : ∀ e, told (fail e) = e.remote?)
    (next : ∀ run' m, fine run'.id → m < n → Steps a fine may told m (f run')) :
    Steps a fine may told n ((HostState.call (a.nextReport threadId run)).andThen fail f) := by
  have asks : (a.followUp threadId run).Runs fine ∧ (a.followUp threadId run).streams = false := by
    unfold followUp
    split <;> exact ⟨⟨thread, named⟩, rfl⟩
  have same : (HostState.call (a.nextReport threadId run)).andThen fail f = fun w =>
      (HostState.call ((a.followUp threadId run).ask (.record Hosting.readRun?) a.config)).andThen
        fail f { w with network := w.network.wait (a.pauseBefore run) } := by
    funext w
    rw [Work.andThen, Work.andThen, HostState.call_run, HostState.call_run, nextReport_eq]
    rfl
  rw [same]
  refine .wait (a.pauseBefore run) (.ask (runs _ asks.1) asks.2.symm reports ?_)
  exact fun r run' m names read less =>
    next run' m (names.run _ (Http.Response.read?_of_decode read)) less

theorem steps_watching {started : Nat} {run : Run} {f : Run → HostState → β × HostState}
    (runs : ∀ o : Operation, o.Runs fine → may o) (thread : fine threadId) (named : fine run.id)
    (reports : ∀ e, told (fail e) = e.remote?)
    (next : ∀ run', fine run'.id → Steps a fine may told n (f run')) :
    Steps a fine may told n ((HostState.call (a.watching threadId started run)).andThen fail f) := by
  -- on the replies still to come: every report uses up one of them
  induction n using Nat.strongRecOn generalizing run with
  | ind n ih =>
    have ends {e : RemoteError} (unstated : e.statusCode? = none) :
        Steps a fine may told n ((Work.fail (.remote e) : Work HostState AgentError Run).andThen
          fail f) := .done (by rw [reports]; exact unstated)
    rw [call_watching_eq]
    refine .look (k := fun clock => (a.watchingAt threadId started run clock).andThen fail f)
      fun clock => ?_
    rw [watchingAt]
    split
    · exact next run named
    · split
      · exact ends rfl
      · split
        · exact ends rfl
        · rw [Work.bind_andThen]
          refine steps_nextReport runs thread named reports fun run' m named' less => ?_
          exact ih m less named' fun run'' named'' => (next run'' named'').mono (Nat.le_of_lt less)

theorem steps_awaitRun {run : Run} {f : Run → HostState → β × HostState}
    (runs : ∀ o : Operation, o.Runs fine → may o) (thread : fine threadId) (named : fine run.id)
    (reports : ∀ e, told (fail e) = e.remote?)
    (next : ∀ run', fine run'.id → Steps a fine may told n (f run')) :
    Steps a fine may told n ((HostState.call (a.awaitRun threadId run)).andThen fail f) :=
  .look (k := fun clock => (HostState.call (a.watching threadId clock run)).andThen fail f)
    fun _ => steps_watching runs thread named reports next

theorem steps_answer {agentId : String} {o : RunOptions}
    (runs : ∀ o : Operation, o.Runs fine → may o) (thread : fine threadId) :
    Steps a fine may (failure? AgentError.remote?) n (a.answer agentId threadId o) := by
  rw [answer, Work.bind_eq_andThen, Operation.performFor_eq_ask]
  refine .ask (runs _ thread) rfl (fun _ => rfl) fun r run m names read less => ?_
  have named : fine run.id := names.run _ (Http.Response.read?_of_decode read)
  rw [Work.bind_eq_andThen]
  refine steps_awaitRun runs thread named (fun _ => rfl) fun run' named' => ?_
  rw [Work.bind_eq_andThen, Operation.performFor_eq_ask]
  refine .ask (runs _ ⟨thread, named'⟩) rfl (fun _ => rfl) fun r messages m _ _ _ => ?_
  cases Hosting.answer? messages with
  | none => exact .done (v := Except.error AgentError.missingFinalResponse) rfl
  | some response => exact .done (v := Except.ok (run'.usage.elim response response.addUsage)) rfl

theorem steps_inThread {messages : List ChatMessage}
    {f : String × String → HostState → β × HostState} (reports : ∀ e, told (fail e) = e.remote?)
    (fills : ∀ o : Operation, o.Fills fine → may o)
    (next : ∀ ids : String × String, fine ids.2 → Steps a fine may told n (f ids)) :
    Steps a fine may (fun v => told v.1) n (a.inThread messages fail f) :=
  steps_prepare fills reports fun ids _ thread => (next ids thread).map (·, true) fun _ => rfl

theorem steps_afterRound {answered : Bool} {feed : Feed} (last : Option Nat)
    (runs : ∀ o : Operation, o.Runs fine → may o) (thread : fine threadId)
    (named : ∀ run, (Round.ofFeed feed).ending = .action run → fine run.id)
    (unstated : feed.fault.bind RemoteError.statusCode? = none)
    (next : ∀ (answered : Bool) (r : Response) m, r.Names fine → m < n →
      Steps a fine may seenFailure? m fun w => (a.rounds threadId answered r.feed w).seen last) :
    Steps a fine may seenFailure? n fun w => (a.afterRound threadId answered feed w).seen last := by
  have ends {r : Except AgentError Bool}
      (other : (seenFailure? ([], some r)).bind RemoteError.statusCode? = none) :
      Steps a fine may seenFailure? n fun w =>
        (⟨[], r, w⟩ : Progress Update HostState AgentError Bool).seen last := by
    simp only [Progress.seen_nil]
    exact .done other
  rw [afterRound]
  cases ending : (Round.ofFeed feed).ending with
  | finished => exact ends rfl
  | failed e => exact ends (Round.ending_ofEvents unstated ending)
  | action run =>
    dsimp only
    rw [seen_lift_bind, nextRound, Operation.performForEvents_eq_ask]
    refine .ask (runs _ ⟨thread, named run ending⟩) rfl (fun _ => rfl)
      fun r feed' m names read less => ?_
    obtain rfl := Except.ok.inj read
    exact next _ r m names less

theorem steps_rounds {answered : Bool} {feed : Feed} (last : Option Nat)
    (runs : ∀ o : Operation, o.Runs fine → may o) (thread : fine threadId)
    (named : ∀ run, (Round.ofFeed feed).ending = .action run → fine run.id)
    (unstated : feed.fault.bind RemoteError.statusCode? = none) :
    Steps a fine may seenFailure? n fun w => (a.rounds threadId answered feed w).seen last := by
  -- on the replies still to come: every round but the first uses up one of them
  induction n using Nat.strongRecOn generalizing answered feed last with
  | ind n ih =>
    by_cases early : ∃ k, last = some k ∧ k < (a.roundUpdates (Round.ofFeed feed)).length
    · obtain ⟨k, rfl, early⟩ := early
      rw [a.seen_rounds_early early]
      exact .done rfl
    · rw [a.seen_rounds_late fun k at_last => Nat.le_of_not_lt fun inside =>
        early ⟨k, at_last, inside⟩]
      let updates := a.roundUpdates (Round.ofFeed feed)
      have after : Steps a fine may seenFailure? n fun w =>
          (a.afterRound threadId answered feed w).seen (last.map (· - updates.length)) :=
        steps_afterRound _ runs thread named unstated fun _ r m names less =>
          ih m less _ names.action r.fault_feed
      refine after.map (fun s => (updates ++ s.1, s.2)) ?_
      exact fun _ => rfl

theorem steps_runInThread (messages : List ChatMessage) (o : RunOptions)
    (fills : ∀ o : Operation, o.Fills fine → may o) (runs : ∀ o : Operation, o.Runs fine → may o) :
    Steps a fine may (fun v => failure? AgentError.remote? v.1) n (a.runInThread messages o) :=
  steps_inThread (fun _ => rfl) fills fun _ thread => steps_answer runs thread

theorem failure?_verdict (r : Except AgentError Bool) :
    failure? AgentError.remote? (verdict r) = failure? AgentError.remote? r := by
  rcases r with e | answered
  · rfl
  · cases answered <;> rfl

theorem steps_streamFrom {ids : String × String} (o : RunOptions) (last : Option Nat)
    (runs : ∀ o : Operation, o.Runs fine → may o) (thread : fine ids.2) :
    Steps a fine may seenFailure? n (a.streamFrom ids o last) := by
  rw [streamFrom, Operation.performForEvents_eq_ask]
  refine .ask (runs _ thread) rfl (fun _ => rfl) fun r feed m names read _ => ?_
  obtain rfl := Except.ok.inj read
  refine (steps_rounds last runs thread names.action r.fault_feed).map
    (fun s => (s.1, s.2.map verdict)) fun s => ?_
  rcases s with ⟨updates, _ | r⟩
  · rfl
  · exact failure?_verdict r

theorem steps_streamInThread (messages : List ChatMessage) (o : RunOptions) (last : Option Nat)
    (fills : ∀ o : Operation, o.Fills fine → may o) (runs : ∀ o : Operation, o.Runs fine → may o) :
    Steps a fine may (fun v => seenFailure? v.1) n (a.streamInThread messages o last) :=
  steps_inThread (fun _ => rfl) fills fun _ thread => steps_streamFrom o last runs thread

end PersistentAgent
end ChatAgents
