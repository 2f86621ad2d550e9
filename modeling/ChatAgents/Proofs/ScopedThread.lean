import ChatAgents.Proofs.Transcripts
set_option autoImplicit false

namespace ChatAgents

open Http (Exchange)
open Hosting (Operation Round Run)

/-- The exchange in which the service names a new thread. -/
def Obtains (c : Hosting.Config) (id : String) (e : Exchange) : Prop :=
  (Operation.createThread.draft c).build = .ok e.request ∧
    ∃ r, e.answer = .response r ∧ Http.isSuccess r.status = true ∧
      r.read? Hosting.readId? = some id

def Deletes (e : Exchange) : Prop := e.request.method = .delete

/-- What the agent sends to have a thread deleted. The path names that thread for ids that are segments
of a path, and whatever it then reads as for others. -/
def Deletion (c : Hosting.Config) (id : String) (e : Exchange) : Prop :=
  ((Operation.deleteThread id).draft c).build = .ok e.request

theorem Deletion.deletes {c : Hosting.Config} {id : String} {e : Exchange} (h : Deletion c id e) :
    Deletes e := (Http.method_body_of_build h).1

/-- An exchange that neither deletes anything nor asks for a thread. -/
def Quiet (e : Exchange) : Prop := ¬ Deletes e ∧ e.request.body ≠ some .empty

theorem Quiet.not_obtains {c : Hosting.Config} {id : String} {e : Exchange} (h : Quiet e) :
    ¬ Obtains c id e := by
  rintro ⟨built, -⟩
  exact h.2 (Http.method_body_of_build built).2

theorem obtains_append {c : Hosting.Config} {id : String} (l l' : List Exchange) :
    (∃ e ∈ l ++ l', Obtains c id e) ↔ (∃ e ∈ l, Obtains c id e) ∨ ∃ e ∈ l', Obtains c id e := by
  simp only [List.mem_append, or_and_right, exists_or]

theorem not_obtains_of_quiet {c : Hosting.Config} {id : String} {l : List Exchange}
    (h : ∀ e ∈ l, Quiet e) : ¬ ∃ e ∈ l, Obtains c id e :=
  fun ⟨e, he, obtains⟩ => (h e he).not_obtains obtains

structure Hosting.Operation.Quiet (o : Operation) : Prop where
  method : o.method ≠ .delete
  body : o.body ≠ some .empty

theorem Hosting.Operation.Quiet.exchange {o : Operation} (h : o.Quiet) {c : Hosting.Config}
    (q : Http.Request) (answer : Http.Answer) (built : (o.draft c).build = .ok q) :
    ChatAgents.Quiet ⟨q, answer⟩ := by
  obtain ⟨method, body⟩ := Http.method_body_of_build built
  exact ⟨fun deletes => h.method (method.symm.trans deletes),
    fun empty => h.body (body.symm.trans empty)⟩

theorem quiet_createAgent (d : Hosting.Definition) : (Operation.createAgent d).Quiet := by
  constructor <;>
    simp [Operation.method, Operation.body, Hosting.Definition.toJson, Json.record, Json.empty]

theorem quiet_of_runs {fine : String → Prop} {o : Operation} (h : o.Runs fine) : o.Quiet := by
  cases o with
  | createRun | getRun | listMessages | submitOutputs =>
    constructor <;>
      simp [Operation.method, Operation.body, Hosting.RunRequest.toJson, Hosting.outputsToJson,
        Json.record, Json.empty]
  | createAgent | deleteAgent | createThread | deleteThread | createMessage => exact h.elim

theorem quiet_createMessage (threadId : String) {message : Json} (h : message ≠ .empty) :
    (Operation.createMessage threadId message).Quiet := by
  constructor <;> simp [Operation.method, Operation.body, h]

namespace PersistentAgent

variable (a : PersistentAgent) {w : HostState}

theorem obtains_iff {c : Hosting.Config} {q : Http.Request}
    (built : (Operation.createThread.draft c).build = .ok q) (answer : Http.Answer) (id : String) :
    Obtains c id ⟨q, answer⟩ ↔
      (Http.outcome q answer.response?).bind (·.decode Hosting.readId?) = .ok id := by
  constructor
  · rintro ⟨-, r, rfl, success, read⟩
    simp [Http.Answer.response?, Http.outcome, success, Except.bind, Http.Response.decode, read]
  · intro outcome
    refine ⟨built, ?_⟩
    cases answer with
    | closed => simp [Http.Answer.response?, Http.outcome, Except.bind] at outcome
    | response r =>
      refine ⟨r, rfl, ?_⟩
      cases success : Http.isSuccess r.status with
      | false => simp [Http.Answer.response?, Http.outcome, success, Except.bind] at outcome
      | true =>
        refine ⟨rfl, ?_⟩
        simp only [Http.Answer.response?, Http.outcome, success, if_true, Except.bind,
          Http.Response.decode] at outcome
        cases read : r.read? Hosting.readId? with
        | none => simp [read] at outcome
        | some id' => simpa [read] using outcome

/-- What is known before the thread is released: nothing was deleted, and the thread that is held is
the one that the service named. -/
structure Holding {β : Type} (x : HostState → β × HostState) (w : HostState) (v : β)
    (u : HostState) : Prop where
  run : x w = (v, u)
  added : ∃ l, u.network.log = w.network.log ++ l ∧ (∀ e ∈ l, ¬ Deletes e) ∧
    ∀ id, (∃ e ∈ l, Obtains a.config id e) ↔ u.thread = some id
  settled : ∀ {k : Nat} {w' : HostState}, w.Agree k w' → u.network.log.length ≤ k →
    ∃ u', x w' = (v, u') ∧ u.Agree k u'

variable {a}

theorem Holding.still {β : Type} {x : HostState → β × HostState} {v : β} (free : w.thread = none)
    (h : ∀ u, x u = (v, u)) : a.Holding x w v w := by
  obtain ⟨run, -, settled⟩ : Traces Quiet x w v w := .still h
  refine ⟨run, ⟨[], by rw [List.append_nil], nofun, fun id => ?_⟩, settled⟩
  rw [free]
  exact ⟨fun ⟨_, he, _⟩ => absurd he List.not_mem_nil, nofun⟩

theorem createThread_run (c : Hosting.Config) (w : HostState) :
    ∃ l, (HostState.call (Operation.createThread.performFor Hosting.readId? c) w).2.network.log =
        w.network.log ++ l ∧ (∀ e ∈ l, ¬ Deletes e) ∧
      ∀ id, (∃ e ∈ l, Obtains c id e) ↔
        (HostState.call (Operation.createThread.performFor Hosting.readId? c) w).1 = .ok id := by
  have none_asked {x : Except RemoteError String} {e : RemoteError} (failed : x = .error e)
      (id : String) : (∃ e ∈ ([] : List Exchange), Obtains c id e) ↔
        x.mapError AgentError.remote = .ok id := by
    rw [failed]
    exact ⟨fun ⟨_, he, _⟩ => absurd he List.not_mem_nil, nofun⟩
  rw [HostState.call_run, Operation.performFor, Http.sendFor_run]
  dsimp only
  cases built : (Operation.createThread.draft c).build with
  | error fault =>
    rw [Http.send_unbuilt built]
    exact ⟨[], by rw [List.append_nil], nofun, none_asked rfl⟩
  | ok q =>
    have method : q.method = .post := (Http.method_body_of_build built).1
    rw [Http.send_built built]
    rcases Http.exchange_cases w.network q with ⟨answer, given, log⟩ | ⟨-, unreached⟩
    · refine ⟨[⟨q, answer⟩], log, fun e he => ?_, fun id => ?_⟩
      · obtain rfl := List.mem_singleton.1 he
        intro deletes
        cases method.symm.trans deletes
      · dsimp only
        rw [given]
        have named := obtains_iff built answer id
        cases came : (Http.outcome q answer.response?).bind (·.decode Hosting.readId?) <;>
          simp_all
    · rw [unreached]
      exact ⟨[], by rw [List.append_nil], nofun, none_asked rfl⟩

theorem traced_createThread (c : Hosting.Config) :
    Traced (fun e => ¬ Deletes e)
      (HostState.call (Operation.createThread.performFor Hosting.readId? c)) w := by
  rw [Operation.performFor_eq_ask]
  refine traced_ask fun q answer built deletes => ?_
  cases (Http.method_body_of_build built).1.symm.trans deletes

theorem requestThread_run (a : PersistentAgent) (w : HostState) :
    ∃ v u, Traces (fun e => ¬ Deletes e) a.requestThread w v u ∧
      ∃ l, u.network.log = w.network.log ++ l ∧ (∀ e ∈ l, ¬ Deletes e) ∧
        ∀ id, (∃ e ∈ l, Obtains a.config id e) ↔ ∃ agentId, v = .ok (agentId, id) := by
  obtain ⟨r, u, created⟩ := traced_create (w := w) (quiet_createAgent a.definition).exchange
  obtain ⟨l, log, quiet⟩ := created.added
  have calm := created.mono fun e quiet => quiet.1
  rw [requestThread, Work.bind_eq_andThen]
  cases r with
  | error e =>
    refine ⟨.error e, u, calm.andThen_error, l, log, fun e he => (quiet e he).1, fun id => ?_⟩
    refine ⟨fun obtains => absurd obtains (not_obtains_of_quiet quiet), ?_⟩
    rintro ⟨_, same⟩
    cases same
  | ok agentId =>
    obtain ⟨l', log', undeleted, named⟩ := createThread_run a.config u
    obtain ⟨v, u', called⟩ := traced_createThread (w := u) a.config
    rw [called.run] at log' named
    have none_before (id : String) : (∃ e ∈ l ++ l', Obtains a.config id e) ↔ v = .ok id := by
      rw [← named, obtains_append]
      exact or_iff_right (not_obtains_of_quiet quiet)
    have all_log : u'.network.log = w.network.log ++ (l ++ l') := by
      rw [log', log, List.append_assoc]
    have all_kept : ∀ e ∈ l ++ l', ¬ Deletes e := fun e he =>
      (List.mem_append.1 he).elim (fun h => (quiet e h).1) (undeleted e)
    cases v with
    | error e =>
      refine ⟨.error e, u', calm.andThen_ok ?_, l ++ l', all_log, all_kept, fun id => ?_⟩
      · rw [Work.bind_eq_andThen]
        exact called.andThen_error
      · rw [none_before]
        simp
    | ok id =>
      refine ⟨.ok (agentId, id), u', calm.andThen_ok ?_, l ++ l', all_log, all_kept, fun id => ?_⟩
      · rw [Work.bind_eq_andThen]
        exact called.andThen_ok (.still fun _ => rfl)
      · rw [none_before]
        simp

theorem thread_requestThread (a : PersistentAgent) (w : HostState) :
    (a.requestThread w).2.thread = w.thread := by
  have kept := a.thread_create w
  rw [requestThread, Work.bind_run]
  rcases created : a.create w with ⟨_ | agentId, u⟩ <;> rw [created] at kept
  · exact kept
  · dsimp only
    rw [Work.bind_run, HostState.call_run]
    rcases ((Operation.createThread.performFor Hosting.readId? a.config) u.network).1 with _ | id <;>
      exact kept

theorem openThread_error {e : AgentError} {u : HostState}
    (failed : a.requestThread w = (.error e, u)) : a.openThread w = (.error e, u) := by
  rw [openThread, Work.bind_run, failed]

theorem openThread_ok {ids : String × String} {u : HostState}
    (named : a.requestThread w = (.ok ids, u)) :
    a.openThread w = (.ok ids, { u with thread := some ids.2 }) := by
  rw [openThread, Work.bind_run, named]
  rfl

theorem holding_openThread (a : PersistentAgent) (free : w.thread = none) :
    ∃ v u, a.Holding a.openThread w v u := by
  obtain ⟨v, u, asked, l, log, undeleted, named⟩ := a.requestThread_run w
  cases v with
  | error e =>
    refine ⟨.error e, u, ?_, ⟨l, log, undeleted, fun id => ?_⟩, fun agree early => ?_⟩
    · exact openThread_error asked.run
    · have kept := a.thread_requestThread w
      rw [asked.run] at kept
      rw [named, kept, free]
      simp
    · obtain ⟨u', run', agree'⟩ := asked.settled agree early
      exact ⟨u', openThread_error run', agree'⟩
  | ok ids =>
    refine ⟨.ok ids, { u with thread := some ids.2 }, ?_, ⟨l, log, undeleted, fun id => ?_⟩,
      fun agree early => ?_⟩
    · exact openThread_ok asked.run
    · rw [named]
      constructor
      · rintro ⟨agentId, same⟩
        obtain rfl := Except.ok.inj same
        rfl
      · intro same
        obtain rfl := Option.some.inj same
        exact ⟨ids.1, rfl⟩
    · obtain ⟨u', run', agree'⟩ := asked.settled agree early
      exact ⟨{ u' with thread := some ids.2 }, openThread_ok run', agree'.network, agree'.agentId,
        rfl⟩

theorem Holding.map {β γ : Type} {x : HostState → β × HostState} {v : β} {u : HostState}
    (h : a.Holding x w v u) (g : β → γ) : a.Holding (fun w => (g (x w).1, (x w).2)) w (g v) u := by
  refine ⟨by rw [h.run], h.added, fun agree early => ?_⟩
  obtain ⟨u', run, agree'⟩ := h.settled agree early
  exact ⟨u', by rw [run], agree'⟩

theorem Holding.andThen_error {α β : Type} {x : Work HostState AgentError α}
    {fail : AgentError → β} {f : α → HostState → β × HostState} {e : AgentError} {u : HostState}
    (h : a.Holding x w (.error e) u) : a.Holding (x.andThen fail f) w (fail e) u := by
  refine ⟨by rw [Work.andThen, h.run], h.added, fun agree early => ?_⟩
  obtain ⟨u', run', agree'⟩ := h.settled agree early
  exact ⟨u', by rw [Work.andThen, run'], agree'⟩

theorem Holding.andThen_ok {α β : Type} {x : Work HostState AgentError α} {fail : AgentError → β}
    {f : α → HostState → β × HostState} {v : α} {u : HostState} (h : a.Holding x w (.ok v) u)
    {v' : β} {u' : HostState} (next : Traces Quiet (f v) u v' u') (kept : u'.thread = u.thread) :
    a.Holding (x.andThen fail f) w v' u' := by
  obtain ⟨l, log, undeleted, named⟩ := h.added
  obtain ⟨l', log', quiet⟩ := next.added
  refine ⟨?_, ⟨l ++ l', ?_, ?_, fun id => ?_⟩, fun {k _} agree early => ?_⟩
  · rw [Work.andThen, h.run]
    exact next.run
  · rw [log', log, List.append_assoc]
  · exact fun e he => (List.mem_append.1 he).elim (undeleted e) fun he => (quiet e he).1
  · rw [kept, ← named, obtains_append]
    exact or_iff_left (not_obtains_of_quiet quiet)
  · have before : u.network.log.length ≤ k := by
      rw [log', List.length_append] at early
      exact Nat.le_trans (Nat.le_add_right _ _) early
    obtain ⟨mid, run_mid, agree_mid⟩ := h.settled agree before
    obtain ⟨u'', run', agree'⟩ := next.settled agree_mid early
    refine ⟨u'', ?_, agree'⟩
    rw [Work.andThen, run_mid]
    exact run'

section

variable {β : Type} (told : β → Option RemoteError) {fail : AgentError → β}
  {f : String × String → HostState → β × HostState} (reports : ∀ e, told (fail e) = e.remote?)
  (next : ∀ ids n, Steps a (fun _ => True) Operation.Quiet told n (f ids))
include reports next

theorem steps_filling (messages : List ChatMessage) (ids : String × String) (n : Nat) :
    Steps a (fun _ => True) Operation.Quiet (fun v => told v.1) n
      ((a.putMessages messages ids.2).andThen (fun e => (fail e, false)) fun _ w =>
        (((f ids w).1, true), (f ids w).2)) :=
  steps_putMessages (x := fun w => (((f ids w).1, true), (f ids w).2))
    (fun _ written => quiet_createMessage ids.2 written) reports
    ((next ids n).map (·, true) fun _ => rfl)

theorem thread_inThread (messages : List ChatMessage) {ids : String × String} {u : HostState}
    (opened : a.openThread w = (.ok ids, u)) :
    (a.inThread messages fail f w).2.thread = u.thread := by
  have filling := steps_filling told reports next messages ids u.remaining
  have kept := filling.thread_eq (fun quiet => quiet.body rfl) (Nat.le_refl _) u.names_any
  unfold inThread prepare
  rw [Work.bind_andThen, Work.andThen_ok opened, Work.bind_andThen]
  exact kept

theorem holding_inThread (messages : List ChatMessage) (free : w.thread = none) :
    ∃ v u, a.Holding (a.inThread messages fail f) w v u := by
  rw [inThread, prepare, Work.bind_andThen]
  simp only [Work.bind_andThen]
  obtain ⟨e | ids, u, opened⟩ := a.holding_openThread free
  · exact ⟨(fail e, false), u, opened.andThen_error⟩
  · have filling := steps_filling told reports next messages ids u.remaining
    obtain ⟨v, u', traces⟩ : Traced Quiet _ u :=
      filling.traced (quiet_createAgent _).exchange (fun _ quiet => quiet.exchange) (Nat.le_refl _)
        u.names_any
    have kept := filling.thread_eq (fun quiet => quiet.body rfl) (Nat.le_refl _) u.names_any
    rw [traces.run] at kept
    exact ⟨v, u', opened.andThen_ok traces kept⟩

end

end PersistentAgent
end ChatAgents
