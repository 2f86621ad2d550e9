import ChatAgents.Proofs.HostedSteps
set_option autoImplicit false

namespace ChatAgents

open Http (Draft Exchange Network Reply Request)

/-- The same exchanges took place, and the same replies will be given up to exchange `k`. -/
structure Http.Network.Agree (k : Nat) (n n' : Network) : Prop where
  log : n'.log = n.log
  clock : n'.clock = n.clock
  replies : ∃ rs rs', n.link = .scripted rs ∧ n'.link = .scripted rs' ∧
    rs'.take (k - n.log.length) = rs.take (k - n.log.length)

structure HostState.Agree (k : Nat) (w w' : HostState) : Prop where
  network : w.network.Agree k w'.network
  agentId : w'.agentId = w.agentId
  thread : w'.thread = w.thread

theorem Http.Network.Agree.wait {k : Nat} {n n' : Network} (h : n.Agree k n') (milliseconds : Nat) :
    (n.wait milliseconds).Agree k (n'.wait milliseconds) :=
  ⟨h.log, congrArg (· + milliseconds) h.clock, h.replies⟩

theorem HostState.agree_of_take {replies replies' : List Reply} {n : Nat}
    (alike : replies'.take n = replies.take n) (log : List Exchange) (clock : Nat)
    (agentId thread : Option String) :
    HostState.Agree (log.length + n) ⟨⟨.scripted replies, log, clock⟩, agentId, thread⟩
      ⟨⟨.scripted replies', log, clock⟩, agentId, thread⟩ := by
  refine ⟨⟨rfl, rfl, replies, replies', rfl, rfl, ?_⟩, rfl, rfl⟩
  rwa [Nat.add_sub_cancel_left]

theorem Http.Network.Agree.exchange {k : Nat} {n n' : Network} (h : n.Agree k n') (q : Request)
    (early : n.log.length < k) :
    (n'.exchange q).1 = (n.exchange q).1 ∧ (n.exchange q).2.Agree k (n'.exchange q).2 := by
  obtain ⟨same_log, same_clock, rs, rs', link, link', replies⟩ := h
  rcases n with ⟨_, log, clock⟩
  rcases n' with ⟨_, log', clock'⟩
  obtain rfl := link
  obtain rfl := link'
  obtain rfl : log' = log := same_log
  obtain rfl : clock' = clock := same_clock
  -- at least one reply is left before exchange `k`, and both sides have the same one
  obtain ⟨j, later⟩ : ∃ j, k - log'.length = j + 1 := ⟨k - log'.length - 1, by
    change log'.length < k at early
    omega⟩
  change rs'.take (k - log'.length) = rs.take (k - log'.length) at replies
  rw [later] at replies
  cases rs with
  | nil =>
    obtain rfl := (List.take_eq_nil_iff.1 replies).resolve_left (Nat.succ_ne_zero j)
    exact ⟨rfl, rfl, rfl, [], [], rfl, rfl, rfl⟩
  | cons reply rest =>
    cases rs' with
    | nil => cases replies
    | cons reply' rest' =>
      rw [List.take_succ_cons, List.take_succ_cons] at replies
      obtain rfl := (List.cons.inj replies).1
      refine ⟨rfl, rfl, rfl, rest, rest', rfl, rfl, ?_⟩
      have fewer : k - (log' ++ [(⟨q, reply'.answer⟩ : Exchange)]).length = j := by
        rw [List.length_append, List.length_singleton]
        omega
      change rest'.take (k - (log' ++ [(⟨q, reply'.answer⟩ : Exchange)]).length) =
        rest.take (k - (log' ++ [(⟨q, reply'.answer⟩ : Exchange)]).length)
      rw [fewer]
      exact (List.cons.inj replies).2

/-- From a world, the computation gives a value and adds exchanges of this kind to the log. It does
the same whatever replies come after its last exchange. -/
structure Traces {β : Type} (kind : Exchange → Prop) (x : HostState → β × HostState)
    (w : HostState) (v : β) (u : HostState) : Prop where
  run : x w = (v, u)
  added : ∃ l, u.network.log = w.network.log ++ l ∧ ∀ e ∈ l, kind e
  settled : ∀ {k : Nat} {w' : HostState}, w.Agree k w' → u.network.log.length ≤ k →
    ∃ u', x w' = (v, u') ∧ u.Agree k u'

def Traced {β : Type} (kind : Exchange → Prop) (x : HostState → β × HostState)
    (w : HostState) : Prop :=
  ∃ v u, Traces kind x w v u

namespace Traces

variable {α β : Type} {kind : Exchange → Prop} {w u : HostState}

theorem mono {kind' : Exchange → Prop} {x : HostState → β × HostState} {v : β}
    (h : Traces kind x w v u) (imp : ∀ e, kind e → kind' e) : Traces kind' x w v u := by
  obtain ⟨l, log, kinds⟩ := h.added
  exact ⟨h.run, ⟨l, log, fun e he => imp e (kinds e he)⟩, h.settled⟩

theorem still {x : HostState → β × HostState} {v : β} (h : ∀ u : HostState, x u = (v, u)) :
    Traces kind x w v w :=
  ⟨h w, ⟨[], by rw [List.append_nil], nofun⟩, fun {_ w'} agree _ => ⟨w', h w', agree⟩⟩

theorem andThen_error {x : Work HostState AgentError α} {fail : AgentError → β}
    {f : α → HostState → β × HostState} {e : AgentError} (first : Traces kind x w (.error e) u) :
    Traces kind (x.andThen fail f) w (fail e) u := by
  refine ⟨by rw [Work.andThen, first.run], first.added, fun agree early => ?_⟩
  obtain ⟨u', run', agree'⟩ := first.settled agree early
  exact ⟨u', by rw [Work.andThen, run'], agree'⟩

theorem andThen_ok {x : Work HostState AgentError α} {fail : AgentError → β}
    {f : α → HostState → β × HostState} {v : α} (first : Traces kind x w (.ok v) u)
    {v' : β} {u' : HostState} (second : Traces kind (f v) u v' u') :
    Traces kind (x.andThen fail f) w v' u' := by
  obtain ⟨l, log, kinds⟩ := first.added
  obtain ⟨l', log', kinds'⟩ := second.added
  refine ⟨?_, ⟨l ++ l', ?_, ?_⟩, fun {k _} agree early => ?_⟩
  · rw [Work.andThen, first.run]
    exact second.run
  · rw [log', log, List.append_assoc]
  · intro e he
    exact (List.mem_append.1 he).elim (kinds e) (kinds' e)
  · have before : u.network.log.length ≤ k := by
      rw [log', List.length_append] at early
      exact Nat.le_trans (Nat.le_add_right _ _) early
    obtain ⟨mid, run_mid, agree_mid⟩ := first.settled agree before
    obtain ⟨u'', run', agree'⟩ := second.settled agree_mid early
    refine ⟨u'', ?_, agree'⟩
    rw [Work.andThen, run_mid]
    exact run'

end Traces

namespace Traced

variable {α β : Type} {kind : Exchange → Prop} {w : HostState}

theorem still {x : HostState → β × HostState} (v : β) (h : ∀ u : HostState, x u = (v, u)) :
    Traced kind x w := ⟨v, w, Traces.still h⟩

theorem andThen {x : Work HostState AgentError α} {fail : AgentError → β}
    {f : α → HostState → β × HostState} (first : Traced kind x w)
    (next : ∀ v u, x w = (.ok v, u) → Traced kind (f v) u) :
    Traced kind (x.andThen fail f) w := by
  obtain ⟨e | v, u, first⟩ := first
  · exact ⟨fail e, u, first.andThen_error⟩
  · obtain ⟨v', u', second⟩ := next v u first.run
    exact ⟨v', u', first.andThen_ok second⟩

theorem within {x : HostState → β × HostState} {f : HostState → HostState}
    (h : Traced kind x (f w)) (log : (f w).network.log = w.network.log)
    (agrees : ∀ {k : Nat} {w' : HostState}, w.Agree k w' → (f w).Agree k (f w')) :
    Traced kind (fun w => x (f w)) w := by
  obtain ⟨v, u, later⟩ := h
  obtain ⟨l, added, kinds⟩ := later.added
  exact ⟨v, u, later.run, ⟨l, log ▸ added, kinds⟩, fun agree => later.settled (agrees agree)⟩

end Traced

theorem HostState.Agree.withNetwork {k : Nat} {w w' : HostState} (h : w.Agree k w')
    {n n' : Network} (network : n.Agree k n') :
    HostState.Agree k { w with network := n } { w' with network := n' } :=
  ⟨network, h.agentId, h.thread⟩

theorem traced_send {kind : Exchange → Prop} {d : Draft} {w : HostState}
    (kinds : ∀ q answer, d.build = .ok q → kind ⟨q, answer⟩) :
    Traced kind (HostState.call (Http.send d)) w := by
  cases built : d.build with
  | error fault =>
    refine .still (.error (.remote (.transport fault.message))) fun u => ?_
    rw [HostState.call_run, Http.send_unbuilt built]
    rfl
  | ok q =>
    have run (u : HostState) : HostState.call (Http.send d) u =
        ((Http.outcome q (u.network.exchange q).1).mapError .remote,
          { u with network := (u.network.exchange q).2 }) := by
      rw [HostState.call_run, Http.send_built built]
    refine ⟨_, _, run w, ?_, fun {k w'} agree early => ?_⟩
    · rcases Http.exchange_cases w.network q with ⟨answer, -, log⟩ | ⟨-, same⟩
      · refine ⟨[⟨q, answer⟩], log, fun e he => ?_⟩
        obtain rfl := List.mem_singleton.1 he
        exact kinds q answer built
      · exact ⟨[], by rw [same, List.append_nil], nofun⟩
    · rcases Http.exchange_cases w.network q with ⟨answer, -, log⟩ | ⟨link, -⟩
      · have before : w.network.log.length < k := by
          rw [log, List.length_append, List.length_singleton] at early
          exact early
        obtain ⟨same, network⟩ := agree.network.exchange q before
        exact ⟨_, by rw [run, same], agree.withNetwork network⟩
      · obtain ⟨rs, -, scripted, -⟩ := agree.network.replies
        rw [link] at scripted
        cases scripted

open Hosting (Operation)

variable {kind : Exchange → Prop} {w : HostState}

theorem traced_ask {γ : Type} {o : Operation} {reading : Hosting.Reading γ} {c : Hosting.Config}
    (kinds : ∀ q answer, (o.draft c).build = .ok q → kind ⟨q, answer⟩) :
    Traced kind (HostState.call (o.ask reading c)) w := by
  rw [Operation.ask, HostState.call_bind, Work.bind_eq_andThen]
  exact (traced_send kinds).andThen fun r _ _ =>
    .still ((reading.of r).mapError .remote) fun _ => rfl

theorem traced_create {a : PersistentAgent}
    (kinds : ∀ q answer, ((Operation.createAgent a.definition).draft a.config).build = .ok q →
      kind ⟨q, answer⟩) : Traced kind a.create w := by
  cases known : w.agentId with
  | some id =>
    refine ⟨.ok id, w, PersistentAgent.create_known known, ⟨[], by rw [List.append_nil], nofun⟩, ?_⟩
    exact fun {_ w'} agree _ =>
      ⟨w', PersistentAgent.create_known (agree.agentId.trans known), agree⟩
  | none =>
    obtain ⟨v, u, asked⟩ : Traced kind (HostState.call ((Operation.createAgent a.definition).ask
      (.record Hosting.readId?) a.config)) w := traced_ask kinds
    have run {w' : HostState} (unknown : w'.agentId = none) := PersistentAgent.create_unknown (a := a)
      unknown
    simp only [Operation.performFor_eq_ask] at run
    cases v with
    | error e =>
      refine ⟨.error e, u, by rw [run known, asked.run], asked.added, fun agree early => ?_⟩
      obtain ⟨u', same, agree'⟩ := asked.settled agree early
      exact ⟨u', by rw [run (agree.agentId.trans known), same], agree'⟩
    | ok id =>
      refine ⟨.ok id, { u with agentId := some id }, by rw [run known, asked.run], asked.added,
        fun agree early => ?_⟩
      obtain ⟨u', same, agree'⟩ := asked.settled agree early
      exact ⟨{ u' with agentId := some id }, by rw [run (agree.agentId.trans known), same],
        agree'.network, rfl, agree'.thread⟩

variable {a : PersistentAgent} {fine : String → Prop} {may : Operation → Prop} {β : Type}
  {told : β → Option RemoteError} {n : Nat} {x : HostState → β × HostState}

/-- Steps send what they may, and depend on the answers to that alone. -/
theorem Steps.traced (h : Steps a fine may told n x)
    (creates : ∀ q answer, ((Operation.createAgent a.definition).draft a.config).build = .ok q →
      kind ⟨q, answer⟩)
    (asks : ∀ o, may o → ∀ q answer, (o.draft a.config).build = .ok q → kind ⟨q, answer⟩)
    (few : w.remaining ≤ n) (names : w.Names fine) : Traced kind x w := by
  refine Steps.from_world (P := Traced kind) ?_ ?_ ?_ ?_ ?_ ?_ h few names
  · exact fun v _ _ => .still v fun _ => rfl
  · rintro k w ⟨v, u, later⟩
    refine ⟨v, u, later.run, later.added, fun agree early => ?_⟩
    rw [agree.network.clock]
    exact later.settled agree early
  · exact fun x milliseconds w later => later.within rfl fun agree =>
      agree.withNetwork (agree.network.wait milliseconds)
  · exact fun x id w _ later => later.within rfl fun agree => ⟨agree.network, agree.agentId, rfl⟩
  · exact fun fail f w _ next => (traced_create creates).andThen next
  · exact fun o reading fail f w allowed _ _ next => (traced_ask (asks o allowed)).andThen next

theorem PersistentAgent.thread_create (a : PersistentAgent) (w : HostState) :
    (a.create w).2.thread = w.thread := by
  cases known : w.agentId with
  | some id => rw [create_known known]
  | none =>
    rw [create_unknown known]
    rcases asked : HostState.call
      ((Operation.createAgent a.definition).performFor Hosting.readId? a.config) w with ⟨_ | _, u⟩
    all_goals
      rw [HostState.call_run] at asked
      obtain ⟨-, rfl⟩ := Prod.mk.inj asked
      rfl

theorem Steps.thread_eq (h : Steps a fine may told n x) (closed : ¬ may .createThread)
    (few : w.remaining ≤ n) (names : w.Names fine) : (x w).2.thread = w.thread := by
  refine Steps.from_world (P := fun x w => (x w).2.thread = w.thread) ?_ ?_ ?_ ?_ ?_ ?_ h few names
  · exact fun _ _ _ => rfl
  · exact fun _ _ same => same
  · exact fun _ _ _ same => same
  · exact fun _ _ _ opens => absurd opens closed
  · intro fail f w _ next
    have kept := a.thread_create w
    rw [Work.andThen]
    rcases created : a.create w with ⟨_ | id, u⟩
    · rwa [created] at kept
    · rw [created] at kept
      exact (next id u created).trans kept
  · intro γ o reading fail f w _ _ _ next
    rw [Work.andThen]
    rcases came : HostState.call (o.ask reading a.config) w with ⟨_ | v, u⟩
    · exact (congrArg (·.2.thread) came).symm
    · exact (next v u came).trans (congrArg (·.2.thread) came).symm

end ChatAgents
