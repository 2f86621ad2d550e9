import ChatAgents.Proofs.Deeds
import Mathlib.Logic.Relation
set_option autoImplicit false

/-!
# The agent on the service

Overlapping calls share the network and the id of the agent. Whatever order their deeds fall into, the
id is that of the agent whose creation the service has confirmed last, until it confirms the deletion.
Both are read off the log, where a request is known by its method and its path.
-/

namespace ChatAgents

open Http (Exchange Network Response)
open Hosting (IsSegment Operation)

def Http.Exchange.success? (e : Exchange) : Option Response :=
  e.answer.response?.filter fun r => isSuccess r.status

theorem Http.success?_eq (q : Http.Request) (answer : Http.Answer) :
    (⟨q, answer⟩ : Exchange).success? = (outcome q answer.response?).toOption := by
  rw [Exchange.success?]
  cases answer with
  | closed => rfl
  | response r =>
    cases success : isSuccess r.status <;>
      simp [Answer.response?, outcome, Except.toOption, Option.filter, success]

inductive AgentEvent where
  | created (id : String)
  | deleted (id : String)
deriving DecidableEq

namespace AgentEvent

def agent? : AgentEvent → Option String
  | .created id => some id
  | .deleted _ => none

/-- The agent there is after these events, of which the last counts. -/
def agentAfter (initial : Option String) (events : List AgentEvent) : Option String :=
  events.getLast?.elim initial agent?

/-- Agents are created where there is none, and only the agent there is gets deleted. -/
def Alternate : Option String → List AgentEvent → Prop
  | _, [] => True
  | none, .created id :: rest => Alternate (some id) rest
  | some id, .deleted id' :: rest => id' = id ∧ Alternate none rest
  | none, .deleted _ :: _ | some _, .created _ :: _ => False

theorem agentAfter_cons (initial : Option String) (e : AgentEvent) (events : List AgentEvent) :
    agentAfter initial (e :: events) = agentAfter e.agent? events := by
  rw [agentAfter, agentAfter, List.getLast?_cons]
  cases events.getLast? <;> rfl

theorem agentAfter_append (initial : Option String) (events more : List AgentEvent) :
    agentAfter initial (events ++ more) = agentAfter (agentAfter initial events) more := by
  induction events generalizing initial with
  | nil => rfl
  | cons e rest ih => rw [List.cons_append, agentAfter_cons, agentAfter_cons, ih]

def Fits (known : Option String) : AgentEvent → Prop
  | .created _ => known = none
  | .deleted id => known = some id

theorem Alternate.concat {initial : Option String} {events : List AgentEvent} {e : AgentEvent}
    (h : Alternate initial events) (fits : e.Fits (agentAfter initial events)) :
    Alternate initial (events ++ [e]) := by
  induction events generalizing initial with
  | nil =>
    change e.Fits initial at fits
    cases e with
    | created id =>
      obtain rfl : initial = none := fits
      trivial
    | deleted id =>
      obtain rfl : initial = some id := fits
      exact ⟨rfl, trivial⟩
  | cons first rest ih =>
    rw [agentAfter_cons] at fits
    cases first with
    | created id =>
      cases initial with
      | none => exact @ih (some id) h fits
      | some _ => exact h.elim
    | deleted id =>
      cases initial with
      | none => exact h.elim
      | some _ => exact ⟨h.1, @ih none h.2 fits⟩

end AgentEvent

open AgentEvent (agentAfter Alternate)

def agentAt? (base path : List Char) : Option String :=
  let place := base ++ "/assistants/".toList
  if place <+: path then some (String.ofList (path.drop place.length)) else none

/-- What the service confirms with an exchange: the creation of an agent by a success that names it,
its deletion by any success. -/
def Http.Exchange.event? (base : List Char) (e : Exchange) : Option AgentEvent :=
  match e.request.method with
  | .get => none
  | .post =>
    if e.request.url.path = base ++ "/assistants".toList then
      (e.success?.bind fun r => r.read? Hosting.readId?).map .created
    else none
  | .delete =>
    (agentAt? base e.request.url.path).bind fun id => e.success?.map fun _ => .deleted id

def events (base : List Char) (l : List Exchange) : List AgentEvent :=
  l.filterMap (Exchange.event? base)

/-- A request that asks for an agent or deletes one is sent while this agent is known: none if it asks,
and the one in question if it deletes. -/
structure Http.Exchange.Proper (a : PersistentAgent) (base : List Char) (known : Option String)
    (e : Exchange) : Prop where
  creates : e.request.method = .post → e.request.url.path = base ++ "/assistants".toList →
    known = none ∧ e.request.body = some a.definition.toJson
  deletes : ∀ id : String, e.request.method = .delete →
    e.request.url.path = base ++ "/assistants/".toList ++ id.toList → known = some id

theorem agentAt?_eq_some_iff {base path : List Char} {id : String} :
    agentAt? base path = some id ↔ path = base ++ "/assistants/".toList ++ id.toList := by
  rw [agentAt?]
  split <;> rename_i inside
  · obtain ⟨rest, rfl⟩ := inside
    rw [List.drop_left, Option.some.injEq, List.append_cancel_left_eq]
    exact ⟨fun same => by rw [← same, String.toList_ofList],
      fun same => by rw [same, String.ofList_toList]⟩
  · refine ⟨nofun, fun same => absurd ⟨id.toList, same.symm⟩ inside⟩

theorem Http.Exchange.Proper.fits {a : PersistentAgent} {base : List Char} {known : Option String}
    {e : Exchange} {v : AgentEvent} (h : e.Proper a base known) (confirmed : e.event? base = some v) :
    v.Fits known := by
  rw [event?] at confirmed
  cases method : e.request.method with
  | get =>
    rw [method] at confirmed
    cases confirmed
  | post =>
    rw [method] at confirmed
    dsimp only at confirmed
    split at confirmed <;> rename_i path
    · obtain ⟨id, -, rfl⟩ := Option.map_eq_some_iff.1 confirmed
      exact (h.creates method path).1
    · cases confirmed
  | delete =>
    rw [method] at confirmed
    obtain ⟨id, named, answered⟩ := Option.bind_eq_some_iff.1 confirmed
    obtain ⟨r, -, rfl⟩ := Option.map_eq_some_iff.1 answered
    exact h.deletes id method (agentAt?_eq_some_iff.1 named)

section Deeds

variable {a : PersistentAgent} {base : List Char} (place : a.config.IsAt base) {o : Operation}
  {e : Exchange} (built : (o.draft a.config).build = .ok e.request)
include place built

theorem other_exchange (other : o.changesAgent = false) (named : ∀ id ∈ o.ids, IsSegment id)
    (known : Option String) : e.Proper a base known ∧ e.event? base = none := by
  have path := Operation.path_of_build place named built
  have method := (Http.method_body_of_build built).1
  have elsewhere : (o.draft a.config).method ≠ .get →
      ¬ "/assistants".toList <+: Http.pathOf o.segments := by
    cases o with
    | createAgent | deleteAgent => cases other
    | getRun | listMessages => exact fun get => absurd rfl get
    | createThread => exact fun _ => by decide
    | deleteThread | createMessage | createRun | submitOutputs =>
      simp [Operation.segments, Http.pathOf]
  have posted (h : e.request.method = .post) : e.request.url.path ≠ base ++ "/assistants".toList := by
    rw [path]
    intro same
    refine elsewhere (by rw [← method, h]; decide) ?_
    exact (List.append_cancel_left same).symm ▸ List.prefix_rfl
  have deleted (h : e.request.method = .delete) (id : String) :
      e.request.url.path ≠ base ++ "/assistants/".toList ++ id.toList := by
    rw [path, List.append_assoc]
    intro same
    refine elsewhere (by rw [← method, h]; decide) ?_
    rw [List.append_cancel_left same]
    exact ⟨'/' :: id.toList, rfl⟩
  refine ⟨⟨fun post same => absurd same (posted post),
    fun id delete same => absurd same (deleted delete id)⟩, ?_⟩
  rw [Exchange.event?]
  cases sent : e.request.method with
  | get => rfl
  | post => exact if_neg (posted sent)
  | delete =>
    have nobody : agentAt? base e.request.url.path = none :=
      Option.eq_none_iff_forall_ne_some.2 fun id found =>
        deleted sent id (agentAt?_eq_some_iff.1 found)
    dsimp only
    rw [nobody]
    rfl

end Deeds

section Agent

variable {a : PersistentAgent} {base : List Char} (place : a.config.IsAt base) {e : Exchange}
include place

theorem creation_exchange
    (built : ((Operation.createAgent a.definition).draft a.config).build = .ok e.request) :
    e.Proper a base none ∧
      e.event? base = (e.success?.bind fun r => r.read? Hosting.readId?).map .created := by
  obtain ⟨method, body⟩ := Http.method_body_of_build built
  have method : e.request.method = .post := method
  have path : e.request.url.path = base ++ "/assistants".toList :=
    Operation.path_of_build place (o := .createAgent a.definition) nofun built
  refine ⟨⟨fun _ _ => ⟨rfl, body⟩, fun id delete => ?_⟩, ?_⟩
  · cases method.symm.trans delete
  · rw [Exchange.event?, method]
    exact if_pos path

theorem deletion_exchange {id : String} (segment : IsSegment id)
    (built : ((Operation.deleteAgent id).draft a.config).build = .ok e.request) :
    e.Proper a base (some id) ∧ e.event? base = e.success?.map fun _ => .deleted id := by
  have named : ∀ id' ∈ (Operation.deleteAgent id).ids, IsSegment id' := fun id' member => by
    obtain rfl := List.mem_singleton.1 member
    exact segment
  have method : e.request.method = .delete := (Http.method_body_of_build built).1
  have path : e.request.url.path = base ++ "/assistants/".toList ++ id.toList := by
    rw [Operation.path_of_build place named built]
    simp [Operation.segments, Http.pathOf]
  have found : agentAt? base e.request.url.path = some id := agentAt?_eq_some_iff.2 path
  refine ⟨⟨fun post => ?_, fun id' _ path' => ?_⟩, ?_⟩
  · cases method.symm.trans post
  · exact found.symm.trans (agentAt?_eq_some_iff.2 path')
  · rw [Exchange.event?, method]
    dsimp only
    rw [found]
    rfl

end Agent

theorem call_ask_cases {γ : Type} (o : Operation) (reading : Hosting.Reading γ) (c : Hosting.Config)
    (w : HostState) :
    let out := HostState.call (o.ask reading c) w
    out.2.agentId = w.agentId ∧
      ((out.2.network.log = w.network.log ∧ ∃ e, out.1 = .error e) ∨
        ∃ e : Exchange, (o.draft c).build = .ok e.request ∧
          out.2.network.log = w.network.log ++ [e] ∧
          out.1.toOption = e.success?.bind fun r => (reading.of r).toOption) := by
  refine ⟨by rw [HostState.world_call_ask], ?_⟩
  rw [HostState.call_run, Operation.ask, Work.bind_run]
  cases built : (o.draft c).build with
  | error fault =>
    rw [Http.send_unbuilt built]
    exact .inl ⟨rfl, _, rfl⟩
  | ok q =>
    rw [Http.send_built built]
    rcases Http.exchange_cases w.network q with ⟨answer, given, log⟩ | ⟨-, unreached⟩
    · refine .inr ⟨⟨q, answer⟩, rfl, ?_⟩
      rw [Http.success?_eq, given]
      cases Http.outcome q answer.response? with
      | error e => exact ⟨log, rfl⟩
      | ok r =>
        refine ⟨log, ?_⟩
        dsimp only [Except.toOption, Option.bind_some, Work.ofExcept]
        cases reading.of r <;> rfl
    · rw [unreached]
      exact .inl ⟨rfl, _, rfl⟩

/-- From `w` to `u` nothing is sent and the agent stays, or one proper request is sent and the agent
changes as the service confirms. -/
def Affects (a : PersistentAgent) (base : List Char) (w u : HostState) : Prop :=
  (u.network.log = w.network.log ∧ u.agentId = w.agentId) ∨
    ∃ e : Exchange, u.network.log = w.network.log ++ [e] ∧ e.Proper a base w.agentId ∧
      u.agentId = (e.event? base).elim w.agentId AgentEvent.agent?

section Affects

variable {a : PersistentAgent} {base : List Char} (place : a.config.IsAt base) {w : HostState}
include place

theorem affects_ask {γ : Type} {o : Operation} (reading : Hosting.Reading γ)
    (other : o.changesAgent = false) (named : ∀ id ∈ o.ids, IsSegment id) :
    Affects a base w (HostState.call (o.ask reading a.config) w).2 := by
  obtain ⟨same, ⟨log, -⟩ | ⟨e, built, log, -⟩⟩ := call_ask_cases o reading a.config w
  · exact .inl ⟨log, same⟩
  · obtain ⟨proper, unconfirmed⟩ := other_exchange place built other named w.agentId
    exact .inr ⟨e, log, proper, by rw [unconfirmed, same]; rfl⟩

theorem affects_create : Affects a base w (a.create w).2 := by
  cases known : w.agentId with
  | some id =>
    rw [PersistentAgent.create_known known]
    exact .inl ⟨rfl, rfl⟩
  | none =>
    have out := call_ask_cases (.createAgent a.definition) (.record Hosting.readId?) a.config w
    rw [PersistentAgent.create_unknown known, Operation.performFor_eq_ask]
    generalize HostState.call _ w = x at out
    obtain ⟨result, u⟩ := x
    obtain ⟨same, ⟨log, failed, rfl⟩ | ⟨e, built, log, came⟩⟩ := out
    · exact .inl ⟨log, same⟩
    · obtain ⟨proper, confirmed⟩ := creation_exchange place built
      -- a success whose id cannot be read confirms nothing
      have read (r : Response) : ((Hosting.Reading.record Hosting.readId?).of r).toOption =
          r.read? Hosting.readId? := by
        change (r.decode Hosting.readId?).toOption = _
        rw [Response.decode]
        cases r.read? Hosting.readId? <;> rfl
      dsimp only at came
      simp only [read] at came
      rw [← came] at confirmed
      refine .inr ⟨e, ?_, known ▸ proper, ?_⟩
      · rcases result with _ | id <;> exact log
      · rw [confirmed]
        rcases result with _ | id
        · exact same
        · rfl

theorem affects_delete (names : w.Names IsSegment) : Affects a base w (a.delete w) := by
  cases known : w.agentId with
  | none =>
    rw [PersistentAgent.delete_unknown known]
    exact .inl ⟨rfl, rfl⟩
  | some id =>
    have out := call_ask_cases (.deleteAgent id) .nothing a.config w
    rw [PersistentAgent.delete_known known]
    generalize HostState.call _ w = x at out
    obtain ⟨result, u⟩ := x
    obtain ⟨same, ⟨log, failed, rfl⟩ | ⟨e, built, log, came⟩⟩ := out
    · exact .inl ⟨log, same⟩
    · obtain ⟨proper, confirmed⟩ := deletion_exchange place (names.agentId id known) built
      refine .inr ⟨e, ?_, known ▸ proper, ?_⟩
      · rcases result with _ | _ <;> exact log
      · rw [confirmed]
        dsimp only at came
        cases success : e.success? with
        | none =>
          rw [success] at came
          rcases result with _ | _
          · exact same
          · cases came
        | some r =>
          rw [success] at came
          rcases result with _ | _
          · cases came
          · rfl

theorem Deed.affects {β : Type} {d : HostState → β × HostState} (h : Deed a IsSegment d)
    (names : w.Names IsSegment) : Affects a base w (d w).2 := by
  cases h with
  | clock | held | hold | wait => exact .inl ⟨rfl, rfl⟩
  | ask reading other named => exact affects_ask place reading other named
  | create => exact affects_create place
  | delete => exact affects_delete place names

end Affects

structure Task where
  thread : Option String
  rest : HostState → CallResult × HostState

structure Scene where
  network : Network
  agentId : Option String
  tasks : List Task

def Scene.world (s : Scene) (thread : Option String) : HostState := ⟨s.network, s.agentId, thread⟩

theorem Scene.world_eq {s : Scene} {u : HostState} (free : u.thread = none)
    (network : s.network = u.network) (agentId : s.agentId = u.agentId) : s.world none = u := by
  rw [world, network, agentId, ← free]

def Scene.start (a : PersistentAgent) (network : Network) : Scene := ⟨network, a.existing, []⟩

/-- Another call is made, or some task does the deed that its rest begins with and keeps what it then
has to do. -/
inductive Step (a : PersistentAgent) : Scene → Scene → Prop
  | call (s : Scene) (c : AgentCall) :
    Step a s { s with tasks := s.tasks ++ [⟨none, a.perform c⟩] }
  | deed (s : Scene) {before after : List Task} {thread : Option String} {γ : Type}
      {d : HostState → γ × HostState} (k : γ → HostState → CallResult × HostState)
      (first : Deed a IsSegment d)
      (next : ∀ w : HostState, w.remaining ≤ s.network.remaining → w.Names IsSegment →
        Unfolds a IsSegment (d w).2.remaining (k (d w).1))
      (tasks : s.tasks = before ++ ⟨thread, fun w => k (d w).1 (d w).2⟩ :: after) :
      Step a s (
        let w := s.world thread
        let u := (d w).2
        ⟨u.network, u.agentId, before ++ ⟨u.thread, k (d w).1⟩ :: after⟩)

abbrev Reaches (a : PersistentAgent) : Scene → Scene → Prop := Relation.ReflTransGen (Step a)

structure Scene.Named (s : Scene) : Prop where
  network : s.network.Names IsSegment
  agentId : ∀ id, s.agentId = some id → IsSegment id
  threads : ∀ t ∈ s.tasks, ∀ id, t.thread = some id → IsSegment id

/-- After these exchanges the id is that of the last agent confirmed, or the one known from the
beginning, and every request was sent in its time. -/
structure Scene.Accounted (a : PersistentAgent) (base : List Char) (s : Scene) (l : List Exchange) :
    Prop where
  known : s.agentId = agentAfter a.existing (events base l)
  proper : ∀ before e after, l = before ++ e :: after →
    e.Proper a base (agentAfter a.existing (events base before))
  alternate : Alternate a.existing (events base l)

/-- At most one request is sent, and that in its time. The id changes only as the service confirms, so
an agent is forgotten only when its deletion is confirmed. -/
structure Scene.Follows (a : PersistentAgent) (base : List Char) (s s' : Scene) : Prop where
  sent : ∃ l, s'.network.log = s.network.log ++ l ∧ l.length ≤ 1 ∧
    (∀ e ∈ l, e.Proper a base s.agentId) ∧ s'.agentId = agentAfter s.agentId (events base l)
  forgets : ∀ id, s.agentId = some id → s'.agentId ≠ some id →
    ∃ e, s'.network.log = s.network.log ++ [e] ∧ e.event? base = some (.deleted id)

theorem agentAfter_single (base : List Char) (known : Option String) (e : Exchange) :
    agentAfter known (events base [e]) = (e.event? base).elim known AgentEvent.agent? := by
  rw [events]
  cases confirmed : e.event? base with
  | none => rw [List.filterMap_cons_none confirmed]; rfl
  | some v => rw [List.filterMap_cons_some confirmed]; rfl

variable {a : PersistentAgent} {base : List Char} {s s' : Scene}

theorem Scene.Named.world (h : s.Named) {t : Task} (member : t ∈ s.tasks) :
    (s.world t.thread).Names IsSegment :=
  ⟨h.network, h.agentId, h.threads t member⟩

theorem Scene.Named.step (h : s.Named) (step : Step a s s') : s'.Named := by
  cases step with
  | call c =>
    refine ⟨h.network, h.agentId, fun t member => ?_⟩
    rcases List.mem_append.1 member with old | new
    · exact h.threads t old
    · obtain rfl := List.mem_singleton.1 new
      exact nofun
  | @deed before after thread γ d k first next tasks =>
    obtain ⟨network, agentId, held⟩ := first.names (h.world (tasks ▸ List.mem_append_right before
      List.mem_cons_self))
    refine ⟨network, agentId, fun t member => ?_⟩
    rcases List.mem_append.1 member with early | late
    · exact h.threads t (tasks ▸ List.mem_append_left _ early)
    · rcases List.mem_cons.1 late with rfl | late
      · exact held
      · exact h.threads t (tasks ▸ List.mem_append_right _ (List.mem_cons_of_mem _ late))

theorem Scene.Named.reaches (h : s.Named) (reached : Reaches a s s') : s'.Named := by
  induction reached with
  | refl => exact h
  | tail _ step ih => exact ih.step step

theorem Step.cases_sent (place : a.config.IsAt base) (names : s.Named) (h : Step a s s') :
    (s'.network.log = s.network.log ∧ s'.agentId = s.agentId) ∨
      ∃ e, s'.network.log = s.network.log ++ [e] ∧ e.Proper a base s.agentId ∧
        s'.agentId = agentAfter s.agentId (events base [e]) := by
  cases h with
  | call => exact .inl ⟨rfl, rfl⟩
  | @deed before _ thread _ d k first next tasks =>
    have here := names.world (tasks ▸ List.mem_append_right before List.mem_cons_self)
    rcases first.affects place here with same | ⟨e, log, proper, changed⟩
    · exact .inl same
    · exact .inr ⟨e, log, proper, changed.trans (agentAfter_single _ _ _).symm⟩

theorem Step.follows (place : a.config.IsAt base) (names : s.Named) (h : Step a s s') :
    s.Follows a base s' := by
  rcases h.cases_sent place names with ⟨log, same⟩ | ⟨e, log, proper, changed⟩
  · exact ⟨⟨[], by rw [log, List.append_nil], Nat.zero_le 1, nofun, same⟩,
      fun id was is_not => absurd (same.trans was) is_not⟩
  · refine ⟨⟨[e], log, Nat.le_refl 1, List.forall_mem_singleton.2 proper, changed⟩,
      fun id was is_not => ⟨e, log, ?_⟩⟩
    rw [agentAfter_single, was] at changed
    cases confirmed : e.event? base with
    | none =>
      rw [confirmed] at changed
      exact absurd changed is_not
    | some v =>
      have fits := proper.fits confirmed
      rw [was] at fits
      cases v with
      | created _ => cases fits
      | deleted id' =>
        obtain rfl := Option.some.inj fits
        rfl

theorem Scene.Accounted.more {l : List Exchange} {e : Exchange} (h : s.Accounted a base l)
    (proper : e.Proper a base s.agentId)
    (changed : s'.agentId = agentAfter s.agentId (events base [e])) :
    s'.Accounted a base (l ++ [e]) := by
  have all_events : events base (l ++ [e]) = events base l ++ events base [e] :=
    List.filterMap_append
  refine ⟨?_, fun before x after split => ?_, ?_⟩
  · rw [all_events, AgentEvent.agentAfter_append, ← h.known, changed]
  · -- either this is the new request, sent while the id was as accounted for, or one before it
    rcases List.eq_nil_or_concat after with rfl | ⟨rest, last, rfl⟩
    · obtain ⟨rfl, same⟩ := List.append_inj' split rfl
      obtain rfl := List.singleton_inj.1 same
      rwa [← h.known]
    · rw [List.concat_eq_append, ← List.cons_append, ← List.append_assoc] at split
      exact h.proper before x rest (List.append_inj' split rfl).1
  · rw [all_events, events, events]
    cases confirmed : e.event? base with
    | none =>
      rw [List.filterMap_cons_none confirmed]
      exact (List.append_nil _).symm ▸ h.alternate
    | some v =>
      rw [List.filterMap_cons_some confirmed]
      exact h.alternate.concat (h.known ▸ proper.fits confirmed)

section Reached

variable {network : Network} (start : (Scene.start a network).Named)
include start

/-- No call gets stuck: whatever the others have done, it has come to its end or has a next deed. -/
theorem Scene.unfolds_of_reaches (h : Reaches a (Scene.start a network) s) :
    ∀ t ∈ s.tasks, Unfolds a IsSegment s.network.remaining t.rest := by
  induction h with
  | refl => exact nofun
  | @tail s _ reached step ih =>
    have names := start.reaches reached
    cases step with
    | call c =>
      intro t member
      rcases List.mem_append.1 member with old | new
      · exact ih t old
      · obtain rfl := List.mem_singleton.1 new
        exact PersistentAgent.unfolds_perform c
    | @deed before after thread _ d k first next tasks =>
      intro t member
      have here := names.world (tasks ▸ List.mem_append_right before List.mem_cons_self)
      have fewer : (d (s.world thread)).2.network.remaining ≤ s.network.remaining :=
        first.remaining_le (s.world thread)
      rw [tasks] at ih
      rcases List.mem_append.1 member with early | late
      · exact (ih t (List.mem_append_left _ early)).mono fewer
      · rcases List.mem_cons.1 late with rfl | late
        · exact next (s.world thread) (Nat.le_refl _) here
        · exact (ih t (List.mem_append_right _ (List.mem_cons_of_mem _ late))).mono fewer

theorem Scene.accounted_of_reaches (place : a.config.IsAt base)
    (h : Reaches a (Scene.start a network) s) :
    ∃ l, s.network.log = network.log ++ l ∧ s.Accounted a base l := by
  induction h with
  | refl =>
    refine ⟨[], (List.append_nil _).symm, rfl, fun _ _ _ split => ?_, trivial⟩
    simp at split
  | @tail s s' reached step ih =>
    obtain ⟨l, log, accounted⟩ := ih
    rcases step.cases_sent place (start.reaches reached) with
      ⟨same_log, same⟩ | ⟨e, sent, proper, changed⟩
    · exact ⟨l, same_log.trans log, same.trans accounted.known, accounted.proper, accounted.alternate⟩
    · exact ⟨l ++ [e], by rw [sent, log, List.append_assoc], accounted.more proper changed⟩

end Reached

theorem Unfolds.reaches {n : Nat} {x : HostState → CallResult × HostState}
    (h : Unfolds a IsSegment n x) :
    ∀ {s : Scene} {before after : List Task} {thread : Option String}, s.Named →
      s.tasks = before ++ ⟨thread, x⟩ :: after → (s.world thread).remaining ≤ n →
      ∃ s', Reaches a s s' ∧ s'.network = (x (s.world thread)).2.network ∧
        s'.agentId = (x (s.world thread)).2.agentId ∧
        s'.tasks = before ++
          ⟨(x (s.world thread)).2.thread, fun w => ((x (s.world thread)).1, w)⟩ :: after := by
  -- the task moves on alone: each of its deeds is a step that leaves the other tasks as they are
  induction h with
  | done v => exact fun {s _ _ _} _ tasks _ => ⟨s, .refl, rfl, rfl, tasks⟩
  | @deed _ _ d k first next ih =>
    intro s before after thread names tasks few
    let u := (d (s.world thread)).2
    let s₁ : Scene := ⟨u.network, u.agentId, before ++ ⟨u.thread, k (d (s.world thread)).1⟩ :: after⟩
    have here := names.world (tasks ▸ List.mem_append_right before List.mem_cons_self)
    have step : Step a s s₁ :=
      .deed s k first (fun w fewer => next w (Nat.le_trans fewer few)) tasks
    obtain ⟨s', later, network, agentId, ended⟩ :=
      @ih (s.world thread) few here s₁ before after u.thread (names.step step) rfl (Nat.le_refl _)
    exact ⟨s', .head step later, network, agentId, ended⟩

namespace PersistentAgent

def performAll (a : PersistentAgent) :
    List AgentCall → HostState → List CallResult × HostState
  | [], w => ([], w)
  | c :: rest, w =>
    let first := a.perform c w
    let later := performAll a rest first.2
    (first.1 :: later.1, later.2)

theorem thread_perform (c : AgentCall) {w : HostState} (free : w.thread = none) :
    (a.perform c w).2.thread = none := by
  cases c with
  | create =>
    change (a.create w).2.thread = none
    rw [thread_create, free]
  | use use messages o =>
    change (a.operate use messages o w).2.thread = none
    rw [world_operate]
    split
    · rfl
    · exact a.thread_release _
  | delete =>
    change (a.delete w).thread = none
    rw [delete]
    split
    · exact free
    · split <;> exact free
  | runAndDelete messages o => exact a.thread_release _

theorem reaches_performAll (calls : List AgentCall) (s : Scene) (names : s.Named) :
    let out := a.performAll calls (s.world none)
    ∃ s', Reaches a s s' ∧ s'.network = out.2.network ∧ s'.agentId = out.2.agentId ∧
      s'.tasks = s.tasks ++ out.1.map fun r => ⟨none, fun w => (r, w)⟩ := by
  induction calls generalizing s with
  | nil => exact ⟨s, .refl, rfl, rfl, (List.append_nil _).symm⟩
  | cons c rest ih =>
    let s₁ : Scene := { s with tasks := s.tasks ++ [⟨none, a.perform c⟩] }
    have made : s₁.tasks = s.tasks ++ ⟨none, a.perform c⟩ :: [] := rfl
    have called : Step a s s₁ := .call s c
    obtain ⟨s₂, alone, network, agentId, tasks⟩ :=
      (unfolds_perform c).reaches (names.step called) made (Nat.le_refl _)
    have free : (a.perform c (s₁.world none)).2.thread = none := thread_perform c rfl
    obtain ⟨s', later, network', agentId', tasks'⟩ := ih s₂ ((names.step called).reaches alone)
    rw [Scene.world_eq free network agentId] at network' agentId' tasks'
    refine ⟨s', .head called (alone.trans later), network', agentId', tasks'.trans ?_⟩
    rw [tasks, free, List.append_assoc]
    rfl

theorem create_failed {w u : HostState} {e : AgentError} (h : a.create w = (.error e, u)) :
    u.agentId = w.agentId := by
  cases known : w.agentId with
  | some id =>
    rw [create_known known] at h
    cases h
  | none =>
    have same := (call_ask_cases (.createAgent a.definition) (.record Hosting.readId?) a.config w).1
    rw [create_unknown known, Operation.performFor_eq_ask] at h
    generalize HostState.call _ w = x at same h
    rcases x with ⟨_ | id, u'⟩
    · obtain rfl := (Prod.mk.inj h).2
      exact same.trans known
    · cases h

theorem delete_failed {w : HostState} {id : String} {e : RemoteError} (known : w.agentId = some id)
    (h : ((Operation.deleteAgent id).perform a.config w.network).1 = .error e) :
    (a.delete w).agentId = some id := by
  rw [delete, known]
  dsimp only
  rcases deleted : (Operation.deleteAgent id).perform a.config w.network with ⟨_ | _, _⟩
  · rfl
  · rw [deleted] at h
    cases h

theorem runAndDelete_result (messages : List ChatMessage) (o : RunOptions) (w : HostState) :
    (a.runAndDelete messages o w).1 = (a.run messages o w).1 := rfl

/-- However calls overlap, the stored id is that of the agent on the service as far as it has confirmed
anything, and no call gets stuck. Calls made one after the other are one way to overlap. All ids can
stand in a path here: others are put into it all the same, and name something else there. -/
theorem agent_lifecycle (a : PersistentAgent) (network : Network) (base : List Char)
    (place : a.config.IsAt base) (existing : ∀ id, a.existing = some id → IsSegment id)
    (named : network.Names IsSegment) :
    (∀ s, Reaches a (Scene.start a network) s →
      (∃ l, s.network.log = network.log ++ l ∧ s.Accounted a base l) ∧
        (∀ s', Step a s s' → s.Follows a base s') ∧
        ∀ t ∈ s.tasks, Unfolds a IsSegment s.network.remaining t.rest) ∧
      (∀ calls, ∃ s, Reaches a (Scene.start a network) s ∧
        s.network = (a.performAll calls (a.start network)).2.network ∧
        s.agentId = (a.performAll calls (a.start network)).2.agentId ∧
        s.tasks = (a.performAll calls (a.start network)).1.map fun r =>
          ⟨none, fun w => (r, w)⟩) ∧
      (∀ messages o w, (a.runAndDelete messages o w).1 = (a.run messages o w).1) ∧
      (∀ w e u, a.create w = (.error e, u) → u.agentId = w.agentId) ∧
      ∀ w id e, w.agentId = some id →
        ((Operation.deleteAgent id).perform a.config w.network).1 = .error e →
        (a.delete w).agentId = some id := by
  have start : (Scene.start a network).Named := ⟨named, existing, nofun⟩
  refine ⟨fun s reached => ⟨Scene.accounted_of_reaches start place reached, fun _ step => ?_,
      Scene.unfolds_of_reaches start reached⟩,
    fun calls => reaches_performAll calls _ start, runAndDelete_result, fun _ _ _ => create_failed,
    fun _ _ _ => delete_failed⟩
  exact step.follows place (start.reaches reached)

end PersistentAgent

def newcomer : PersistentAgent := { guest 1 with existing := none }

def newcomerNetwork : Network :=
  ⟨.scripted [⟨.response ⟨200, Text.Utf8.encode "\x7b\"id\":\"x\"\x7d", true⟩, 0⟩], [], 0⟩

theorem isAt_guest (n : Nat) : (guest n).config.IsAt "/project".toList := by
  have found : Http.Url.parse? ("https://host/project" ++ "/") = some
      ⟨"https".toList, some ⟨[], [], .name "host".toList, none⟩, "/project/".toList, none, none⟩ := by
    decide +kernel
  exact ⟨_, found, by decide, rfl, rfl, rfl⟩

theorem names_newcomer : newcomerNetwork.Names IsSegment := by
  intro replies link reply member r answer
  obtain rfl := Http.Link.scripted.inj link
  obtain rfl := List.mem_singleton.1 member
  obtain rfl := Http.Answer.response.inj answer
  have name : (⟨200, Text.Utf8.encode "\x7b\"id\":\"x\"\x7d", true⟩ : Response).read?
      Hosting.readId? = some "x" := by decide +kernel
  have no_run : ((⟨200, Text.Utf8.encode "\x7b\"id\":\"x\"\x7d", true⟩ : Response).read?
      Hosting.readRun?).isNone = true := by decide +kernel
  have no_events : (⟨200, Text.Utf8.encode "\x7b\"id\":\"x\"\x7d", true⟩ : Response).feed.events =
      [] := by decide +kernel
  refine ⟨fun id named => ?_, fun run named => ?_, fun run asked => ?_⟩
  · rw [name] at named
    obtain rfl := Option.some.inj named
    decide
  · rw [named] at no_run
    cases no_run
  · rw [Hosting.Round.ofFeed, no_events] at asked
    cases asked

theorem newcomer_is_created_once :
    newcomer.config.IsAt "/project".toList ∧
      (∀ id, newcomer.existing = some id → IsSegment id) ∧ newcomerNetwork.Names IsSegment ∧
      ∃ s, Reaches newcomer (Scene.start newcomer newcomerNetwork) s ∧
        ((∃ l, s.network.log = [] ++ l ∧ s.Accounted newcomer "/project".toList l) ∧
          (∀ s', Step newcomer s s' → s.Follows newcomer "/project".toList s') ∧
          ∀ t ∈ s.tasks, Unfolds newcomer IsSegment s.network.remaining t.rest) ∧
        s.tasks.length = 2 ∧ s.network.log.length = 1 ∧ s.agentId = some "x" := by
  let task : Task := ⟨none, newcomer.perform .create⟩
  let s₁ : Scene := ⟨newcomerNetwork, none, [task]⟩
  let s₂ : Scene := ⟨newcomerNetwork, none, [task, task]⟩
  have start : (Scene.start newcomer newcomerNetwork).Named := ⟨names_newcomer, nofun, nofun⟩
  have both : Reaches newcomer (Scene.start newcomer newcomerNetwork) s₂ :=
    .tail (.single (.call _ .create)) (.call s₁ .create)
  have creates : Unfolds newcomer IsSegment 1 task.rest := PersistentAgent.unfolds_perform .create
  obtain ⟨s₃, first, network, agentId, tasks⟩ :=
    @Unfolds.reaches newcomer 1 _ creates s₂ [] [task] none (start.reaches both) rfl (Nat.le_refl 1)
  have known : s₃.world none = (newcomer.perform .create (s₂.world none)).2 :=
    Scene.world_eq (by decide +kernel) network agentId
  have few : (s₃.world none).remaining ≤ 1 := by
    rw [known]
    decide +kernel
  obtain ⟨s, second, network, agentId, tasks⟩ := @Unfolds.reaches newcomer 1 _ creates s₃ [_] [] none
    (start.reaches (both.trans first)) tasks few
  have reached := (both.trans first).trans second
  refine ⟨isAt_guest 1, nofun, names_newcomer, s, reached,
    (newcomer.agent_lifecycle newcomerNetwork "/project".toList (isAt_guest 1) nofun
      names_newcomer).1 s reached, ?_, ?_, ?_⟩
  · rw [tasks]
    rfl
  · rw [network, known]
    decide +kernel
  · rw [agentId, known]
    decide +kernel

def asker : PersistentAgent :=
  { newcomer with config := Hosting.Config.new "https://host/project?q=" "model" "token" }

theorem log_stray_run :
    ((guest 1).performAll [.use .run [] .default] strayWorld).2.agentId = some "a" ∧
      events "/project".toList
        ((guest 1).performAll [.use .run [] .default] strayWorld).2.network.log =
          [.deleted "a"] := by
  decide +kernel

theorem log_asker :
    (asker.performAll [.create] (asker.start newcomerNetwork)).2.agentId = some "x" ∧
      (asker.performAll [.create] (asker.start newcomerNetwork)).2.network.log.map
        (fun e => (e.request.method, e.request.url.path)) = [(.post, "/project".toList)] := by
  decide +kernel

/-- What names an agent in the path of a request need not concern one: an agent is still known when its
deletion seems confirmed, and one behind a query is known without any confirmation. -/
theorem paths_mislead :
    (∃ known, ((guest 1).performAll [.use .run [] .default] strayWorld).2 = known ∧
        known.agentId = some "a" ∧
        agentAfter (some "a") (events "/project".toList known.network.log) = none) ∧
      ∃ known, (asker.performAll [.create] (asker.start newcomerNetwork)).2 = known ∧
        known.agentId = some "x" ∧ ∀ base, events base known.network.log = [] := by
  obtain ⟨still, deleted⟩ := log_stray_run
  obtain ⟨created, sent⟩ := log_asker
  refine ⟨⟨_, rfl, still, by rw [deleted]; rfl⟩, _, rfl, created, fun base => ?_⟩
  refine List.filterMap_eq_nil_iff.2 fun e member => ?_
  have listed := List.mem_map_of_mem (f := fun e : Exchange =>
    (e.request.method, e.request.url.path)) member
  rw [sent] at listed
  obtain ⟨method, path⟩ := Prod.mk.inj (List.mem_singleton.1 listed)
  have elsewhere : e.request.url.path ≠ base ++ "/assistants".toList := fun same => by
    have long := congrArg List.length (path.symm.trans same)
    rw [List.length_append] at long
    exact absurd long (by simp)
  rw [Http.Exchange.event?, method]
  exact if_neg elsewhere

end ChatAgents
