import ChatAgents.Proofs.ResourcePaths
import ChatAgents.Proofs.ScopedThread
set_option autoImplicit false

namespace ChatAgents

open Http (Exchange Reply Url)
open Hosting (IsSegment Operation)

/-- What is done with an agent: a run, or a stream that its consumer asks for so many items, or until
it sees the end. Where a detached consumer drops the stream nothing can be sent. -/
inductive Use where
  | run
  | stream (asked : Option Nat) (detached : Bool)
deriving DecidableEq

def Use.detached : Use → Bool
  | .run => false
  | .stream _ detached => detached

def Use.asked : Use → Option Nat
  | .run => none
  | .stream asked _ => asked

inductive Outcome where
  | response (r : Except AgentError AgentResponse)
  | updates (taken : List Update) (ending : Option (Except AgentError Unit))

def Outcome.ofSeen (s : List Update × Option (Except AgentError Unit)) : Outcome := .updates s.1 s.2

/-- Whether the thread is still in the hands of a stream that is dropped with this outcome. -/
def Use.keepsThread (filled : Bool) : Use → Outcome → Bool
  | .stream asked _, .updates taken ending => PersistentAgent.keepsThread filled asked taken ending
  | _, _ => false

namespace PersistentAgent

variable (a : PersistentAgent) {w : HostState}

def operate (use : Use) (messages : List ChatMessage) (o : RunOptions) (w : HostState) :
    Outcome × HostState :=
  match use with
  | .run => (.response (a.run messages o w).1, (a.run messages o w).2)
  | .stream asked detached =>
    let p := a.runStreaming messages o w
    let (taken, ending, u) :=
      match asked with
      | some n => p.takeFrom w n
      | none => (p.items, some p.result, p.world)
    let keeps := keepsThread (a.fillsThread messages w) asked taken ending
    (.updates taken ending, a.afterStream (!keeps) detached u)

/-- The consumer drops a stream that still has its thread in hand, and has nothing to send with. -/
def abandons (use : Use) (messages : List ChatMessage) (w : HostState) (outcome : Outcome) : Bool :=
  use.detached && use.keepsThread (a.fillsThread messages w) outcome

theorem run_eq (messages : List ChatMessage) (o : RunOptions) (w : HostState) :
    a.run messages o w =
      ((a.runInThread messages o w).1.1, a.release (a.runInThread messages o w).2) := by
  have opened := a.create_startThread messages fun agentId threadId =>
    (a.answer agentId threadId o).closing a.release
  rw [run, runHolding, opened, Work.closing, Work.bind_run, runInThread,
    a.inThread_run messages .error fun ids => a.answer ids.1 ids.2 o]
  rcases a.prepare messages w with ⟨_ | ids, u⟩
  · rfl
  · dsimp only [Work.closing]
    rw [release_release]

theorem fillsThread_eq {β : Type} (messages : List ChatMessage) (fail : AgentError → β)
    (f : String × String → HostState → β × HostState) (w : HostState) :
    a.fillsThread messages w = (a.inThread messages fail f w).1.2 := by
  have filled : (a.create >>= fun _ => a.startThread messages) =
      a.prepare messages >>= fun ids => pure ids.2 := by
    rw [← a.create_startThread messages fun _ threadId => pure threadId]
    simp only [bind_pure]
  rw [fillsThread, filled, Work.bind_run, inThread_run]
  rcases a.prepare messages w with ⟨_ | ids, u⟩ <;> rfl

theorem runStreaming_seen (messages : List ChatMessage) (o : RunOptions) (last : Option Nat)
    (letGo detached : Bool) (w : HostState)
    (concluded : ∀ answered, (a.streamInThread messages o last w).1.1.2 =
      some (verdict (.ok answered)) → letGo = true) :
    ((a.runStreaming messages o w).seen last).1 = (a.streamInThread messages o last w).1.1 ∧
      a.afterStream letGo detached ((a.runStreaming messages o w).seen last).2 =
        a.afterStream letGo detached (a.streamInThread messages o last w).2 := by
  rw [runStreaming_run, openStream_eq_prepare, Work.bind_run]
  rw [streamInThread, inThread_run] at concluded ⊢
  generalize a.prepare messages w = prepared at concluded ⊢
  rcases prepared with ⟨e | ids, u⟩
  · simp [Progress.seen_nil]
  · dsimp only at concluded ⊢
    rw [streamFrom_run] at concluded ⊢
    rw [Work.bind_run]
    generalize HostState.call ((Operation.createRun ids.2 (o.runRequest ids.1) true).performForEvents
      a.config) u = opened at concluded ⊢
    rcases opened with ⟨e | feed, u'⟩
    · simp [Progress.seen_nil]
    · refine a.seen_conclude last (a.rounds ids.2 false feed u') detached fun answered seen => ?_
      exact concluded answered (congrArg (Option.map verdict) seen)

theorem keepsThread_verdict (filled : Bool) (asked : Option Nat) (updates : List Update)
    (answered : Bool) : keepsThread filled asked updates (some (verdict (.ok answered))) = false := by
  cases answered <;> cases asked <;> rfl

/-- What is done up to the point where the thread is no longer needed, and whether the messages got
into the thread. -/
def operateInThread (use : Use) (messages : List ChatMessage) (o : RunOptions) (w : HostState) :
    (Outcome × Bool) × HostState :=
  match use with
  | .run =>
    let x := a.runInThread messages o w
    ((.response x.1.1, x.1.2), x.2)
  | .stream none _ =>
    let x := a.streamInThread messages o none w
    ((.ofSeen x.1.1, x.1.2), x.2)
  | .stream (some 0) _ => ((.updates [] none, false), w)
  | .stream (some (n + 1)) _ =>
    let x := a.streamInThread messages o (some n) w
    ((.ofSeen x.1.1, x.1.2), x.2)

theorem keepsThread_operateInThread (use : Use) (messages : List ChatMessage) (o : RunOptions)
    (w : HostState) :
    use.keepsThread (a.fillsThread messages w) (a.operateInThread use messages o w).1.1 =
      use.keepsThread (a.operateInThread use messages o w).1.2
        (a.operateInThread use messages o w).1.1 := by
  match use with
  | .run => rfl
  | .stream (some 0) _ => rfl
  | .stream none _ | .stream (some (n + 1)) _ =>
    rw [a.fillsThread_eq messages (fun e => ([], some (.error e))) fun ids => a.streamFrom ids o _]
    rfl

theorem afterStream_seen (messages : List ChatMessage) (o : RunOptions) (asked last : Option Nat)
    (detached : Bool) (w : HostState) :
    let s := (a.runStreaming messages o w).seen last
    let x := a.streamInThread messages o last w
    let keeps := fun seen : List Update × Option (Except AgentError Unit) =>
      keepsThread (a.fillsThread messages w) asked seen.1 seen.2
    (Outcome.ofSeen s.1, a.afterStream (!keeps s.1) detached s.2) =
      (Outcome.ofSeen x.1.1, a.afterStream (!keeps x.1.1) detached x.2) := by
  intro s x keeps
  obtain ⟨seen, after⟩ := a.runStreaming_seen messages o last (!keeps x.1.1) detached w
    fun answered ended => by
      dsimp only [keeps, x]
      rw [ended, keepsThread_verdict, Bool.not_false]
  dsimp only [s]
  rw [seen, after]

theorem operate_eq (use : Use) (messages : List ChatMessage) (o : RunOptions) (w : HostState) :
    a.operate use messages o w =
      let x := a.operateInThread use messages o w
      (x.1.1, a.afterStream (!use.keepsThread x.1.2 x.1.1) use.detached x.2) := by
  dsimp only
  rw [← keepsThread_operateInThread]
  match use with
  | .run =>
    rw [operate, run_eq]
    exact congrArg (Outcome.response _, ·) (a.afterStream_letGo false _).symm
  | .stream none detached => exact a.afterStream_seen messages o none none detached w
  | .stream (some 0) detached => rfl
  | .stream (some (n + 1)) detached =>
    rw [operate, Progress.takeFrom_succ]
    exact a.afterStream_seen messages o (some (n + 1)) (some n) detached w

theorem holding_runInThread (messages : List ChatMessage) (o : RunOptions)
    (free : w.thread = none) : ∃ v u, a.Holding (a.runInThread messages o) w v u := by
  refine holding_inThread (failure? AgentError.remote?) ?_ (fun _ _ => ?_) messages free
  · exact fun _ => rfl
  · exact steps_answer (fun _ => quiet_of_runs) trivial

theorem holding_streamInThread (messages : List ChatMessage) (o : RunOptions) (last : Option Nat)
    (free : w.thread = none) : ∃ v u, a.Holding (a.streamInThread messages o last) w v u := by
  refine holding_inThread seenFailure? ?_ (fun _ _ => ?_) messages free
  · exact fun _ => rfl
  · exact steps_streamFrom o last (fun _ => quiet_of_runs) trivial

theorem holding_operateInThread (use : Use) (messages : List ChatMessage) (o : RunOptions)
    (free : w.thread = none) : ∃ v u, a.Holding (a.operateInThread use messages o) w v u := by
  match use with
  | .run =>
    obtain ⟨v, u, held⟩ := a.holding_runInThread messages o free
    exact ⟨_, u, held.map fun v => (Outcome.response v.1, v.2)⟩
  | .stream none _ =>
    obtain ⟨v, u, held⟩ := a.holding_streamInThread messages o none free
    exact ⟨_, u, held.map fun v => (Outcome.ofSeen v.1, v.2)⟩
  | .stream (some 0) _ => exact ⟨_, w, Holding.still free fun _ => rfl⟩
  | .stream (some (n + 1)) _ =>
    obtain ⟨v, u, held⟩ := a.holding_streamInThread messages o (some n) free
    exact ⟨_, u, held.map fun v => (Outcome.ofSeen v.1, v.2)⟩

theorem network_release {id : String} (held : w.thread = some id) :
    (a.release w).network =
      (Http.send ((Operation.deleteThread id).draft a.config) w.network).2 := by
  rw [release, held]
  dsimp only
  rw [Operation.perform, Work.bind_run]
  rcases Http.send ((Operation.deleteThread id).draft a.config) w.network with ⟨_ | _, _⟩ <;> rfl

theorem release_free (h : w.thread = none) : a.release w = w := by
  rw [release, h]

theorem log_release {id : String} (held : w.thread = some id) :
    (∃ last, Deletion a.config id last ∧ (a.release w).network.log = w.network.log ++ [last]) ∨
      (w.network.link = .unreachable ∨
        ∃ fault, ((Operation.deleteThread id).draft a.config).build = .error fault) ∧
      (a.release w).network.log = w.network.log := by
  rw [a.network_release held]
  cases built : ((Operation.deleteThread id).draft a.config).build with
  | error fault =>
    rw [Http.send_unbuilt built]
    exact .inr ⟨.inr ⟨fault, rfl⟩, rfl⟩
  | ok q =>
    rw [Http.send_built built]
    rcases Http.exchange_cases w.network q with ⟨answer, -, log⟩ | ⟨unreachable, unreached⟩
    · exact .inl ⟨⟨q, answer⟩, built, log⟩
    · rw [unreached]
      exact .inr ⟨.inl unreachable, rfl⟩

theorem sends_release (u : HostState) :
    (a.release u).network.log = u.network.log ∨
      ∃ id last, u.thread = some id ∧ Deletion a.config id last ∧
        (a.release u).network.log = u.network.log ++ [last] := by
  cases held : u.thread with
  | none => exact .inl (by rw [a.release_free held])
  | some id =>
    rcases a.log_release held with ⟨last, deletion, sent⟩ | ⟨-, unsent⟩
    · exact .inr ⟨id, last, rfl, deletion, sent⟩
    · exact .inl unsent

theorem mem_log_release {u : HostState} {e : Exchange} (h : e ∈ u.network.log) :
    e ∈ (a.release u).network.log := by
  rcases a.sends_release u with same | ⟨_, last, -, -, more⟩
  · rwa [same]
  · rw [more]
    exact List.mem_append_left [last] h

/-- The thread that the service named in an exchange is deleted, unless the address gets too long. -/
theorem log_release_obtained {id : String} {e : Exchange} {replies : List Reply}
    (held : w.thread = some id) (obtains : Obtains a.config id e)
    (peer : w.network.link = .scripted replies) :
    (∃ last, Deletion a.config id last ∧ (a.release w).network.log = w.network.log ++ [last]) ∨
      ∃ text, ((Operation.deleteThread id).draft a.config).build = .error (.unsendable text) ∧
        Http.Url.maxLength < text.utf8ByteSize ∧ (a.release w).network.log = w.network.log := by
  rcases a.log_release held with deleted | ⟨unreachable | ⟨fault, unbuilt⟩, unsent⟩
  · exact .inl deleted
  · rw [peer] at unreachable
    cases unreachable
  · -- the request for the thread could be built, so only the length can be wrong with this one
    rcases Hosting.deleteThread_build obtains.1 id with ⟨q, built⟩ | ⟨text, too_long, length⟩
    · rw [built] at unbuilt
      cases unbuilt
    · exact .inr ⟨text, too_long, length, unsent⟩

/-- The release deletes the one thread that was named before, unless there is none or its address gets
too long. -/
theorem release_named {u : HostState} {log l : List Exchange} {replies : List Reply}
    (added : u.network.log = log ++ l)
    (named : ∀ id, (∃ e ∈ l, Obtains a.config id e) ↔ u.thread = some id)
    (peer : u.network.link = .scripted replies) :
    ∃ l', (a.release u).network.log = log ++ l' ∧
      ((l' = l ∧ ∀ e ∈ l, ∀ id, Obtains a.config id e →
          ∃ text, ((Operation.deleteThread id).draft a.config).build = .error (.unsendable text) ∧
            Http.Url.maxLength < text.utf8ByteSize) ∨
        ∃ id last, l' = l ++ [last] ∧ u.thread = some id ∧ Deletion a.config id last ∧
          ∀ e ∈ l', ∀ id', Obtains a.config id' e → id' = id) := by
  cases holds : u.thread with
  | none =>
    refine ⟨l, by rw [a.release_free holds, added], .inl ⟨rfl, fun e he id obtains => ?_⟩⟩
    have held := (named id).1 ⟨e, he, obtains⟩
    rw [holds] at held
    cases held
  | some id =>
    obtain ⟨e, he, obtains⟩ := (named id).2 holds
    have same_thread {e : Exchange} {id' : String} (he : e ∈ l) (obtains : Obtains a.config id' e) :
        id' = id := by
      have held := (named id').1 ⟨e, he, obtains⟩
      rw [holds] at held
      exact (Option.some.inj held).symm
    rcases a.log_release_obtained holds obtains peer with
      ⟨last, deletion, sent⟩ | ⟨text, too_long, length, unsent⟩
    · refine ⟨l ++ [last], by rw [sent, added, List.append_assoc],
        .inr ⟨id, last, rfl, rfl, deletion, fun e he id' obtains => ?_⟩⟩
      rcases List.mem_append.1 he with he | he
      · exact same_thread he obtains
      · obtain rfl := List.mem_singleton.1 he
        cases (Http.method_body_of_build obtains.1).1.symm.trans deletion.deletes
    · refine ⟨l, by rw [unsent, added], .inl ⟨rfl, fun e he id' obtains => ?_⟩⟩
      obtain rfl := same_thread he obtains
      exact ⟨text, too_long, length⟩

theorem thread_release (w : HostState) : (a.release w).thread = none := by
  rw [release]
  split <;> rename_i held
  · exact held
  · rfl

theorem operateInThread_unasked {use : Use} (h : use.asked = some 0) (messages : List ChatMessage)
    (o : RunOptions) (w : HostState) : (a.operateInThread use messages o w).2 = w := by
  cases use with
  | run => cases h
  | stream asked detached =>
    obtain rfl : asked = some 0 := h
    rfl

theorem world_operate (use : Use) (messages : List ChatMessage) (o : RunOptions) (w : HostState) :
    (a.operate use messages o w).2 =
      if a.abandons use messages w (a.operate use messages o w).1 then
        (a.operateInThread use messages o w).2.forgetThread
      else a.release (a.operateInThread use messages o w).2 := by
  rw [operate_eq]
  dsimp only
  rw [abandons, keepsThread_operateInThread, afterStream, Bool.not_not]

theorem Deletion.path {c : Hosting.Config} {base : List Char} {id : String} {e : Exchange}
    (h : Deletion c id e) (place : c.IsAt base) (segment : IsSegment id) :
    e.request.url.path = base ++ "/threads/".toList ++ id.toList := by
  have named : ∀ id' ∈ (Operation.deleteThread id).ids, IsSegment id' := fun id' member => by
    obtain rfl := List.mem_singleton.1 member
    exact segment
  rw [Operation.path_of_build place named h]
  simp [Operation.segments, Http.pathOf]

/-- The thread of an operation is deleted by its last request and by no other, and what comes of the
operation does not depend on the reply to that request, whose path names the thread if that can stand
in a path. No thread is deleted that the service did not name, one whose address no request can have,
or one that was still in the hands of a stream when its consumer dropped it and had nothing to send
with. -/
theorem operate_deletes_its_thread (use : Use) (messages : List ChatMessage) (o : RunOptions)
    (replies : List Reply) (log : List Exchange) (clock : Nat) (agentId : Option String) :
    let start := fun replies => (⟨⟨.scripted replies, log, clock⟩, agentId, none⟩ : HostState)
    let against := fun replies => a.operate use messages o (start replies)
    let abandoned := a.abandons use messages (start replies) (against replies).1
    ∃ l, (against replies).2.network.log = log ++ l ∧ (against replies).2.thread = none ∧
      (use.asked = some 0 → l = []) ∧
      ((∀ e ∈ l, ∀ id, ¬ Obtains a.config id e) → ∀ e ∈ l, ¬ Deletes e) ∧
      (abandoned = true → ∀ e ∈ l, ¬ Deletes e) ∧
      ∀ e ∈ l, ∀ id, Obtains a.config id e → abandoned = false →
        (∃ before last, l = before ++ [last] ∧ Deletion a.config id last ∧
            (∀ base, a.config.IsAt base → IsSegment id →
              last.request.url.path = base ++ "/threads/".toList ++ id.toList) ∧
            (∀ e ∈ before, ¬ Deletes e) ∧
            ∀ replies', replies'.take before.length = replies.take before.length →
              (against replies').1 = (against replies).1) ∨
          (∃ text, ((Operation.deleteThread id).draft a.config).build = .error (.unsendable text) ∧
            Http.Url.maxLength < text.utf8ByteSize ∧ ∀ e ∈ l, ¬ Deletes e) := by
  intro start against abandoned
  -- `l` is what is sent before the release; the thread held then is the one named in it
  obtain ⟨v, u, held⟩ := a.holding_operateInThread (w := start replies) use messages o rfl
  obtain ⟨l, added, undeleted, named⟩ := held.added
  have outcome : (against replies).1 = v.1 := by
    dsimp only [against]
    rw [operate_eq, held.run]
  have world : (against replies).2 = if abandoned then u.forgetThread else a.release u := by
    have left := a.world_operate use messages o (start replies)
    rwa [held.run] at left
  have settled {replies' : List Reply} (alike : replies'.take l.length = replies.take l.length) :
      ∃ u', a.operateInThread use messages o (start replies') = (v, u') ∧
        u.Agree (log.length + l.length) u' := by
    refine held.settled (HostState.agree_of_take alike log clock agentId none) ?_
    exact Nat.le_of_eq (by rw [added, List.length_append])
  have unasked (h : use.asked = some 0) : u = start replies := by
    have same := a.operateInThread_unasked h messages o (start replies)
    rwa [held.run] at same
  have nothing (h : use.asked = some 0) : l = [] := by
    rw [unasked h] at added
    exact List.self_eq_append_right.1 added
  clear_value abandoned
  rw [outcome]
  cases abandoned with
  | true =>
    rw [if_pos rfl] at world
    rw [world]
    exact ⟨l, added, rfl, nothing, fun _ => undeleted, fun _ => undeleted,
      fun _ _ _ _ kept => nomatch kept⟩
  | false =>
    rw [if_neg (by decide)] at world
    rw [world]
    obtain ⟨_, -, agree⟩ := settled rfl
    obtain ⟨_, _, peer, -⟩ := agree.network.replies
    obtain ⟨l', log', ⟨rfl, too_long⟩ | ⟨id, last, rfl, holds, deletion, only⟩⟩ :=
      a.release_named added named peer
    · refine ⟨l', log', a.thread_release u, nothing, fun _ => undeleted, nofun,
        fun e he id obtains _ => .inr ?_⟩
      obtain ⟨text, unbuilt, length⟩ := too_long e he id obtains
      exact ⟨text, unbuilt, length, undeleted⟩
    · have asked : use.asked ≠ some 0 := fun h => by
        rw [unasked h] at holds
        cases holds
      refine ⟨l ++ [last], log', a.thread_release u, fun h => absurd h asked, fun unnamed => ?_,
        nofun, fun e he id' obtains _ => .inl ⟨l, last, rfl, ?_, ?_, undeleted, ?_⟩⟩
      · obtain ⟨e, he, obtains⟩ := (named id).2 holds
        exact absurd obtains (unnamed e (List.mem_append_left [last] he) id)
      all_goals obtain rfl := only e he id' obtains
      · exact deletion
      · exact fun base place segment => Deletion.path deletion place segment
      · intro replies' alike
        obtain ⟨u', run, -⟩ := settled alike
        dsimp only [against]
        rw [operate_eq, run]

theorem obtained_of_held (use : Use) (messages : List ChatMessage) (o : RunOptions) {id : String}
    (free : w.thread = none) (held : (a.operateInThread use messages o w).2.thread = some id) :
    ∃ l, (a.operateInThread use messages o w).2.network.log = w.network.log ++ l ∧
      (∃ e ∈ l, Obtains a.config id e) ∧ ∀ e ∈ l, ¬ Deletes e := by
  obtain ⟨v, u, holding⟩ := a.holding_operateInThread use messages o free
  obtain ⟨l, added, undeleted, named⟩ := holding.added
  rw [holding.run] at held ⊢
  exact ⟨l, added, (named id).2 held, undeleted⟩

theorem thread_stays (use : Use) (messages : List ChatMessage) (o : RunOptions) {id : String}
    (free : w.thread = none)
    (held : (a.operateInThread use messages o w).2.thread = some id)
    (stays : a.abandons use messages w (a.operate use messages o w).1 = true ∨
      ∃ fault, ((Operation.deleteThread id).draft a.config).build = .error fault) :
    ∃ l, (a.operate use messages o w).2.network.log = w.network.log ++ l ∧
      (∃ e ∈ l, Obtains a.config id e) ∧ ∀ e ∈ l, ¬ Deletes e := by
  obtain ⟨l, added, obtained, undeleted⟩ := a.obtained_of_held use messages o free held
  refine ⟨l, ?_, obtained, undeleted⟩
  rw [world_operate]
  rcases stays with abandoned | ⟨fault, unbuilt⟩
  · rw [if_pos abandoned]
    exact added
  · split
    · exact added
    · rw [a.network_release held, Http.send_unbuilt unbuilt]
      exact added

theorem thread_operateInThread (messages : List ChatMessage) (o : RunOptions) {agentId id : String}
    (known : w.agentId = some agentId)
    (named : (HostState.call (Operation.createThread.performFor Hosting.readId? a.config) w).1 =
      .ok id) : (a.operateInThread .run messages o w).2.thread = some id := by
  obtain ⟨u, asked⟩ : ∃ u, HostState.call
      (Operation.createThread.performFor Hosting.readId? a.config) w = (.ok id, u) :=
    ⟨_, Prod.ext named rfl⟩
  have opened : a.openThread w = (.ok (agentId, id), { u with thread := some id }) := by
    refine openThread_ok ?_
    rw [requestThread]
    rw [Work.bind_run, create_known known]
    dsimp only
    rw [Work.bind_run, asked]
    rfl
  refine thread_inThread (failure? AgentError.remote?) ?_ (fun _ _ => ?_) messages opened
  · exact fun _ => rfl
  · exact steps_answer (fun _ => quiet_of_runs) trivial

end PersistentAgent

def guest (length : Nat) : PersistentAgent where
  config :=
    { Hosting.Config.new "https://host/project" "model" "token" with
      apiVersion := String.ofList (List.replicate length 'x') }
  name := "agent"
  instructions := none
  model := "model"
  registry := .empty
  existing := some "a"

def guestReplies : List Reply :=
  ["\x7b\"id\":\"t\"\x7d",
    "event: thread.message.delta\ndata: \x7b\"delta\":\x7b\"content\":" ++
      "[\x7b\"type\":\"text\",\"text\":\x7b\"value\":\"Hi\"\x7d\x7d]\x7d\x7d\n\n" ++
      "event: done\ndata: [DONE]\n\n"].map fun body =>
    ⟨.response ⟨200, Text.Utf8.encode body, true⟩, 0⟩

def guestWorld : HostState := ⟨⟨.scripted guestReplies, [], 0⟩, some "a", none⟩

/-- A stream that is taken to its end. -/
example : ((guest 1).operate (.stream none false) [] .default guestWorld).2.network.log.map
    (·.request.method) = [.post, .post, .delete] := by decide +kernel

theorem utf8ByteSize_replicate (n : Nat) :
    (String.ofList (List.replicate n 'x')).utf8ByteSize = n := by
  induction n with
  | zero => rfl
  | succ n ih =>
    rw [List.replicate_succ, String.ofList_cons, String.utf8ByteSize_append, ih,
      String.utf8ByteSize_singleton, Nat.add_comm]
    rfl

theorem utf8ByteSize_guest {u : Url} (query : u.query = none) (fragment : u.fragment = none)
    (n : Nat) :
    (u.addField "api-version" (guest n).config.apiVersion).text.utf8ByteSize =
      u.text.utf8ByteSize + 13 + n := by
  have written : (guest n).config.apiVersion.toList = List.replicate n 'x' := String.toList_ofList
  have kept : Http.formChar 'x' = ['x'] := by decide
  have field : '?' :: Http.formField "api-version" (guest n).config.apiVersion =
      "?api-version=".toList ++ List.replicate n 'x' := by
    rw [Http.formField, written, List.flatMap_replicate, kept, List.flatten_replicate_singleton]
    rfl
  rw [Url.text_addField query fragment, field, String.ofList_append, String.utf8ByteSize_append,
    String.utf8ByteSize_append, utf8ByteSize_replicate, ← Nat.add_assoc]
  rfl

theorem build_guest {o : Operation} {n : Nat} {u : Url}
    (found : Url.parse? (o.draft (guest n).config).address = some u) (fields : o.fields = [])
    (bare : u.query = none ∧ u.fragment = none ∧ u.credentials? = none)
    (asked : u.hasHost = true ∧ u.isSendable = true) :
    if u.text.utf8ByteSize + 13 + n ≤ Url.maxLength then
      ∃ q, (o.draft (guest n).config).build = .ok q
    else ∃ fault, (o.draft (guest n).config).build = .error fault := by
  obtain ⟨query, fragment, anonymous⟩ := bare
  obtain ⟨host, sendable⟩ := asked
  have headers : (o.draft (guest n).config).headers.all (fun h => Http.isHeaderValue h.2) = true := by
    change [("authorization", "Bearer token")].all (fun h => Http.isHeaderValue h.2) = true
    decide
  have sent : (o.draft (guest n).config).sentTo u =
      u.addField "api-version" (guest n).config.apiVersion := by
    rw [Http.Draft.sentTo, anonymous]
    simp [Operation.draft, fields]
  have length : ((o.draft (guest n).config).sentTo u).isSendable =
      decide (u.text.utf8ByteSize + 13 + n ≤ Url.maxLength) := by
    rw [Url.isSendable, Bool.and_eq_true] at sendable
    rw [sent, Url.isSendable, utf8ByteSize_guest query fragment]
    exact (congrArg (· && _) sendable.1).trans (Bool.true_and _)
  rw [Http.build_of_parse found, host, headers, length]
  split <;> rename_i short
  · exact ⟨_, by simp [short]; rfl⟩
  · exact ⟨_, by simp [short]; rfl⟩

def longest : Nat := Url.maxLength - 41

theorem build_createThread_longest :
    ∃ q, (Operation.createThread.draft (guest longest).config).build = .ok q := by
  have place : Url.parse? (Operation.createThread.draft (guest longest).config).address =
      some ⟨"https".toList, some ⟨[], [], .name "host".toList, none⟩, "/project/threads".toList, none,
        none⟩ := by decide +kernel
  have long := build_guest place rfl (by decide +kernel) (by decide +kernel)
  rwa [if_pos (by decide +kernel)] at long

theorem build_deleteThread_longest :
    ∃ fault, ((Operation.deleteThread "t").draft (guest longest).config).build = .error fault := by
  have place : Url.parse? ((Operation.deleteThread "t").draft (guest longest).config).address =
      some ⟨"https".toList, some ⟨[], [], .name "host".toList, none⟩, "/project/threads/t".toList, none,
        none⟩ := by decide +kernel
  have long := build_guest place rfl (by decide +kernel) (by decide +kernel)
  rwa [if_neg (by decide +kernel)] at long

theorem held_longest :
    ((guest longest).operateInThread .run [] .default guestWorld).2.thread = some "t" := by
  obtain ⟨q, built⟩ := build_createThread_longest
  have answer : (guestWorld.network.exchange q).1 =
      some ⟨200, Text.Utf8.encode "\x7b\"id\":\"t\"\x7d", true⟩ := rfl
  have named : (⟨200, Text.Utf8.encode "\x7b\"id\":\"t\"\x7d", true⟩ : Http.Response).read?
      Hosting.readId? = some "t" := by decide +kernel
  have known : guestWorld.agentId = some "a" := rfl
  refine (guest longest).thread_operateInThread [] .default known ?_
  rw [HostState.call_run, Operation.performFor, Http.sendFor_run]
  dsimp only
  rw [Http.send_built built, answer, Http.outcome, if_pos (by decide), Except.bind,
    Http.Response.decode, named]
  rfl

theorem held_abandoned :
    ((guest 1).operateInThread (.stream (some 1) true) [] .default guestWorld).2.thread = some "t" := by
  decide +kernel

/-- A service that gives a thread the path of an agent for its id, fails to run it, and deletes
whatever it is asked to. -/
def strayReplies : List Reply :=
  [⟨.response ⟨200, Text.Utf8.encode "\x7b\"id\":\"../assistants/a\"\x7d", true⟩, 0⟩,
    ⟨.response ⟨500, [], true⟩, 0⟩, ⟨.response ⟨200, Text.Utf8.encode "\x7b\x7d", true⟩, 0⟩]

def strayWorld : HostState := ⟨⟨.scripted strayReplies, [], 0⟩, some "a", none⟩

theorem held_stray : ((guest 1).operateInThread .run [] .default strayWorld).2.thread =
    some "../assistants/a" := by
  decide +kernel

theorem log_stray : ((guest 1).operate .run [] .default strayWorld).2.network.log.map
    (fun e => (e.request.method, String.ofList e.request.url.path)) =
      [(.post, "/project/threads"), (.post, "/project/assistants/a/runs"),
        (.delete, "/project/assistants/a")] := by
  decide +kernel

/-- A guest that drops its stream unfinished where nothing can be sent leaves its thread, and so does
one whose addresses get too long. A third deletes something else than its thread. -/
theorem guest_leaves_its_thread :
    (∃ l, ((guest 1).operate (.stream (some 1) true) [] .default guestWorld).2.network.log = l ∧
      (∃ e ∈ l, Obtains (guest 1).config "t" e) ∧ ∀ e ∈ l, ¬ Deletes e) ∧
      (∃ l, ((guest longest).operate .run [] .default guestWorld).2.network.log = l ∧
        (∃ e ∈ l, Obtains (guest longest).config "t" e) ∧ ∀ e ∈ l, ¬ Deletes e) ∧
      ∃ l, ((guest 1).operate .run [] .default strayWorld).2.network.log = l ∧
        (∃ e ∈ l, Obtains (guest 1).config "../assistants/a" e) ∧
        ∀ e ∈ l, Deletes e → e.request.url.path = "/project/assistants/a".toList := by
  refine ⟨?_, ?_, _, rfl, ?_, fun e he deletes => ?_⟩
  · exact (guest 1).thread_stays (.stream (some 1) true) [] .default rfl held_abandoned
      (.inl (by decide +kernel))
  · exact (guest longest).thread_stays .run [] .default rfl held_longest
      (.inr build_deleteThread_longest)
  · obtain ⟨l, added, ⟨e, he, obtains⟩, -⟩ :=
      (guest 1).obtained_of_held .run [] .default (w := strayWorld) rfl held_stray
    rw [PersistentAgent.world_operate, if_neg (by decide +kernel)]
    refine ⟨e, PersistentAgent.mem_log_release _ ?_, obtains⟩
    rw [added]
    exact List.mem_append_right _ he
  · have listed := List.mem_map_of_mem
      (f := fun e : Exchange => (e.request.method, String.ofList e.request.url.path)) he
    rw [log_stray] at listed
    have deletes : e.request.method = .delete := deletes
    rw [deletes] at listed
    have path : String.ofList e.request.url.path = "/project/assistants/a" := by
      simpa using listed
    rw [← path, String.toList_ofList]

end ChatAgents
