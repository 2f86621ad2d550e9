import ChatAgents.Proofs.ScopedRuns
import ChatAgents.Proofs.WrittenTexts
set_option autoImplicit false

namespace ChatAgents

open Http (Network Reply Response)
open Hosting (CitedText Operation RequiredCall Run WrittenMessage WrittenText)

inductive CourseEnd where
  /-- The messages are those of the assistant, each with its texts. -/
  | completed (messages : List (List WrittenText)) (usage : Option Usage)
  | failed (run : Run)

/-- What a run does on the service: rounds of tool calls, and its end. -/
structure Course where
  rounds : List (List RequiredCall)
  ending : CourseEnd

def AgentResponse.hear (r : AgentResponse) (texts : List WrittenText) : AgentResponse where
  text := r.text ++ String.join (texts.map WrittenText.value)
  citations := r.citations ++ Hosting.citationsOf (texts.flatMap WrittenText.annotations)
  usage := r.usage

def AgentResponse.spend (r : AgentResponse) (usage : Option Usage) : AgentResponse :=
  usage.elim r r.addUsage

def CourseEnd.response : CourseEnd → Except AgentError AgentResponse
  | .failed run => .error (.remote run.failure)
  | .completed [] _ => .error .missingFinalResponse
  | .completed messages usage => .ok ((AgentResponse.empty.hear messages.flatten).spend usage)

def Http.Reply.Holds {α : Type} (read : Json → Option α) (reply : Reply) (v : α) : Prop :=
  ∃ r, reply.answer = .response r ∧ isSuccess r.status = true ∧ r.read? read = some v

def Hosting.Operation.Sendable (o : Operation) (c : Hosting.Config) : Prop :=
  ∃ q, (o.draft c).build = .ok q

/-- What is asked about a run can be sent: its ids make addresses. -/
structure RunSendable (c : Hosting.Config) (threadId runId : String) : Prop where
  create : ∀ r stream, (Operation.createRun threadId r stream).Sendable c
  look : (Operation.getRun threadId runId).Sendable c
  submit : ∀ outputs stream, (Operation.submitOutputs threadId runId outputs stream).Sendable c
  list : (Operation.listMessages threadId runId).Sendable c

def Hosting.RunStatus.isPending : RunStatus → Bool
  | .queued | .inProgress | .cancelling | .unknown => true
  | _ => false

theorem Hosting.RunStatus.of_isPending {s : RunStatus} (h : s.isPending = true) :
    s ≠ .requiresAction ∧ s ≠ .completed ∧ s.isFailure = false := by
  revert h
  cases s <;> decide

theorem Hosting.RunStatus.ne_completed_of_isFailure {s : RunStatus} (h : s.isFailure = true) :
    s ≠ .completed := by
  rintro rfl
  cases h

def assistantTexts (messages : List WrittenMessage) : List (List WrittenText) :=
  (messages.filter (·.role == "assistant")).map WrittenMessage.texts

/-- From a report on, which comes `t` milliseconds after the first, the replies tell the course to a
caller that waits. No look at an unfinished run comes after the deadline. -/
inductive Watched (c : Hosting.Config) (runId : String) : Course → Nat → Run → List Reply → Prop
  | pending {course : Course} {t : Nat} {run run' : Run} {reply : Reply} {rest : List Reply}
      (id : run.id = runId) (status : run.status.isPending = true) (early : t < c.runTimeout)
      (next : reply.Holds Hosting.readRun? run')
      (later : Watched c runId course (t + c.pollInterval + reply.delay) run' rest) :
      Watched c runId course t run (reply :: rest)
  | action {calls : List RequiredCall} {rounds : List (List RequiredCall)} {ending : CourseEnd}
      {t : Nat} {run run' : Run} {reply : Reply} {rest : List Reply} (id : run.id = runId)
      (status : run.status = .requiresAction) (required : run.required = calls)
      (early : t < c.runTimeout) (next : reply.Holds Hosting.readRun? run')
      (later : Watched c runId ⟨rounds, ending⟩ (t + reply.delay) run' rest) :
      Watched c runId ⟨calls :: rounds, ending⟩ t run (reply :: rest)
  | completed {t : Nat} {run : Run} {written : List WrittenMessage} {usage : Option Usage}
      {reply : Reply} {rest : List Reply} (id : run.id = runId) (status : run.status = .completed)
      (used : run.usage = usage) (list : reply.Holds Hosting.writtenMessages? written)
      (readable : ∀ m ∈ written, m.Readable) :
      Watched c runId ⟨[], .completed (assistantTexts written) usage⟩ t run (reply :: rest)
  | failed {t : Nat} {run last : Run} {rest : List Reply} (status : last.status = run.status)
      (fault : last.fault = run.fault) (failure : run.status.isFailure = true) :
      Watched c runId ⟨[], .failed run⟩ t last rest

theorem Http.send_served {d : Http.Draft} {n : Network} {reply : Reply} {rest : List Reply}
    {r : Response} (sendable : ∃ q, d.build = .ok q) (link : n.link = .scripted (reply :: rest))
    (answer : reply.answer = .response r) (success : isSuccess r.status = true) :
    ∃ n', send d n = (.ok r, n') ∧ n'.link = .scripted rest ∧ n'.clock = n.clock + reply.delay := by
  obtain ⟨q, built⟩ := sendable
  obtain ⟨_, log, clock⟩ := n
  obtain rfl := link
  refine ⟨⟨.scripted rest, log ++ [⟨q, reply.answer⟩], clock + reply.delay⟩, ?_, rfl, rfl⟩
  rw [send_built built, exchange_cons, answer]
  simp [Answer.response?, outcome, success]

theorem Hosting.Operation.performFor_served {α : Type} {read : Json → Option α} {o : Operation}
    {c : Hosting.Config} {n : Network} {reply : Reply} {rest : List Reply} {v : α}
    (sendable : o.Sendable c) (link : n.link = .scripted (reply :: rest))
    (holds : reply.Holds read v) :
    ∃ n', o.performFor read c n = (.ok v, n') ∧ n'.link = .scripted rest ∧
      n'.clock = n.clock + reply.delay := by
  obtain ⟨r, answer, success, found⟩ := holds
  obtain ⟨n', sent, link', clock'⟩ := Http.send_served sendable link answer success
  refine ⟨n', ?_, link', clock'⟩
  rw [performFor, Http.sendFor_run, sent]
  simp [Except.bind, Response.decode, found]

theorem HostState.call_served {α : Type} {x : Http.Calls RemoteError α} {w : HostState} {v : α}
    {n' : Network} (h : x w.network = (.ok v, n')) :
    HostState.call x w = (.ok v, { w with network := n' }) := by
  rw [call_run, h]
  rfl

theorem Http.Response.read?_of_readsOn {α β : Type} {raw : Json → Option α}
    {full : Json → Option β} {f : α → β} {good : α → Prop}
    (h : Hosting.ReadsOn raw full f good) {r : Response} {x : α} (found : r.read? raw = some x)
    (ok : good x) : r.read? full = some (f x) := by
  rw [Response.read?] at found ⊢
  split at found
  · rename_i whole
    rw [if_pos whole]
    obtain ⟨cs, decoded, found_text⟩ := Option.bind_eq_some_iff.1 found
    obtain ⟨v, document, found_record⟩ := Option.bind_eq_some_iff.1 found_text
    rw [decoded, Option.bind_some, Json.readText?, document, Option.bind_some]
    exact h v x found_record ok
  · cases found

theorem Http.Reply.Holds.reads {α β : Type} {raw : Json → Option α} {full : Json → Option β}
    {f : α → β} {good : α → Prop} {reply : Reply} {x : α} (holds : reply.Holds raw x)
    (h : Hosting.ReadsOn raw full f good) (ok : good x) : reply.Holds full (f x) := by
  obtain ⟨r, answer, success, found⟩ := holds
  exact ⟨r, answer, success, Response.read?_of_readsOn h found ok⟩

theorem AgentResponse.foldl_addTo (r : AgentResponse) (texts : List WrittenText) :
    (texts.map WrittenText.cited).foldl CitedText.addTo r = r.hear texts := by
  induction texts generalizing r with
  | nil => simp [hear, Hosting.citationsOf]
  | cons t rest ih =>
    rw [List.map_cons, List.foldl_cons, ih]
    simp [hear, CitedText.addTo, WrittenText.cited, Hosting.citationsOf, String.append_assoc]

theorem Hosting.answer?_read (written : List WrittenMessage) :
    answer? (written.map WrittenMessage.read) =
      if assistantTexts written = [] then none
      else some (AgentResponse.empty.hear (assistantTexts written).flatten) := by
  have answers : (written.map WrittenMessage.read).filter (·.role == "assistant") =
      (written.filter (·.role == "assistant")).map WrittenMessage.read := by
    rw [List.filter_map]
    rfl
  rw [answer?, answers, assistantTexts]
  cases spoken : written.filter (·.role == "assistant") with
  | nil => rfl
  | cons m rest =>
    have texts : ((m :: rest).map WrittenMessage.read).flatMap (·.texts) =
        (((m :: rest).map WrittenMessage.texts).flatten).map WrittenText.cited := by
      simp [List.map_flatten, Function.comp_def, WrittenMessage.read, List.flatMap_def]
    change some ((((m :: rest).map WrittenMessage.read).flatMap (·.texts)).foldl CitedText.addTo
      AgentResponse.empty) = _
    rw [texts, AgentResponse.foldl_addTo, if_neg (by simp)]

namespace PersistentAgent

variable {a : PersistentAgent}

theorem watch_of_report {threadId : String} {started : Nat} {run run' : Run} {n n' : Network}
    (unfinished : run.status ≠ .completed) (unfailed : run.status.isFailure = false)
    (early : ¬ a.config.runTimeout ≤ n.clock - started)
    (report : a.nextReport threadId run n = (.ok run', n')) :
    a.watch threadId started run n = a.watch threadId started run' n' := by
  rw [watch.eq_def a threadId started run, if_neg unfinished, if_neg (by rw [unfailed]; decide),
    if_neg early]
  split <;> rename_i reported <;> rw [report] at reported
  · cases reported
  · obtain ⟨same, rfl⟩ := Prod.mk.inj reported
    obtain rfl := Except.ok.inj same
    rfl

/-- What comes of the watch: the completed run, with its messages in the next reply, or its failure. -/
def WatchEnds (a : PersistentAgent) (threadId runId : String) (started : Nat) (run : Run)
    (n : Network) : CourseEnd → Prop
  | .completed messages usage =>
    ∃ last n' reply rest written, a.watch threadId started run n = (.ok last, n') ∧
      last.id = runId ∧ last.usage = usage ∧ n'.link = .scripted (reply :: rest) ∧
      reply.Holds Hosting.writtenMessages? written ∧ (∀ m ∈ written, m.Readable) ∧
      messages = assistantTexts written
  | .failed last => ∃ n', a.watch threadId started run n = (.error last.failure, n')

theorem watchEnds_of_report {threadId runId : String} {started : Nat} {run run' : Run}
    {n n' : Network} {ending : CourseEnd}
    (same : a.watch threadId started run n = a.watch threadId started run' n')
    (h : a.WatchEnds threadId runId started run' n' ending) :
    a.WatchEnds threadId runId started run n ending := by
  cases ending <;> simpa only [WatchEnds, same] using h

theorem watch_course {threadId runId : String} (sendable : RunSendable a.config threadId runId)
    {course : Course} {t : Nat} {run : Run} {replies : List Reply}
    (h : Watched a.config runId course t run replies) {started : Nat} {n : Network}
    (link : n.link = .scripted replies) (clock : n.clock = started + t) :
    a.WatchEnds threadId runId started run n course.ending := by
  -- `t` is what the deadline is compared with, and every report moves it on
  have waited : n.clock - started = t := by omega
  induction h generalizing n with
  | @pending course t run run' reply rest id status early next later ih =>
    obtain ⟨asks, unfinished, unfailed⟩ := Hosting.RunStatus.of_isPending status
    obtain ⟨n', report, link', clock'⟩ := Operation.performFor_served (n := n.wait a.config.pollInterval)
      sendable.look link next
    have reported : a.nextReport threadId run n = (.ok run', n') := by
      rw [nextReport, if_neg asks, id]
      exact report
    have paused : (n.wait a.config.pollInterval).clock = n.clock + a.config.pollInterval := rfl
    have clock_then : n'.clock = started + (t + a.config.pollInterval + reply.delay) := by omega
    exact watchEnds_of_report (watch_of_report unfinished unfailed (by omega) reported)
      (ih link' clock_then (by omega))
  | @action calls rounds ending t run run' reply rest id status required early next later ih =>
    obtain ⟨n', report, link', clock'⟩ := Operation.performFor_served
      (sendable.submit (a.registry.outputs run.required) false) link next
    have reported : a.nextReport threadId run n = (.ok run', n') := by
      rw [nextReport, if_pos status, id]
      exact report
    have clock_then : n'.clock = started + (t + reply.delay) := by omega
    exact watchEnds_of_report (watch_of_report (by rw [status]; decide) (by rw [status]; rfl)
      (by omega) reported) (ih link' clock_then (by omega))
  | @completed t run written usage reply rest id status used list readable =>
    refine ⟨run, n, reply, rest, written, ?_, id, used, link, list, readable, rfl⟩
    rw [watch, if_pos status]
  | @failed t run last rest status fault failure =>
    refine ⟨n, ?_⟩
    rw [← status] at failure
    rw [watch, if_neg (Hosting.RunStatus.ne_completed_of_isFailure failure), if_pos failure,
      Run.failure, Run.failure, Run.faultText, Run.faultText, status, fault]

theorem answer_course {agentId threadId runId : String} {o : RunOptions}
    (sendable : RunSendable a.config threadId runId) {course : Course} {run : Run} {reply : Reply}
    {rest : List Reply} {w : HostState} (link : w.network.link = .scripted (reply :: rest))
    (made : reply.Holds Hosting.readRun? run) (watched : Watched a.config runId course 0 run rest) :
    (a.answer agentId threadId o w).1 = course.ending.response := by
  obtain ⟨n₁, created, link₁, -⟩ := Operation.performFor_served
    (sendable.create (o.runRequest agentId) false) link made
  rw [answer, Work.bind_run, HostState.call_served created]
  dsimp only
  rw [Work.bind_run]
  have ends : a.WatchEnds threadId runId n₁.clock run n₁ course.ending :=
    watch_course sendable watched link₁ rfl
  cases ending : course.ending with
  | failed last =>
    rw [ending] at ends
    obtain ⟨n₂, failed⟩ := ends
    have awaited : a.awaitRun threadId run n₁ = (.error last.failure, n₂) := failed
    rw [HostState.call_run, awaited]
    rfl
  | completed messages usage =>
    rw [ending] at ends
    obtain ⟨last, n₂, reply', rest', written, completed, rfl, rfl, link₂, list, readable, rfl⟩ := ends
    have awaited : a.awaitRun threadId run n₁ = (.ok last, n₂) := completed
    obtain ⟨n₃, listed, -, -⟩ := Operation.performFor_served sendable.list link₂
      (list.reads Hosting.readsOn_messages readable)
    rw [HostState.call_served (w := { w with network := n₁ }) awaited]
    dsimp only
    rw [Work.bind_run, HostState.call_served listed]
    dsimp only
    rw [Hosting.answer?_read]
    cases assistantTexts written with
    | nil => rfl
    | cons texts more =>
      rw [if_neg (by simp)]
      cases last.usage <;> rfl

theorem result_run (messages : List ChatMessage) (o : RunOptions) (w : HostState) :
    (a.run messages o w).1 =
      ((a.prepare messages >>= fun ids => a.answer ids.1 ids.2 o) w).1 := by
  rw [run_eq, Work.bind_run, runInThread,
    a.inThread_run messages .error fun ids => a.answer ids.1 ids.2 o]
  rcases a.prepare messages w with ⟨_ | _, _⟩ <;> rfl

end PersistentAgent

/-- From a world on in which the agent, the thread and its messages are to be had, the service tells
the course of a run to a caller that waits. -/
inductive CourseWatched (a : PersistentAgent) (messages : List ChatMessage) (course : Course)
    (w : HostState) : Prop
  | intro {ids : String × String} {u : HostState} {runId : String} {run : Run} {reply : Reply}
      {rest : List Reply} (prepared : a.prepare messages w = (.ok ids, u))
      (sendable : RunSendable a.config ids.2 runId)
      (link : u.network.link = .scripted (reply :: rest))
      (made : reply.Holds Hosting.readRun? run)
      (watched : Watched a.config runId course 0 run rest)

theorem PersistentAgent.run_course {a : PersistentAgent} {messages : List ChatMessage}
    {course : Course} {w : HostState} (o : RunOptions) (h : CourseWatched a messages course w) :
    (a.run messages o w).1 = course.ending.response := by
  obtain ⟨prepared, sendable, link, made, watched⟩ := h
  rw [result_run, Work.bind_run, prepared]
  exact answer_course sendable link made watched

end ChatAgents
