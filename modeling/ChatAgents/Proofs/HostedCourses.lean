import ChatAgents.Proofs.CutRuns
import ChatAgents.Proofs.WatchedCourses
set_option autoImplicit false

namespace ChatAgents

open Http (Event Feed Network Reply Response)
open Hosting (CitedText Operation RequiredCall Round Run WrittenMessage WrittenText)

def Http.Reply.Streams (reply : Reply) (feed : Feed) : Prop :=
  ∃ r, reply.answer = .response r ∧ isSuccess r.status = true ∧ r.feed = feed

def Http.Event.Holds {α : Type} (read : Json → Option α) (e : Event) (v : α) : Prop :=
  Json.readText? read e.data.toList = some v

/-- The events bring these pieces of messages, and otherwise nothing that counts. The flag says whether
there is an event of a message among them. -/
inductive Tells : List Event → List WrittenText → Bool → Prop
  | nil : Tells [] [] false
  | other {e : Event} {rest : List Event} {texts : List WrittenText} {b : Bool}
      (kind : Hosting.kind e = .other) (undone : e.isDone = false) (later : Tells rest texts b) :
      Tells (e :: rest) texts b
  | delta {e : Event} {rest : List Event} {pieces texts : List WrittenText} {b : Bool}
      (kind : Hosting.kind e = .messageDelta) (data : e.Holds Hosting.writtenDelta? pieces)
      (later : Tells rest texts b) : Tells (e :: rest) (pieces ++ texts) true
  | message {e : Event} {rest : List Event} {texts : List WrittenText} {b : Bool}
      (kind : Hosting.kind e = .messageCompleted) (later : Tells rest texts b) :
      Tells (e :: rest) texts true

/-- After the end of the run there is nothing more to tell, up to the mark of the end or the end of the
body. -/
inductive Closes : List Event → Option RemoteError → Prop
  | body {events : List Event} (silent : Tells events [] false) : Closes events none
  | mark {events later : List Event} {e : Event} {fault : Option RemoteError}
      (silent : Tells events [] false) (kind : Hosting.kind e = .other) (done : e.isDone = true) :
      Closes (events ++ e :: later) fault

/-- From a round on, the replies tell the course to a caller that streams, in these pieces. -/
inductive Streamed (runId : String) :
    Course → Feed → List Reply → List WrittenText → Bool → Prop
  | action {calls : List RequiredCall} {rounds : List (List RequiredCall)} {ending : CourseEnd}
      {feed feed' : Feed} {told later : List Event} {e : Event} {texts texts' : List WrittenText}
      {b b' : Bool} {run : Run} {reply : Reply} {rest : List Reply}
      (events : feed.events = told ++ e :: later) (tells : Tells told texts b)
      (kind : Hosting.kind e = .actionRequired) (data : e.Holds Hosting.readRun? run)
      (id : run.id = runId) (required : run.required = calls) (next : reply.Streams feed')
      (onward : Streamed runId ⟨rounds, ending⟩ feed' rest texts' b') :
      Streamed runId ⟨calls :: rounds, ending⟩ feed (reply :: rest) (texts ++ texts') (b || b')
  | completed {messages : List (List WrittenText)} {usage : Option Usage} {feed : Feed}
      {told later : List Event} {e : Event} {texts : List WrittenText} {b : Bool} {run : Run}
      {rest : List Reply} (events : feed.events = told ++ e :: later) (tells : Tells told texts b)
      (kind : Hosting.kind e = .runCompleted) (data : e.Holds Hosting.readRun? run)
      (used : run.usage = usage) (closes : Closes later feed.fault) :
      Streamed runId ⟨[], .completed messages usage⟩ feed rest texts b
  | failed {feed : Feed} {told later : List Event} {e : Event} {texts : List WrittenText} {b : Bool}
      {run last : Run} {rest : List Reply} (events : feed.events = told ++ e :: later)
      (tells : Tells told texts b) (kind : Hosting.kind e = .runFailed)
      (data : e.Holds Hosting.readRun? last) (status : last.status = run.status)
      (fault : last.fault = run.fault) : Streamed runId ⟨[], .failed run⟩ feed rest texts b

/-- The pieces make up the messages, of which there are some exactly if there was an event of one. -/
def CourseEnd.ToldIn (texts : List WrittenText) (b : Bool) : CourseEnd → Prop
  | .completed messages _ =>
    String.join (texts.map WrittenText.value) = String.join (messages.flatten.map WrittenText.value) ∧
      texts.flatMap WrittenText.annotations = messages.flatten.flatMap WrittenText.annotations ∧
      (b = true ↔ messages ≠ [])
  | .failed _ => True

namespace Hosting

theorem Effect.ofData_holds {α : Type} {e : Event} {read : Json → Option α} {v : α}
    (data : e.Holds read v) (use : α → Effect) : Effect.ofData e read use = use v := by
  rw [Event.Holds] at data
  rw [Effect.ofData, readData, data]

theorem ofEvent_silent {e : Event} (h : kind e = .other) (undone : e.isDone = false) :
    Effect.ofEvent e = .nothing := by
  rw [Effect.ofEvent, show EventKind.ofName e.name = .other from h]
  dsimp only
  rw [undone]
  rfl

theorem ofEvent_mark {e : Event} (h : kind e = .other) (done : e.isDone = true) :
    Effect.ofEvent e = .done := by
  rw [Effect.ofEvent, show EventKind.ofName e.name = .other from h]
  dsimp only
  rw [done]
  rfl

theorem ofEvent_message {e : Event} (h : kind e = .messageCompleted) :
    Effect.ofEvent e = .message [] := by
  rw [Effect.ofEvent, show EventKind.ofName e.name = .messageCompleted from h]

theorem ofEvent_delta {e : Event} {pieces : List WrittenText} (h : kind e = .messageDelta)
    (data : e.Holds writtenDelta? pieces) (readable : ∀ t ∈ pieces, t.Readable) :
    Effect.ofEvent e =
      .message ((pieces.map WrittenText.cited).flatMap CitedText.updates) := by
  obtain ⟨v, document, found⟩ := Option.bind_eq_some_iff.1 data
  have read : e.Holds readMessageDelta? (pieces.map WrittenText.cited) :=
    Option.bind_eq_some_iff.2 ⟨v, document, readsOn_delta v pieces found readable⟩
  rw [Effect.ofEvent, show EventKind.ofName e.name = .messageDelta from h]
  exact Effect.ofData_holds read _

theorem ofEvent_action {e : Event} {run : Run} (h : kind e = .actionRequired)
    (data : e.Holds readRun? run) : Effect.ofEvent e = .action run := by
  rw [Effect.ofEvent, show EventKind.ofName e.name = .actionRequired from h]
  exact Effect.ofData_holds data _

theorem ofEvent_completed {e : Event} {run : Run} (h : kind e = .runCompleted)
    (data : e.Holds readRun? run) : Effect.ofEvent e = .completed (usageUpdates run.usage) := by
  rw [Effect.ofEvent, show EventKind.ofName e.name = .runCompleted from h]
  exact Effect.ofData_holds data _

theorem ofEvent_failed {e : Event} {run : Run} (h : kind e = .runFailed)
    (data : e.Holds readRun? run) : Effect.ofEvent e = .fail run.failure := by
  rw [Effect.ofEvent, show EventKind.ofName e.name = .runFailed from h]
  exact Effect.ofData_holds data _

theorem ofEvents_tells {told : List Event} {texts : List WrittenText} {b : Bool}
    (h : Tells told texts b) (readable : ∀ t ∈ texts, t.Readable) (fault : Option RemoteError)
    (completed : Bool) (later : List Event) :
    Round.ofEvents fault completed (told ++ later) =
      { (Round.ofEvents fault completed later).prepend
          ((texts.map WrittenText.cited).flatMap CitedText.updates) with
        answered := b || (Round.ofEvents fault completed later).answered } := by
  induction h with
  | nil => rfl
  | other kind undone _ ih =>
    rw [List.cons_append, Round.ofEvents, ofEvent_silent kind undone]
    exact ih readable
  | @delta e rest pieces texts b kind data _ ih =>
    rw [List.forall_mem_append] at readable
    rw [List.cons_append, Round.ofEvents, ofEvent_delta kind data readable.1]
    dsimp only
    rw [ih readable.2, List.map_append, List.flatMap_append]
    simp [Round.prepend]
  | message kind _ ih =>
    rw [List.cons_append, Round.ofEvents, ofEvent_message kind]
    dsimp only
    rw [ih readable]
    rfl

theorem ofEvents_closes {events : List Event} {fault : Option RemoteError}
    (h : Closes events fault) : Round.ofEvents fault true events = Round.stop .finished := by
  cases h with
  | body silent =>
    have round := ofEvents_tells silent nofun none true []
    rwa [List.append_nil] at round
  | @mark told later e _ silent kind done =>
    rw [ofEvents_tells silent nofun, Round.ofEvents, ofEvent_mark kind done]
    rfl

section

variable {feed : Feed} {told later : List Event} {e : Event} {texts : List WrittenText} {b : Bool}
  {run : Run} (events : feed.events = told ++ e :: later) (tells : Tells told texts b)
  (readable : ∀ t ∈ texts, t.Readable) (data : e.Holds readRun? run)

include events tells readable data

theorem ofFeed_action (kind : kind e = .actionRequired) :
    Round.ofFeed feed =
      ⟨(texts.map WrittenText.cited).flatMap CitedText.updates, b, .action run⟩ := by
  rw [Round.ofFeed, events, ofEvents_tells tells readable, Round.ofEvents, ofEvent_action kind data]
  simp [Round.stop, Round.prepend]

theorem ofFeed_completed (kind : kind e = .runCompleted) (closes : Closes later feed.fault) :
    Round.ofFeed feed =
      ⟨(texts.map WrittenText.cited).flatMap CitedText.updates ++ usageUpdates run.usage, b,
        .finished⟩ := by
  rw [Round.ofFeed, events, ofEvents_tells tells readable, Round.ofEvents,
    ofEvent_completed kind data]
  dsimp only
  rw [ofEvents_closes closes]
  simp [Round.stop, Round.prepend]

theorem ofFeed_failed (kind : kind e = .runFailed) :
    (Round.ofFeed feed).ending = .failed run.failure := by
  rw [Round.ofFeed, events, ofEvents_tells tells readable, Round.ofEvents, ofEvent_failed kind data]
  rfl

end

theorem Operation.performForEvents_served {o : Operation} {c : Hosting.Config} {n : Network}
    {reply : Reply} {rest : List Reply} {feed : Feed} (sendable : o.Sendable c)
    (link : n.link = .scripted (reply :: rest)) (streams : reply.Streams feed) :
    ∃ n', o.performForEvents c n = (.ok feed, n') ∧ n'.link = .scripted rest := by
  obtain ⟨r, answer, success, rfl⟩ := streams
  obtain ⟨n', sent, link', -⟩ := Http.send_served sendable link answer success
  refine ⟨n', ?_, link'⟩
  rw [performForEvents, Http.sendForEvents_run, sent]
  rfl

end Hosting

namespace AgentResponse

theorem applyAll_updates_cited (r : AgentResponse) (texts : List CitedText) :
    r.applyAll (texts.flatMap CitedText.updates) = texts.foldl CitedText.addTo r := by
  have cite (r : AgentResponse) (citations : List Citation) :
      r.applyAll (citations.map .citation) = { r with citations := r.citations ++ citations } := by
    induction citations generalizing r with
    | nil => simp
    | cons c rest ih => simp [ih, apply]
  induction texts generalizing r with
  | nil => rfl
  | cons t rest ih =>
    rw [List.flatMap_cons, applyAll_append, ih, List.foldl_cons, CitedText.updates, applyAll_append]
    by_cases silent : t.value = ""
    · rw [if_pos silent, applyAll_nil, cite, CitedText.addTo, silent, String.append_empty]
    · rw [if_neg silent, applyAll_cons, applyAll_nil, cite]
      rfl

theorem applyAll_heard (r : AgentResponse) (texts : List WrittenText) :
    r.applyAll ((texts.map WrittenText.cited).flatMap CitedText.updates) = r.hear texts := by
  rw [applyAll_updates_cited, foldl_addTo]

theorem hear_append (r : AgentResponse) (texts more : List WrittenText) :
    r.hear (texts ++ more) = (r.hear texts).hear more := by
  rw [← foldl_addTo, ← foldl_addTo, ← foldl_addTo, List.map_append, List.foldl_append]

theorem applyAll_exchanges (r : AgentResponse) (xs : List ToolExchange) :
    r.applyAll (xs.flatMap ToolExchange.updates) = r := by
  induction xs with
  | nil => rfl
  | cons x rest ih => simpa [ToolExchange.updates, apply] using ih

theorem applyAll_usage (r : AgentResponse) (usage : Option Usage) :
    r.applyAll (Hosting.usageUpdates usage) = r.spend usage := by
  cases usage <;> rfl

end AgentResponse

namespace PersistentAgent

variable {a : PersistentAgent}

/-- What comes of the rounds: the pieces are handed over and a message was seen, or the run failed. -/
def RoundsEnd (p : Progress Update HostState AgentError Bool) (texts : List WrittenText)
    (answered : Bool) : CourseEnd → Prop
  | .completed _ usage =>
    p.result = .ok answered ∧ ∀ r : AgentResponse, r.applyAll p.items = (r.hear texts).spend usage
  | .failed run => p.result = .error (.remote run.failure)

theorem streamRounds_course {threadId runId : String}
    (sendable : RunSendable a.config threadId runId) {course : Course} {feed : Feed}
    {replies : List Reply} {texts : List WrittenText} {b : Bool}
    (h : Streamed runId course feed replies texts b) (readable : ∀ t ∈ texts, t.Readable)
    {w : HostState} (link : w.network.link = .scripted replies) (before : Bool) :
    RoundsEnd (a.streamRounds threadId before feed w) texts (before || b) course.ending := by
  -- one message in any round is enough, so the flag of the rounds before is handed on
  induction h generalizing w before with
  | @action calls rounds ending feed feed' told later e texts texts' b b' run reply rest events tells
      kind data id required next onward ih =>
    rw [List.forall_mem_append] at readable
    have round := Hosting.ofFeed_action events tells readable.1 data kind
    have ends : (Round.ofFeed feed).ending = .action run := congrArg Round.ending round
    have submit : (Operation.submitOutputs threadId run.id (a.registry.outputs run.required)
        true).Sendable a.config := id ▸ sendable.submit _ true
    obtain ⟨n', served, link'⟩ := Operation.performForEvents_served submit link next
    have submitted : a.nextRound threadId run w = (.ok feed', { w with network := n' }) :=
      HostState.call_served served
    have later_ends := ih readable.2 (w := { w with network := n' }) link'
      (before || (Round.ofFeed feed).answered)
    rw [streamRounds_action ends, submitted]
    dsimp only
    have heard (r : AgentResponse) :
        r.applyAll ((a.roundDelivered feed w).map (·.1)) = r.hear texts := by
      rw [map_roundDelivered, roundUpdates, ends]
      dsimp only
      rw [round, AgentResponse.applyAll_append, AgentResponse.applyAll_heard,
        AgentResponse.applyAll_exchanges]
    cases ending with
    | completed messages usage =>
      obtain ⟨result, items⟩ := later_ends
      refine ⟨?_, fun r => ?_⟩
      · rw [Progress.result_prepend, result, round, Bool.or_assoc]
      · rw [Progress.items_prepend, AgentResponse.applyAll_append, heard, items,
          AgentResponse.hear_append]
    | failed last => exact later_ends
  | @completed messages usage feed told later e texts b run rest events tells kind data used closes =>
    have round := Hosting.ofFeed_completed events tells readable data kind closes
    have ends : (Round.ofFeed feed).ending = .finished := congrArg Round.ending round
    rw [streamRounds_finished ends]
    refine ⟨by rw [round], fun r => ?_⟩
    rw [Progress.items, map_roundDelivered, roundUpdates, ends]
    dsimp only
    rw [round, used, AgentResponse.applyAll_append, AgentResponse.applyAll_heard,
      AgentResponse.applyAll_usage]
  | @failed feed told later e texts b run last rest events tells kind data status fault =>
    rw [streamRounds_failed (Hosting.ofFeed_failed events tells readable data kind)]
    change Except.error (AgentError.remote last.failure) = .error (.remote run.failure)
    rw [Run.failure, Run.failure, Run.faultText, Run.faultText, status, fault]

end PersistentAgent

/-- From a world on in which the agent, the thread and its messages are to be had, the service tells
the course of a run to a caller that streams. -/
inductive CourseStreamed (a : PersistentAgent) (messages : List ChatMessage) (course : Course)
    (w : HostState) : Prop
  | intro {ids : String × String} {u : HostState} {runId : String} {reply : Reply} {feed : Feed}
      {rest : List Reply} {texts : List WrittenText} {b : Bool}
      (prepared : a.prepare messages w = (.ok ids, u))
      (sendable : RunSendable a.config ids.2 runId)
      (link : u.network.link = .scripted (reply :: rest)) (first : reply.Streams feed)
      (streamed : Streamed runId course feed rest texts b)
      (readable : ∀ t ∈ texts, t.Readable) (told : course.ending.ToldIn texts b)

theorem AgentResponse.hear_eq {texts texts' : List WrittenText}
    (values : String.join (texts.map WrittenText.value) = String.join (texts'.map WrittenText.value))
    (annotations : texts.flatMap WrittenText.annotations = texts'.flatMap WrittenText.annotations)
    (r : AgentResponse) : r.hear texts = r.hear texts' := by
  rw [hear, hear, values, annotations]

namespace PersistentAgent

variable {a : PersistentAgent} {messages : List ChatMessage} {course : Course} {w : HostState}

theorem collect_conclude (p : Progress Update HostState AgentError Bool) :
    collect (a.conclude p) =
      match p.result with
      | .error e => .error e
      | .ok answered =>
        if answered then .ok (.ofUpdates p.items) else .error .missingFinalResponse := by
  rw [collect, items_conclude, conclude]
  cases p.result with
  | error e => rfl
  | ok answered => cases answered <;> rfl

theorem openStream_prepared {ids : String × String} {u : HostState} {reply : Reply} {feed : Feed}
    {rest : List Reply} {runId : String} (o : RunOptions)
    (prepared : a.prepare messages w = (.ok ids, u)) (sendable : RunSendable a.config ids.2 runId)
    (link : u.network.link = .scripted (reply :: rest)) (first : reply.Streams feed) :
    ∃ n', a.openStream messages o w = (.ok (ids.2, feed), { u with network := n' }) ∧
      n'.link = .scripted rest := by
  obtain ⟨n', served, link'⟩ := Operation.performForEvents_served
    (sendable.create (o.runRequest ids.1) true) link first
  refine ⟨n', ?_, link'⟩
  rw [openStream_eq_prepare, Work.bind_run, prepared]
  dsimp only
  rw [Work.bind_run, HostState.call_served served]
  rfl

theorem collect_course (o : RunOptions) (h : CourseStreamed a messages course w) :
    collect (a.runStreaming messages o w) = course.ending.response := by
  obtain @⟨ids, u, _, _, feed, _, texts, b, prepared, sendable, link, first, streamed, readable,
    told⟩ := h
  obtain ⟨n', opened, link'⟩ := openStream_prepared o prepared sendable link first
  have ends : RoundsEnd (a.streamRounds ids.2 false feed { u with network := n' }) texts (false || b)
      course.ending := streamRounds_course sendable streamed readable link' false
  rw [runStreaming_run, opened]
  dsimp only
  rw [collect_conclude]
  cases ending : course.ending with
  | failed run =>
    rw [ending] at ends
    rw [ends]
    rfl
  | completed spoken usage =>
    rw [ending] at ends told
    obtain ⟨result, items⟩ := ends
    obtain ⟨values, annotations, seen⟩ := told
    rw [result]
    dsimp only
    rw [Bool.false_or, AgentResponse.ofUpdates, items, AgentResponse.hear_eq values annotations]
    cases spoken with
    | nil =>
      have unseen : ¬ _ := mt seen.1 (not_not_intro rfl)
      rw [if_neg unseen]
      rfl
    | cons texts more =>
      rw [if_pos (seen.2 (List.cons_ne_nil texts more))]
      rfl

/-- A caller that waits for a run and one that collects its stream get the same response or error,
which is that of the course of the run on the service. -/
theorem run_and_runStreaming_course {w' : HostState} (o : RunOptions)
    (watched : CourseWatched a messages course w) (streamed : CourseStreamed a messages course w') :
    collect (a.runStreaming messages o w') = (a.run messages o w).1 ∧
      (a.run messages o w).1 = course.ending.response :=
  ⟨(collect_course o streamed).trans (run_course o watched).symm, run_course o watched⟩

end PersistentAgent

def answering (body : List UInt8) : Reply := ⟨.response ⟨200, body, true⟩, 0⟩

def queuedRun : String := "\x7b\"id\":\"r\",\"status\":\"queued\"\x7d"

def askingRun : String :=
  "\x7b\"id\":\"r\",\"status\":\"requires_action\",\"required_action\":\x7b\"submit_tool_outputs\":" ++
    "\x7b\"tool_calls\":[\x7b\"id\":\"c\",\"function\":\x7b\"name\":\"f\"\x7d\x7d]\x7d\x7d\x7d"

def completedRun : String :=
  "\x7b\"id\":\"r\",\"status\":\"completed\",\"usage\":\x7b\"prompt_tokens\":1\x7d\x7d"

def greetingSource : String :=
  "\x7b\"type\":\"url_citation\",\"url_citation\":\x7b\"url\":\"u\"\x7d\x7d"

def greetingList : String :=
  "\x7b\"data\":[\x7b\"role\":\"assistant\",\"content\":[\x7b\"type\":\"text\",\"text\":" ++
    "\x7b\"value\":\"Hi!\",\"annotations\":[" ++ greetingSource ++ "]\x7d\x7d]\x7d]\x7d"

def greetingDelta (text : String) : Event :=
  ⟨some "thread.message.delta", "\x7b\"delta\":\x7b\"content\":[\x7b\"type\":\"text\",\"text\":" ++
    text ++ "\x7d]\x7d\x7d"⟩

def greetingDeltas : List Event :=
  [greetingDelta "\x7b\"value\":\"Hi\"\x7d",
    greetingDelta ("\x7b\"value\":\"!\",\"annotations\":[" ++ greetingSource ++ "]\x7d")]

def greetedWorld (replies : List Reply) : HostState :=
  ⟨⟨.scripted (answering (Text.Utf8.encode "\x7b\"id\":\"t\"\x7d") :: replies), [], 0⟩, some "a", none⟩

def watchedReplies : List Reply :=
  [queuedRun, askingRun, completedRun, greetingList].map fun body =>
    answering (Text.Utf8.encode body)

def streamedReplies : List Reply :=
  [[⟨some "thread.run.requires_action", askingRun⟩],
    greetingDeltas ++ [⟨some "thread.run.completed", completedRun⟩]].map fun events =>
      answering (Hosting.roundBody events)

def greetingText : WrittenText :=
  ⟨"Hi!", [.obj [("type", .str "url_citation"), ("url_citation", .obj [("url", .str "u")])]]⟩

def greetingCourse : Course :=
  ⟨[[⟨"c", "f", ""⟩]], .completed [[greetingText]] (some ⟨1, 0⟩)⟩

theorem sendable_of_isSome {c : Hosting.Config} {o : Operation}
    (h : (o.draft c).build.toOption.isSome = true) : o.Sendable c := by
  cases built : (o.draft c).build with
  | error fault =>
    rw [built] at h
    cases h
  | ok q => exact ⟨q, built⟩

theorem runSendable_guest : RunSendable (guest 1).config "t" "r" where
  create r stream := by
    obtain ⟨q, built⟩ : (Operation.createRun "t" ⟨"a", none, none, none⟩ true).Sendable
        (guest 1).config := sendable_of_isSome (by decide +kernel)
    have other := Http.build_withBody ((Operation.createRun "t" ⟨"a", none, none, none⟩ true).draft
      (guest 1).config) (r.toJson stream) rfl
    rw [built] at other
    exact ⟨_, other⟩
  look := sendable_of_isSome (by decide +kernel)
  submit outputs stream := by
    obtain ⟨q, built⟩ : (Operation.submitOutputs "t" "r" [] true).Sendable (guest 1).config :=
      sendable_of_isSome (by decide +kernel)
    have other := Http.build_withBody ((Operation.submitOutputs "t" "r" [] true).draft
      (guest 1).config) (Hosting.outputsToJson outputs stream) rfl
    rw [built] at other
    exact ⟨_, other⟩
  list := sendable_of_isSome (by decide +kernel)

theorem prepare_greeted (replies : List Reply) :
    ∃ u, (guest 1).prepare [] (greetedWorld replies) = (.ok ("a", "t"), u) ∧
      u.network.link = .scripted replies := by
  have threads : Operation.createThread.Sendable (guest 1).config :=
    sendable_of_isSome (by decide +kernel)
  have named : (answering (Text.Utf8.encode "\x7b\"id\":\"t\"\x7d")).Holds Hosting.readId? "t" :=
    ⟨_, rfl, rfl, by decide +kernel⟩
  obtain ⟨n', asked, link, -⟩ :=
    Operation.performFor_served (n := (greetedWorld replies).network) threads rfl named
  refine ⟨⟨n', some "a", some "t"⟩, ?_, link⟩
  rw [PersistentAgent.prepare, PersistentAgent.openThread, PersistentAgent.requestThread]
  simp only [bind_assoc, pure_bind]
  rw [Work.bind_run, PersistentAgent.create_known rfl]
  dsimp only
  rw [Work.bind_run, HostState.call_served asked]
  rfl

theorem holds_answering {α : Type} {read : Json → Option α} {body : String} {v : α}
    (h : Json.readText? read body.toList = some v) :
    (answering (Text.Utf8.encode body)).Holds read v := by
  refine ⟨_, rfl, rfl, ?_⟩
  rw [Response.read?, if_pos rfl, Text.Utf8.decode?_encode]
  exact h

theorem oneLine_named {name data : String} (h : Http.OneLine name) (h' : Http.OneLine data) :
    (⟨some name, data⟩ : Event).OneLine where
  name n named := by
    obtain rfl := Option.some.inj named
    exact h
  data := h'

theorem feed_round {events : List Event} (h : ∀ e ∈ events, e.OneLine) :
    (Response.feed ⟨200, Hosting.roundBody events, true⟩).events = events ++ [Hosting.closing] := by
  change Http.decodeBody (Hosting.roundBody events) = _
  refine Http.decodeBody_writeEvents fun e he => ?_
  rcases List.mem_append.1 he with he | he
  · exact h e he
  · obtain rfl := List.mem_singleton.1 he
    exact oneLine_named (by decide) (by decide)

theorem readable_greeting : greetingText.Readable := by
  intro v member
  obtain rfl := List.mem_singleton.1 member
  decide +kernel

theorem read_queued : Json.readText? Hosting.readRun? queuedRun.toList =
    some ⟨"r", .queued, [], none, none⟩ := by decide +kernel

theorem read_asking : Json.readText? Hosting.readRun? askingRun.toList =
    some ⟨"r", .requiresAction, [⟨"c", "f", ""⟩], none, none⟩ := by decide +kernel

theorem read_completed : Json.readText? Hosting.readRun? completedRun.toList =
    some ⟨"r", .completed, [], none, some ⟨1, 0⟩⟩ := by decide +kernel

set_option maxRecDepth 20000 in
theorem read_greetingList : Json.readText? Hosting.writtenMessages? greetingList.toList =
    some [⟨"assistant", [greetingText]⟩] := by rfl

theorem watched_greeting :
    CourseWatched (guest 1) [] greetingCourse (greetedWorld watchedReplies) := by
  obtain ⟨u, prepared, link⟩ := prepare_greeted watchedReplies
  have readable : ∀ m ∈ [(⟨"assistant", [greetingText]⟩ : WrittenMessage)], m.Readable := by
    intro m member t text
    obtain rfl := List.mem_singleton.1 member
    obtain rfl := List.mem_singleton.1 text
    exact readable_greeting
  have last (t : Nat) : Watched (guest 1).config "r" ⟨[], .completed [[greetingText]] (some ⟨1, 0⟩)⟩ t
      ⟨"r", .completed, [], none, some ⟨1, 0⟩⟩ [answering (Text.Utf8.encode greetingList)] := by
    have spoken : [[greetingText]] = assistantTexts [⟨"assistant", [greetingText]⟩] := rfl
    rw [spoken]
    exact .completed rfl rfl rfl (holds_answering read_greetingList) readable
  exact .intro prepared runSendable_guest link (holds_answering read_queued) <|
    .pending rfl rfl (by decide) (holds_answering read_asking) <|
    .action rfl rfl rfl (by decide) (holds_answering read_completed) (last _)

set_option maxRecDepth 20000 in
theorem tells_greetingDeltas :
    Tells greetingDeltas [⟨"Hi", []⟩, ⟨"!", greetingText.annotations⟩] true := by
  have first : (greetingDelta "\x7b\"value\":\"Hi\"\x7d").Holds Hosting.writtenDelta? [⟨"Hi", []⟩] := by
    rfl
  have second : (greetingDelta ("\x7b\"value\":\"!\",\"annotations\":[" ++ greetingSource ++
      "]\x7d")).Holds Hosting.writtenDelta? [⟨"!", greetingText.annotations⟩] := by
    rfl
  exact .delta (by decide) first (.delta (by decide) second .nil)

theorem streamed_greeting :
    CourseStreamed (guest 1) [] greetingCourse (greetedWorld streamedReplies) := by
  obtain ⟨u, prepared, link⟩ := prepare_greeted streamedReplies
  have asking : ∀ e ∈ [(⟨some "thread.run.requires_action", askingRun⟩ : Event)], e.OneLine := by
    intro e he
    obtain rfl := List.mem_singleton.1 he
    exact oneLine_named (by decide +kernel) (by decide +kernel)
  have greeting : ∀ e ∈ greetingDeltas ++ [(⟨some "thread.run.completed", completedRun⟩ : Event)],
      e.OneLine := by
    intro e he
    rcases List.mem_append.1 he with he | he
    · rcases List.mem_cons.1 he with rfl | he
      · exact oneLine_named (by decide +kernel) (by decide +kernel)
      · obtain rfl := List.mem_singleton.1 he
        exact oneLine_named (by decide +kernel) (by decide +kernel)
    · obtain rfl := List.mem_singleton.1 he
      exact oneLine_named (by decide +kernel) (by decide +kernel)
  have asked : _ = [] ++ _ :: [Hosting.closing] := feed_round asking
  have greeted : _ = greetingDeltas ++ _ :: [Hosting.closing] := feed_round greeting
  have closes : Closes [Hosting.closing] none := .mark .nil (by decide) (by decide)
  refine .intro prepared runSendable_guest link ⟨_, rfl, rfl, rfl⟩
    (.action asked .nil (by decide) read_asking rfl rfl ⟨_, rfl, rfl, rfl⟩
      (.completed greeted tells_greetingDeltas (by decide) read_completed rfl closes)) ?_ ?_
  · intro t text
    rcases List.mem_cons.1 text with rfl | text
    · nofun
    · obtain rfl := List.mem_singleton.1 text
      exact readable_greeting
  · exact ⟨by decide +kernel, rfl, by simp⟩

theorem greeting_course :
    collect ((guest 1).runStreaming [] .default (greetedWorld streamedReplies)) =
        ((guest 1).run [] .default (greetedWorld watchedReplies)).1 ∧
      ((guest 1).run [] .default (greetedWorld watchedReplies)).1 = greetingCourse.ending.response :=
  PersistentAgent.run_and_runStreaming_course .default watched_greeting streamed_greeting

end ChatAgents
