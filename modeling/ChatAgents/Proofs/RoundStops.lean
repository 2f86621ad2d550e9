import ChatAgents.Proofs.EventFeeds
import ChatAgents.Proofs.HostedCourses
set_option autoImplicit false

namespace ChatAgents.Hosting

open Http (Event Feed)

def failureEvents : List String :=
  ["thread.run.failed", "thread.run.cancelled", "thread.run.expired", "thread.run.incomplete"]

/-- The names of events that mean something; under any other, only the mark of the end does. -/
def knownEvents : List String :=
  ["thread.message.delta", "thread.message.completed", "thread.run.requires_action",
    "thread.run.completed", "error"] ++ failureEvents

/-- A round goes on after the event, which hands these updates over. -/
inductive Passes (e : Event) : List Update → Prop
  | delta {texts : List CitedText} (named : e.name = some "thread.message.delta")
      (data : e.Holds readMessageDelta? texts) : Passes e (texts.flatMap CitedText.updates)
  | message (named : e.name = some "thread.message.completed") : Passes e []
  | completed {run : Run} (named : e.name = some "thread.run.completed")
      (data : e.Holds readRun? run) : Passes e (usageUpdates run.usage)
  | other (unknown : ∀ n ∈ knownEvents, e.name ≠ some n) (unnamed : e.name ≠ some "done")
      (unmarked : e.data ≠ "[DONE]") : Passes e []

inductive Garbled (e : Event) : String → Prop
  | delta (unread : ∀ texts, ¬ e.Holds readMessageDelta? texts) : Garbled e "thread.message.delta"
  | run {n : String} (reports : n ∈ ["thread.run.requires_action", "thread.run.completed"] ++
      failureEvents) (unread : ∀ run, ¬ e.Holds readRun? run) : Garbled e n
  | error (unread : ∀ message, ¬ e.Holds readErrorText? message) : Garbled e "error"

/-- The event is the mark of the end: it has no name of another event, and is done by its name or by
its data. -/
structure Marks (e : Event) : Prop where
  unknown : ∀ n ∈ knownEvents, e.name ≠ some n
  mark : e.name = some "done" ∨ e.data = "[DONE]"

/-- The event ends its round in this way. -/
inductive Stops (e : Event) : RoundEnd → Prop
  | action {run : Run} (named : e.name = some "thread.run.requires_action")
      (data : e.Holds readRun? run) : Stops e (.action run)
  | failed {n : String} {run : Run} (named : e.name = some n) (failure : n ∈ failureEvents)
      (data : e.Holds readRun? run) :
      Stops e (.failed (.runFailed run.status.name run.faultText))
  | error {message : Option String} (named : e.name = some "error")
      (data : e.Holds readErrorText? message) : Stops e (.failed (.response (message.getD e.data)))
  | garbled {n : String} (named : e.name = some n) (garbled : Garbled e n) :
      Stops e (.failed (.response ("invalid '" ++ n ++ "' event: " ++ malformedJson)))
  | done (marks : Marks e) : Stops e .finished

def EventKind.Names (name : Option String) : EventKind → Prop
  | .messageDelta => name = some "thread.message.delta"
  | .messageCompleted => name = some "thread.message.completed"
  | .actionRequired => name = some "thread.run.requires_action"
  | .runCompleted => name = some "thread.run.completed"
  | .runFailed => ∃ n ∈ failureEvents, name = some n
  | .error => name = some "error"
  | .other => ∀ n ∈ knownEvents, name ≠ some n

theorem ofName_of_failure : ∀ n ∈ failureEvents, EventKind.ofName (some n) = .runFailed := by
  decide

theorem names_ofName (name : Option String) : (EventKind.ofName name).Names name := by
  cases name with
  | none => exact fun n _ => nofun
  | some n =>
    by_cases known : n ∈ knownEvents
    · rcases List.mem_append.1 known with plain | failure
      · simp only [List.mem_cons, List.not_mem_nil, or_false] at plain
        obtain rfl | rfl | rfl | rfl | rfl := plain <;> rfl
      · rw [ofName_of_failure n failure]
        exact ⟨n, failure, rfl⟩
    · have missing : List.lookup n EventKind.table = none := by
        rw [List.lookup_eq_none_iff]
        rintro ⟨m, k⟩ listed
        have in_table : ∀ p ∈ EventKind.table, p.1 ∈ knownEvents := by decide
        have named : m ∈ knownEvents := in_table _ listed
        exact bne_iff_ne.2 fun same : n = m => known (same ▸ named)
      have other : EventKind.ofName (some n) = .other := by
        rw [EventKind.ofName, Option.bind_some, missing]
        rfl
      rw [other]
      rintro m listed ⟨⟩
      exact known listed

theorem kind_of_name {e : Event} {name : Option String} (h : e.name = name) :
    kind e = EventKind.ofName name := congrArg EventKind.ofName h

theorem kind_other {e : Event} (unknown : ∀ n ∈ knownEvents, e.name ≠ some n) :
    kind e = .other := by
  have names := names_ofName e.name
  rw [kind]
  cases known : EventKind.ofName e.name with
  | other => rfl
  | runFailed =>
    rw [known] at names
    obtain ⟨n, failure, name⟩ := names
    exact absurd name (unknown n (List.mem_append_right _ failure))
  | _ =>
    rw [known] at names
    exact absurd names (unknown _ (by decide))

theorem Effect.ofData_garbled {α : Type} {e : Event} {read : Json → Option α} {n : String}
    (named : e.name = some n) (unread : ∀ v, ¬ e.Holds read v) (use : α → Effect) :
    Effect.ofData e read use =
      .fail (.response ("invalid '" ++ n ++ "' event: " ++ malformedJson)) := by
  have none_read : Json.readText? read e.data.toList = none :=
    Option.eq_none_iff_forall_ne_some.2 unread
  rw [Effect.ofData, readData, none_read, named]
  rfl

def tellsCompletion (e : Event) : Bool := e.name == some "thread.run.completed"

def tellsMessage (e : Event) : Bool :=
  e.name == some "thread.message.delta" || e.name == some "thread.message.completed"

theorem effect_delta {e : Event} {texts : List CitedText}
    (named : e.name = some "thread.message.delta") (data : e.Holds readMessageDelta? texts) :
    Effect.ofEvent e = .message (texts.flatMap CitedText.updates) := by
  rw [Effect.ofEvent, named]
  exact Effect.ofData_holds data _

theorem effect_other {e : Event} (unknown : ∀ n ∈ knownEvents, e.name ≠ some n)
    (unnamed : e.name ≠ some "done") (unmarked : e.data ≠ "[DONE]") :
    Effect.ofEvent e = .nothing :=
  ofEvent_silent (kind_other unknown) (Event.isDone_eq_false unnamed unmarked)

theorem effect_garbled {e : Event} {n : String} (named : e.name = some n) (garbled : Garbled e n) :
    Effect.ofEvent e = .fail (.response ("invalid '" ++ n ++ "' event: " ++ malformedJson)) := by
  rw [Effect.ofEvent, named]
  cases garbled with
  | delta unread => exact Effect.ofData_garbled named unread _
  | run reports unread =>
    rcases List.mem_append.1 reports with plain | failure
    · simp only [List.mem_cons, List.not_mem_nil, or_false] at plain
      obtain rfl | rfl := plain <;> exact Effect.ofData_garbled named unread _
    · rw [ofName_of_failure n failure]
      exact Effect.ofData_garbled named unread _
  | error unread => exact Effect.ofData_garbled named unread _

def RoundEnd.effect : RoundEnd → Effect
  | .action run => .action run
  | .finished => .done
  | .failed e => .fail e

theorem effect_of_stops {e : Event} {ending : RoundEnd} (h : Stops e ending) :
    Effect.ofEvent e = ending.effect := by
  cases h with
  | action named data => exact ofEvent_action (kind_of_name named) data
  | failed named failure data =>
    exact ofEvent_failed ((kind_of_name named).trans (ofName_of_failure _ failure)) data
  | error named data =>
    rw [Effect.ofEvent, named]
    exact Effect.ofData_holds data _
  | garbled named garbled => exact effect_garbled named garbled
  | done marks => exact ofEvent_mark (kind_other marks.unknown) (Event.isDone_iff.2 marks.mark)

theorem holds_or_unread {α : Type} (e : Event) (read : Json → Option α) :
    (∃ v, e.Holds read v) ∨ ∀ v, ¬ e.Holds read v := by
  rw [← not_exists]
  exact em _

theorem passes_or_stops (e : Event) : (∃ updates, Passes e updates) ∨ ∃ ending, Stops e ending := by
  have names := names_ofName e.name
  cases known : EventKind.ofName e.name with
  | messageDelta =>
    rw [known] at names
    rcases holds_or_unread e readMessageDelta? with ⟨texts, data⟩ | unread
    · exact .inl ⟨_, .delta names data⟩
    · exact .inr ⟨_, .garbled names (.delta unread)⟩
  | messageCompleted =>
    rw [known] at names
    exact .inl ⟨_, .message names⟩
  | actionRequired =>
    rw [known] at names
    rcases holds_or_unread e readRun? with ⟨run, data⟩ | unread
    · exact .inr ⟨_, .action names data⟩
    · exact .inr ⟨_, .garbled names (.run (by decide) unread)⟩
  | runCompleted =>
    rw [known] at names
    rcases holds_or_unread e readRun? with ⟨run, data⟩ | unread
    · exact .inl ⟨_, .completed names data⟩
    · exact .inr ⟨_, .garbled names (.run (by decide) unread)⟩
  | runFailed =>
    rw [known] at names
    obtain ⟨n, failure, named⟩ := names
    rcases holds_or_unread e readRun? with ⟨run, data⟩ | unread
    · exact .inr ⟨_, .failed named failure data⟩
    · exact .inr ⟨_, .garbled named (.run (List.mem_append_right _ failure) unread)⟩
  | error =>
    rw [known] at names
    rcases holds_or_unread e readErrorText? with ⟨message, data⟩ | unread
    · exact .inr ⟨_, .error names data⟩
    · exact .inr ⟨_, .garbled names (.error unread)⟩
  | other =>
    rw [known] at names
    by_cases mark : e.name = some "done" ∨ e.data = "[DONE]"
    · exact .inr ⟨_, .done ⟨names, mark⟩⟩
    · rw [not_or] at mark
      exact .inl ⟨_, .other names mark.1 mark.2⟩

theorem Passes.not_stops {e : Event} {updates : List Update} (h : Passes e updates)
    (ending : RoundEnd) : ¬ Stops e ending := by
  intro stops
  have effect := effect_of_stops stops
  cases h with
  | delta named data =>
    rw [effect_delta named data] at effect
    cases ending <;> cases effect
  | message named =>
    rw [ofEvent_message (kind_of_name named)] at effect
    cases ending <;> cases effect
  | completed named data =>
    rw [ofEvent_completed (kind_of_name named) data] at effect
    cases ending <;> cases effect
  | other unknown unnamed unmarked =>
    rw [effect_other unknown unnamed unmarked] at effect
    cases ending <;> cases effect

/-- How the events that pass, all or up to one that stops the round, end a round of this feed. -/
inductive Ends (feed : Feed) (passed : List Event) : RoundEnd → Prop
  | event {e : Event} {rest : List Event} {ending : RoundEnd}
      (events : feed.events = passed ++ e :: rest) (stops : Stops e ending) :
      Ends feed passed ending
  | broken {err : RemoteError} (events : feed.events = passed) (fault : feed.fault = some err) :
      Ends feed passed (.failed err)
  | closed (events : feed.events = passed) (whole : feed.fault = none)
      (completed : ∃ e ∈ passed, e.name = some "thread.run.completed") :
      Ends feed passed .finished
  | cutShort (events : feed.events = passed) (whole : feed.fault = none)
      (uncompleted : ∀ e ∈ passed, e.name ≠ some "thread.run.completed") :
      Ends feed passed (.failed .endedEarly)

/-- A round as it is read: the events that pass, what each of them hands over, and the end. -/
structure RoundRead where
  feed : Feed
  passed : List Event
  told : List (List Update)
  ending : RoundEnd
  passes : List.Forall₂ Passes passed told
  ends : Ends feed passed ending

namespace Round

theorem ofEvents_passes {e : Event} {updates : List Update} (h : Passes e updates)
    (fault : Option RemoteError) (completed : Bool) (rest : List Event) :
    ofEvents fault completed (e :: rest) =
      { (ofEvents fault (completed || tellsCompletion e) rest).prepend updates with
        answered :=
          tellsMessage e || (ofEvents fault (completed || tellsCompletion e) rest).answered } := by
  rw [ofEvents_cons]
  cases h with
  | delta named data =>
    rw [effect_delta named data, tellsCompletion, tellsMessage, named]
    simp [afterEffect]
  | message named =>
    rw [ofEvent_message (kind_of_name named), tellsCompletion, tellsMessage, named]
    simp [afterEffect]
  | completed named data =>
    rw [ofEvent_completed (kind_of_name named) data, tellsCompletion, tellsMessage, named]
    simp [afterEffect, prepend]
  | other unknown unnamed unmarked =>
    have uncompleted : tellsCompletion e = false := beq_false_of_ne (unknown _ (by decide))
    have unspoken : tellsMessage e = false := by
      rw [tellsMessage, beq_false_of_ne (unknown _ (by decide)),
        beq_false_of_ne (unknown _ (by decide))]
      rfl
    rw [effect_other unknown unnamed unmarked, uncompleted, unspoken]
    simp [afterEffect, prepend]

theorem ofEvents_passed {passed : List Event} {told : List (List Update)}
    (h : List.Forall₂ Passes passed told) (fault : Option RemoteError) (completed : Bool)
    (rest : List Event) :
    let later := ofEvents fault (completed || passed.any tellsCompletion) rest
    ofEvents fault completed (passed ++ rest) =
      ⟨told.flatten ++ later.updates, passed.any tellsMessage || later.answered, later.ending⟩ := by
  induction h generalizing completed with
  | nil => simp
  | cons first _ ih =>
    dsimp only at ih ⊢
    rw [List.cons_append, ofEvents_passes first, ih]
    simp only [prepend, List.any_cons, List.flatten_cons, List.append_assoc, Bool.or_assoc]

end Round

namespace RoundRead

variable (r : RoundRead)

def Answers : Prop :=
  ∃ e ∈ r.passed, e.name = some "thread.message.delta" ∨ e.name = some "thread.message.completed"

/-- The round reached the mark of the end, or the end of its body after the completed run. -/
def Finishes : Prop :=
  (∃ e rest, r.feed.events = r.passed ++ e :: rest ∧ Marks e) ∨
    r.feed.events = r.passed ∧ r.feed.fault = none ∧
      ∃ e ∈ r.passed, e.name = some "thread.run.completed"

/-- The body of the round came to its end with nothing that ends a round. -/
def CutShort : Prop :=
  r.feed.events = r.passed ∧ r.feed.fault = none ∧
    ∀ e ∈ r.passed, e.name ≠ some "thread.run.completed"

theorem passed_not_stops {e : Event} (h : e ∈ r.passed) (ending : RoundEnd) : ¬ Stops e ending := by
  obtain ⟨k, at_k⟩ := List.mem_iff_getElem?.1 h
  obtain ⟨inside, rfl⟩ := List.getElem?_eq_some_iff.1 at_k
  exact (r.passes.get inside (r.passes.length_eq ▸ inside)).not_stops ending

theorem any_tellsMessage : r.passed.any tellsMessage = true ↔ r.Answers := by
  simp [Answers, tellsMessage]

theorem round_eq :
    Round.ofFeed r.feed = ⟨r.told.flatten, r.passed.any tellsMessage, r.ending⟩ := by
  have stopped {fault : Option RemoteError} {completed : Bool} {e : Event} {rest : List Event}
      {ending : RoundEnd} (stops : Stops e ending) :
      Round.ofEvents fault completed (e :: rest) = Round.stop ending := by
    rw [Round.ofEvents_cons, effect_of_stops stops]
    cases ending <;> rfl
  have whole (events : r.feed.events = r.passed) : r.feed.events = r.passed ++ [] := by
    rw [events, List.append_nil]
  obtain ⟨feed, passed, told, ending, passes, ends⟩ := r
  rw [Round.ofFeed]
  cases ends with
  | event events stops =>
    rw [events, Round.ofEvents_passed passes, stopped stops]
    simp [Round.stop]
  | broken events fault =>
    rw [whole events, Round.ofEvents_passed passes, fault]
    simp [Round.ofEvents, Round.stop, Round.endOfEvents]
  | closed events unfaulted completed =>
    have told_so : passed.any tellsCompletion = true := by simpa [tellsCompletion] using completed
    rw [whole events, Round.ofEvents_passed passes, unfaulted, told_so]
    simp [Round.ofEvents, Round.stop, Round.endOfEvents]
  | cutShort events unfaulted uncompleted =>
    have untold : passed.any tellsCompletion = false := by simpa [tellsCompletion] using uncompleted
    rw [whole events, Round.ofEvents_passed passes, unfaulted, untold]
    simp [Round.ofEvents, Round.stop, Round.endOfEvents]

theorem ending_unique {ending : RoundEnd} (h : Ends r.feed r.passed ending) :
    ending = r.ending := by
  let other : RoundRead := { r with ending, ends := h }
  have same : Round.ofFeed r.feed = ⟨_, _, ending⟩ := other.round_eq
  rw [r.round_eq] at same
  exact (congrArg Round.ending same).symm

theorem finished_iff : r.ending = .finished ↔ r.Finishes := by
  constructor
  · intro finished
    have ends := finished ▸ r.ends
    generalize ending : RoundEnd.finished = last at ends
    cases ends with
    | event events stops =>
      subst ending
      cases stops with
      | done marks => exact .inl ⟨_, _, events, marks⟩
    | broken => cases ending
    | closed events whole completed => exact .inr ⟨events, whole, completed⟩
    | cutShort => cases ending
  · rintro (⟨e, rest, events, marks⟩ | ⟨events, whole, completed⟩)
    · exact (r.ending_unique (.event events (.done marks))).symm
    · exact (r.ending_unique (.closed events whole completed)).symm

/-- A service that reports an error of its own may use these words as well. -/
def ReportsEarlyEnd : Prop :=
  ∃ e rest message, r.feed.events = r.passed ++ e :: rest ∧ e.name = some "error" ∧
    e.Holds readErrorText? message ∧ RemoteError.response (message.getD e.data) = .endedEarly

theorem invalidEvent_ne_endedEarly (n : String) :
    RemoteError.response ("invalid '" ++ n ++ "' event: " ++ malformedJson) ≠ .endedEarly := by
  intro same
  have texts := congrArg String.toList (RemoteError.response.inj same)
  rw [String.toList_append, String.toList_append, String.toList_append] at texts
  have first : some 'i' = some 's' := congrArg List.head? texts
  exact absurd first (by decide)

theorem endedEarly_iff (unfaulted : r.feed.fault ≠ some .endedEarly) :
    r.ending = .failed .endedEarly ↔ r.CutShort ∨ r.ReportsEarlyEnd := by
  constructor
  · intro early
    have ends := early ▸ r.ends
    generalize ending : RoundEnd.failed .endedEarly = last at ends
    cases ends with
    | event events stops =>
      subst ending
      generalize ending : RoundEnd.failed .endedEarly = last at stops
      cases stops with
      | action | done => cases ending
      | failed => cases ending
      | @error message named data =>
        exact .inr ⟨_, _, message, events, named, data, (RoundEnd.failed.inj ending).symm⟩
      | @garbled n =>
        exact absurd (RoundEnd.failed.inj ending).symm (invalidEvent_ne_endedEarly n)
    | broken events fault =>
      obtain rfl := RoundEnd.failed.inj ending
      exact absurd fault unfaulted
    | closed => cases ending
    | cutShort events whole uncompleted => exact .inl ⟨events, whole, uncompleted⟩
  · rintro (⟨events, whole, uncompleted⟩ | ⟨e, rest, message, events, named, data, words⟩)
    · exact (r.ending_unique (.cutShort events whole uncompleted)).symm
    · rw [← words]
      exact (r.ending_unique (.event events (.error named data))).symm

end RoundRead

theorem ofFeed_of_stops {passed : List Event} {told : List (List Update)} {e : Event}
    {ending : RoundEnd} (passes : List.Forall₂ Passes passed told) (stops : Stops e ending)
    (rest : List Event) (fault : Option RemoteError) :
    Round.ofFeed ⟨passed ++ e :: rest, fault⟩ =
      ⟨told.flatten, passed.any tellsMessage, ending⟩ :=
  RoundRead.round_eq ⟨⟨_, fault⟩, passed, told, ending, passes, .event rfl stops⟩

theorem exists_roundRead (feed : Feed) : ∃ r : RoundRead, r.feed = feed := by
  obtain ⟨passed, told, passes, whole | ⟨e, rest, split, ending, stops⟩⟩ :=
    exists_front passes_or_stops feed.events
  · cases fault : feed.fault with
    | some err => exact ⟨⟨feed, passed, told, _, passes, .broken whole fault⟩, rfl⟩
    | none =>
      by_cases completed : ∃ e ∈ passed, e.name = some "thread.run.completed"
      · exact ⟨⟨feed, passed, told, _, passes, .closed whole fault completed⟩, rfl⟩
      · refine ⟨⟨feed, passed, told, _, passes, .cutShort whole fault fun e he named => ?_⟩, rfl⟩
        exact completed ⟨e, he, named⟩
  · exact ⟨⟨feed, passed, told, ending, passes, .event split stops⟩, rfl⟩

end ChatAgents.Hosting
