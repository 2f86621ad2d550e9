import ChatAgents.Proofs.CutAnswers
import ChatAgents.Proofs.HostedRuns
set_option autoImplicit false

namespace ChatAgents

def Update.speaks : Update → Bool
  | .usage _ => false
  | _ => true

namespace Hosting

open Http (CutEvents Event OneLine)

def closing : Event := ⟨some "done", "[DONE]"⟩

def kind (e : Event) : EventKind := EventKind.ofName e.name

/-- An event that brings a message of the assistant, or says that one is complete. -/
def BringsMessage (e : Event) : Prop := kind e = .messageDelta ∨ kind e = .messageCompleted

/-- An event about a thread, or an error, that asks for nothing. -/
structure Reports (e : Event) : Prop where
  named : ∃ n, e.name = some n ∧ ("thread.".toList <+: n.toList ∨ n = "error")
  oneLine : e.OneLine
  object : Json.IsObject e.data.toList
  unasking : kind e ≠ .actionRequired

/-- The run is not completed before the last of its messages. -/
def MessagesFirst (events : List Event) : Prop :=
  events.Pairwise fun e later => kind e = .runCompleted → ¬ BringsMessage later

theorem readData_of_unread {α : Type} {e : Event} (read : Json → Option α)
    (h : Json.document? Json.maxDepth e.data.toList = none) :
    ∃ fault, readData e read = .error fault := by
  rw [readData, Json.readText?, h]
  exact ⟨_, rfl⟩

theorem readData_of_same {α : Type} {e e' : Event} {read : Json → Option α}
    (name : e'.name = e.name)
    (h : Json.document? Json.maxDepth e'.data.toList = Json.document? Json.maxDepth e.data.toList) :
    readData e' read = readData e read := by
  rw [readData, readData, Json.readText?, Json.readText?, h, name]

theorem Effect.ofData_fails {α : Type} {e : Event} {read : Json → Option α} {use : α → Effect}
    (h : Json.document? Json.maxDepth e.data.toList = none) :
    ∃ fault, Effect.ofData e read use = .fail fault := by
  obtain ⟨fault, unread⟩ := readData_of_unread read h
  exact ⟨fault, by rw [Effect.ofData, unread]⟩

theorem Effect.ofData_error_fails (e : Event) :
    ∃ fault, Effect.ofData e readErrorText? (fun message => .fail (.response (message.getD e.data))) =
      .fail fault := by
  rw [Effect.ofData]
  cases readData e readErrorText? with
  | ok message => exact ⟨_, rfl⟩
  | error fault => exact ⟨_, rfl⟩

/-- What an event says whose name or data broke off. -/
inductive Effect.Weakened (whole : Effect) : Effect → Prop where
  | fails (e : RemoteError) : Weakened whole (.fail e)
  | nothing : Weakened whole .nothing
  | message : Weakened whole (.message [])
  | same : Weakened whole whole

theorem Effect.weakened_of_unread (whole : Effect) {e : Event} (unclosed : e.isDone = false)
    (h : Json.document? Json.maxDepth e.data.toList = none) :
    whole.Weakened (Effect.ofEvent e) := by
  have fails {x : Effect} (hx : ∃ fault, x = .fail fault) : whole.Weakened x := by
    obtain ⟨fault, rfl⟩ := hx
    exact .fails fault
  unfold Effect.ofEvent
  split
  · exact .message
  · exact fails (ofData_fails h)
  · exact fails (ofData_fails h)
  · exact fails (ofData_fails h)
  · exact fails (ofData_fails h)
  · exact fails (ofData_fails h)
  · rw [unclosed]
    exact .nothing

theorem Effect.weakened_of_same {e e' : Event} (name : e'.name = e.name)
    (unclosed : e'.isDone = false)
    (h : Json.document? Json.maxDepth e'.data.toList = Json.document? Json.maxDepth e.data.toList) :
    (Effect.ofEvent e).Weakened (Effect.ofEvent e') := by
  unfold Effect.ofEvent
  rw [name]
  cases EventKind.ofName e.name with
  | messageCompleted => exact .message
  | messageDelta | actionRequired | runCompleted | runFailed =>
    simp only [Effect.ofData, readData_of_same name h]
    exact .same
  | error =>
    obtain ⟨fault, failed⟩ := Effect.ofData_error_fails e'
    dsimp only
    rw [failed]
    exact .fails fault
  | other =>
    rw [unclosed]
    exact .nothing

theorem cut_name_ne_done {n : String} (named : "thread.".toList <+: n.toList ∨ n = "error")
    {x : List Char} (cut : Text.Utf8.Cut n.toList x) : x ≠ "done".toList := by
  rintro rfl
  generalize mark : "done".toList = done at cut
  generalize whole : n.toList = cs at cut
  cases cut with
  | between _ back =>
    rcases named with ⟨rest, thread⟩ | rfl
    · rw [whole, ← mark] at thread
      have first : some 't' = some 'd' := congrArg List.head? thread
      exact absurd first (by decide)
    · rw [← mark] at whole
      have first : some 'e' = some 'd' := congrArg List.head? whole
      exact absurd first (by decide)
  | inside front c back far =>
    have last := congrArg List.getLast? mark
    rw [List.getLast?_append] at last
    exact absurd (Option.some.inj last) (by decide)

theorem Reports.name_ne_done {e : Event} (h : Reports e) : e.name ≠ some "done" := by
  obtain ⟨n, name, named⟩ := h.named
  rw [name]
  intro done
  obtain rfl := Option.some.inj done
  exact cut_name_ne_done named (.whole _) rfl

theorem ofList_ne {x : List Char} {s : String} (h : x ≠ s.toList) : String.ofList x ≠ s := by
  rintro rfl
  exact h String.toList_ofList.symm

theorem Reports.cut {e last : Event} (h : Reports e) (part : e.Cut (some last)) :
    (Effect.ofEvent e).Weakened (Effect.ofEvent last) := by
  cases part with
  | @name n x named cut =>
    obtain ⟨n', name, meaning⟩ := h.named
    obtain rfl : n = n' := Option.some.inj (named.symm.trans name)
    have unnamed : some (String.ofList x) ≠ some "done" := fun done =>
      ofList_ne (cut_name_ne_done meaning cut) (Option.some.inj done)
    have empty : "" ≠ "[DONE]" := by decide
    have unclosed : Event.isDone ⟨some (String.ofList x), ""⟩ = false :=
      Event.isDone_eq_false unnamed empty
    exact Effect.weakened_of_unread _ unclosed rfl
  | @data x cut =>
    obtain ⟨members, whole⟩ := h.object
    have unclosed : Event.isDone ⟨e.name, String.ofList x⟩ = false :=
      Event.isDone_eq_false h.name_ne_done (ofList_ne (Http.cut_ne_done h.object cut))
    rcases Json.document?_cut whole cut with unread | same
    · exact Effect.weakened_of_unread _ unclosed (by rw [String.toList_ofList, unread])
    · exact Effect.weakened_of_same rfl unclosed (by rw [String.toList_ofList, same, whole])

theorem closing_cut {last : Event} (part : closing.Cut (some last)) :
    (Effect.ofEvent closing).Weakened (Effect.ofEvent last) := by
  cases part with
  | @name n x named cut =>
    obtain rfl := Option.some.inj named
    have split : "done".toList = "done".toList ++ [] := rfl
    rw [split] at cut
    rcases cut.append_cases (by decide) with ⟨k, lt, rfl⟩ | ⟨y, rfl, rest⟩
    · obtain rfl | rfl | rfl | rfl : k = 0 ∨ k = 1 ∨ k = 2 ∨ k = 3 := by
        change k < 4 at lt
        omega
      all_goals exact .nothing
    · rw [rest.eq_nil rfl, List.append_nil]
      exact .same
  | @data x cut =>
    have done : Event.isDone ⟨closing.name, String.ofList x⟩ = true := by
      simp [Event.isDone, closing]
    have same : Effect.ofEvent ⟨closing.name, String.ofList x⟩ = .done := by
      change (if Event.isDone ⟨closing.name, String.ofList x⟩ then Effect.done else .nothing) = .done
      rw [done, if_pos rfl]
    rw [same]
    exact .same

theorem Effect.ofData_cases {α : Type} (e : Event) (read : Json → Option α) (use : α → Effect) :
    (∃ v, Effect.ofData e read use = use v) ∨ ∃ fault, Effect.ofData e read use = .fail fault := by
  rw [Effect.ofData]
  cases readData e read with
  | ok v => exact .inl ⟨v, rfl⟩
  | error fault => exact .inr ⟨fault, rfl⟩

def Effect.Fits (k : EventKind) : Effect → Prop
  | .message _ => k = .messageDelta ∨ k = .messageCompleted
  | .completed updates => k = .runCompleted ∧ updates.filter Update.speaks = []
  | .action _ => k = .actionRequired
  | .nothing | .done | .fail _ => True

theorem Effect.fits_ofData {α : Type} {k : EventKind} (e : Event) (read : Json → Option α)
    {use : α → Effect} (h : ∀ v, (use v).Fits k) : (Effect.ofData e read use).Fits k := by
  rcases Effect.ofData_cases e read use with ⟨v, used⟩ | ⟨fault, failed⟩
  · rw [used]
    exact h v
  · rw [failed]
    trivial

theorem speaks_usageUpdates (u : Option Usage) : (usageUpdates u).filter Update.speaks = [] := by
  cases u <;> rfl

theorem Effect.fits_ofEvent (e : Event) : (Effect.ofEvent e).Fits (kind e) := by
  unfold Effect.ofEvent kind
  cases EventKind.ofName e.name with
  | messageCompleted => exact .inr rfl
  | messageDelta => exact fits_ofData e _ fun _ => .inl rfl
  | actionRequired => exact fits_ofData e _ fun _ => rfl
  | runCompleted => exact fits_ofData e _ fun run => ⟨rfl, speaks_usageUpdates run.usage⟩
  | runFailed => exact fits_ofData e _ fun _ => trivial
  | error => exact fits_ofData e _ fun _ => trivial
  | other =>
    dsimp only
    split <;> trivial

namespace Round

def afterEffect (fault : Option RemoteError) (completed : Bool) (rest : List Event) :
    Effect → Round
  | .nothing => ofEvents fault completed rest
  | .message updates => { ((ofEvents fault completed rest).prepend updates) with answered := true }
  | .completed updates => (ofEvents fault true rest).prepend updates
  | .action run => stop (.action run)
  | .done => stop .finished
  | .fail e => stop (.failed e)

theorem ofEvents_cons (fault : Option RemoteError) (completed : Bool) (e : Event)
    (rest : List Event) :
    ofEvents fault completed (e :: rest) = afterEffect fault completed rest (Effect.ofEvent e) := by
  rw [ofEvents]
  cases Effect.ofEvent e <;> rfl

theorem speaks_ofEvents_of_silent {events : List Event} (h : ∀ e ∈ events, ¬ BringsMessage e)
    (fault : Option RemoteError) (completed : Bool) :
    (ofEvents fault completed events).updates.filter Update.speaks = [] := by
  induction events generalizing completed with
  | nil => rfl
  | cons e rest ih =>
    have silent := fun e' he => h e' (List.mem_cons_of_mem e he)
    have fits := Effect.fits_ofEvent e
    rw [ofEvents]
    cases effect : Effect.ofEvent e with
    | nothing => exact ih silent completed
    | message updates =>
      rw [effect] at fits
      exact absurd fits (h e List.mem_cons_self)
    | completed updates =>
      rw [effect] at fits
      obtain ⟨-, usage⟩ := fits
      simp only [prepend, List.filter_append, usage, ih silent true, List.nil_append]
    | action run => rfl
    | done => rfl
    | fail fault => rfl

theorem ending_ne_action {events : List Event} (h : ∀ e ∈ events, kind e ≠ .actionRequired)
    (fault : Option RemoteError) (completed : Bool) (run : Run) :
    (ofEvents fault completed events).ending ≠ .action run := by
  induction events generalizing completed with
  | nil =>
    cases fault <;> cases completed <;> simp [ofEvents, stop, endOfEvents]
  | cons e rest ih =>
    have unasking := fun e' he => h e' (List.mem_cons_of_mem e he)
    have fits := Effect.fits_ofEvent e
    rw [ofEvents]
    cases effect : Effect.ofEvent e with
    | nothing => exact ih unasking completed
    | message updates => exact ih unasking completed
    | completed updates => exact ih unasking true
    | action run' =>
      rw [effect] at fits
      exact absurd fits (h e List.mem_cons_self)
    | done => simp [stop]
    | fail fault => simp [stop]

/-- Compared with a whole round, one fails or is finished and has told the consumer the same. -/
def Tells (whole r : Round) : Prop :=
  (∃ e, r.ending = .failed e) ∨
    r.ending = .finished ∧ r.updates.filter Update.speaks = whole.updates.filter Update.speaks

theorem Tells.prepend {whole r : Round} (h : whole.Tells r) (updates : List Update) :
    (whole.prepend updates).Tells (r.prepend updates) := by
  rcases h with failed | ⟨finished, told⟩
  · exact .inl failed
  · refine .inr ⟨finished, ?_⟩
    simp only [Round.prepend, List.filter_append, told]

theorem tells_of_end {events : List Event} {completed : Bool}
    (settled : completed = true → ∀ e ∈ events, ¬ BringsMessage e) :
    (ofEvents none completed events).Tells (ofEvents none completed []) := by
  cases completed with
  | false => exact .inl ⟨.endedEarly, rfl⟩
  | true => exact .inr ⟨rfl, (speaks_ofEvents_of_silent (settled rfl) none true).symm⟩

theorem settled_of_pairwise {e : Event} {rest : List Event} {completed : Bool}
    (settled : completed = true → ∀ e' ∈ e :: rest, ¬ BringsMessage e')
    (order : MessagesFirst (e :: rest)) (ended : completed = true ∨ kind e = .runCompleted) :
    ∀ e' ∈ rest, ¬ BringsMessage e' := by
  rcases ended with before | now
  · exact fun e' he => settled before e' (List.mem_cons_of_mem e he)
  · exact fun e' he => (List.pairwise_cons.1 order).1 e' he now

theorem tells_of_weakened {e last : Event} {rest : List Event}
    (weakened : (Effect.ofEvent e).Weakened (Effect.ofEvent last))
    (unasking : kind e ≠ .actionRequired) (order : MessagesFirst (e :: rest)) {completed : Bool}
    (settled : completed = true → ∀ e' ∈ e :: rest, ¬ BringsMessage e') :
    (ofEvents none completed (e :: rest)).Tells (ofEvents none completed [last]) := by
  -- a cut event fails the round, hands nothing over, or does what the whole one does
  have ended := tells_of_end settled
  rw [ofEvents_cons none completed last]
  generalize Effect.ofEvent last = effect at weakened
  cases weakened with
  | fails fault => exact .inl ⟨fault, rfl⟩
  | nothing => exact ended
  | message => exact ended
  | same =>
    have fits := Effect.fits_ofEvent e
    rw [ofEvents_cons] at ended ⊢
    cases effect : Effect.ofEvent e with
    | nothing =>
      rw [effect] at ended
      exact ended
    | message updates =>
      rw [effect] at fits
      cases completed with
      | false => exact .inl ⟨.endedEarly, rfl⟩
      | true => exact absurd fits (settled rfl e List.mem_cons_self)
    | completed updates =>
      rw [effect] at fits
      have silent := settled_of_pairwise settled order (.inr fits.1)
      exact (tells_of_end fun _ => silent).prepend updates
    | action run =>
      rw [effect] at fits
      exact absurd fits unasking
    | done => exact .inr ⟨rfl, rfl⟩
    | fail fault => exact .inl ⟨fault, rfl⟩

theorem tells_of_cut {events seen : List Event} (cut : CutEvents events seen)
    (h : ∀ e ∈ events, Reports e ∨ e = closing) (order : MessagesFirst events) {completed : Bool}
    (settled : completed = true → ∀ e ∈ events, ¬ BringsMessage e) :
    (ofEvents none completed events).Tells (ofEvents none completed seen) := by
  -- on the events that arrived whole; `settled` is the invariant, as for a stream of chunks
  induction cut generalizing completed with
  | all => exact tells_of_end settled
  | @cut e rest last part =>
    cases last with
    | none => exact tells_of_end settled
    | some last =>
      rcases h e List.mem_cons_self with reports | rfl
      · exact tells_of_weakened (reports.cut part) reports.unasking order settled
      · exact tells_of_weakened (closing_cut part) (by decide) order settled
  | @next e rest seen more ih =>
    have later := (List.pairwise_cons.1 order).2
    have rest_ok := fun e' he => h e' (List.mem_cons_of_mem e he)
    have fits := Effect.fits_ofEvent e
    rw [ofEvents_cons, ofEvents_cons]
    cases effect : Effect.ofEvent e with
    | nothing => exact ih rest_ok later fun ended => settled_of_pairwise settled order (.inl ended)
    | message updates =>
      exact (ih rest_ok later fun ended =>
        settled_of_pairwise settled order (.inl ended)).prepend updates
    | completed updates =>
      rw [effect] at fits
      exact (ih rest_ok later fun _ =>
        settled_of_pairwise settled order (.inr fits.1)).prepend updates
    | action run =>
      rw [effect] at fits
      have unasking : kind e ≠ .actionRequired := by
        rcases h e List.mem_cons_self with reports | rfl
        · exact reports.unasking
        · decide
      exact absurd fits unasking
    | done => exact .inr ⟨rfl, rfl⟩
    | fail fault => exact .inl ⟨fault, rfl⟩

theorem tells_of_cut_closing {events seen : List Event} (reports : ∀ e ∈ events, Reports e)
    (order : MessagesFirst events) (cut : CutEvents (events ++ [closing]) seen) :
    (ofFeed ⟨events ++ [closing], none⟩).Tells (ofFeed ⟨seen, none⟩) := by
  refine tells_of_cut cut ?_ ?_ fun ended => absurd ended Bool.false_ne_true
  · intro e he
    rcases List.mem_append.1 he with he | he
    · exact .inl (reports e he)
    · exact .inr (List.mem_singleton.1 he)
  · refine List.pairwise_append.2 ⟨order, List.pairwise_singleton _ _, ?_⟩
    intro e _ last hlast _
    obtain rfl := List.mem_singleton.1 hlast
    exact fun brings => brings.elim (by decide) (by decide)

theorem ending_ne_action_of_reports {events : List Event} (reports : ∀ e ∈ events, Reports e)
    (run : Run) : (ofFeed ⟨events ++ [closing], none⟩).ending ≠ .action run := by
  refine ending_ne_action ?_ none false run
  intro e he
  rcases List.mem_append.1 he with he | he
  · exact (reports e he).unasking
  · obtain rfl := List.mem_singleton.1 he
    decide

end Round

end Hosting
end ChatAgents
