import ChatAgents.Hosting.Run
import ChatAgents.Hosting.Thread
import ChatAgents.Http.Network
set_option autoImplicit false

namespace ChatAgents.Hosting

inductive EventKind where
  | messageDelta
  | messageCompleted
  | actionRequired
  | runCompleted
  | runFailed
  | error
  | other
deriving DecidableEq

def EventKind.table : List (String × EventKind) :=
  [("thread.message.delta", .messageDelta),
   ("thread.message.completed", .messageCompleted),
   ("thread.run.requires_action", .actionRequired),
   ("thread.run.completed", .runCompleted),
   ("thread.run.failed", .runFailed),
   ("thread.run.cancelled", .runFailed),
   ("thread.run.expired", .runFailed),
   ("thread.run.incomplete", .runFailed),
   ("error", .error)]

def EventKind.ofName (name : Option String) : EventKind :=
  (name.bind fun n => List.lookup n table).getD .other

inductive Effect where
  | nothing
  /-- A message of the assistant comes along, with updates for the consumer. -/
  | message (updates : List Update)
  | completed (updates : List Update)
  | action (run : Run)
  | done
  | fail (e : RemoteError)

def readData {α : Type} (e : Http.Event) (read : Json → Option α) : Except RemoteError α :=
  match Json.readText? read e.data.toList with
  | some a => .ok a
  | none =>
    .error (.response ("invalid '" ++ e.name.getD "message" ++ "' event: " ++ malformedJson))

def readErrorText? (v : Json) : Option (Option String) := do
  Json.nullable? Json.string? (← Json.fields? [⟨"message", false⟩] v) "message"

def Effect.ofData {α : Type} (e : Http.Event) (read : Json → Option α) (use : α → Effect) :
    Effect :=
  match readData e read with
  | .ok a => use a
  | .error fault => .fail fault

def usageUpdates (u : Option Usage) : List Update := (u.map Update.usage).toList

/-- The data of an error is shown as it is if it has no message. -/
def Effect.ofEvent (e : Http.Event) : Effect :=
  match EventKind.ofName e.name with
  | .messageCompleted => .message []
  | .messageDelta =>
    .ofData e readMessageDelta? fun texts => .message (texts.flatMap CitedText.updates)
  | .actionRequired => .ofData e readRun? .action
  | .runCompleted => .ofData e readRun? fun run => .completed (usageUpdates run.usage)
  | .runFailed => .ofData e readRun? fun run => .fail run.failure
  | .error => .ofData e readErrorText? fun message => .fail (.response (message.getD e.data))
  | .other => if e.isDone then .done else .nothing

inductive RoundEnd where
  | action (run : Run)
  | finished
  | failed (e : RemoteError)

structure Round where
  updates : List Update
  /-- A message of the assistant came along. -/
  answered : Bool
  ending : RoundEnd

namespace Round

def stop (ending : RoundEnd) : Round := ⟨[], false, ending⟩

def prepend (r : Round) (updates : List Update) : Round :=
  { r with updates := updates ++ r.updates }

/-- A round whose events ran out: it needs the fault that ended them, or an answer before. -/
def endOfEvents (fault : Option RemoteError) (completed : Bool) : RoundEnd :=
  match fault with
  | some e => .failed e
  | none => if completed then .finished else .failed .endedEarly

def ofEvents (fault : Option RemoteError) (completed : Bool) : List Http.Event → Round
  | [] => stop (endOfEvents fault completed)
  | e :: rest =>
    match Effect.ofEvent e with
    | .nothing => ofEvents fault completed rest
    | .message updates =>
      { ((ofEvents fault completed rest).prepend updates) with answered := true }
    | .completed updates => (ofEvents fault true rest).prepend updates
    | .action run => stop (.action run)
    | .done => stop .finished
    | .fail e => stop (.failed e)

def ofFeed (f : Http.Feed) : Round := ofEvents f.fault false f.events

end Round
end ChatAgents.Hosting
