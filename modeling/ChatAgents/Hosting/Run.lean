import ChatAgents.Completion
import ChatAgents.Json.Fields
set_option autoImplicit false

namespace ChatAgents.Hosting

inductive RunStatus where
  | queued
  | inProgress
  | requiresAction
  | cancelling
  | cancelled
  | failed
  | completed
  | expired
  | incomplete
  | unknown
deriving DecidableEq

namespace RunStatus

def name : RunStatus → String
  | .queued => "queued"
  | .inProgress => "in_progress"
  | .requiresAction => "requires_action"
  | .cancelling => "cancelling"
  | .cancelled => "cancelled"
  | .failed => "failed"
  | .completed => "completed"
  | .expired => "expired"
  | .incomplete => "incomplete"
  | .unknown => "unknown"

def known : List RunStatus :=
  [.queued, .inProgress, .requiresAction, .cancelling, .cancelled, .failed, .completed, .expired,
    .incomplete]

/-- Services may have more words for the state of a run than are known here. -/
def ofName (name : String) : RunStatus := (known.find? (·.name == name)).getD .unknown

def isFailure : RunStatus → Bool
  | .failed | .cancelled | .expired | .incomplete => true
  | _ => false

end RunStatus

structure RequiredCall where
  id : String
  name : String
  arguments : String
deriving DecidableEq

structure RunFault where
  code : Option String
  message : String
deriving DecidableEq

structure Run where
  id : String
  status : RunStatus
  required : List RequiredCall
  fault : Option RunFault
  usage : Option Usage
deriving DecidableEq

namespace Run

def faultText (r : Run) : String :=
  match r.fault with
  | some ⟨some code, message⟩ => code ++ ": " ++ message
  | some ⟨none, message⟩ => message
  | none => "no error detail"

def failure (r : Run) : RemoteError := .runFailed r.status.name r.faultText

end Run

def readRequiredCall? (v : Json) : Option RequiredCall := do
  let members ← Json.fields? [⟨"id", false⟩, ⟨"function", false⟩] v
  let id ← Json.required? Json.string? members "id"
  let inner ← Json.required? some members "function"
  let function ← Json.fields? [⟨"name", false⟩, ⟨"arguments", true⟩] inner
  return ⟨id, ← Json.required? Json.string? function "name",
    ← Json.defaulted? "" Json.string? function "arguments"⟩

def readRequiredAction? (v : Json) : Option (List RequiredCall) := do
  let members ← Json.fields? [⟨"submit_tool_outputs", false⟩] v
  let inner ← Json.required? some members "submit_tool_outputs"
  let action ← Json.fields? [⟨"tool_calls", true⟩] inner
  Json.defaulted? [] (Json.readList? readRequiredCall?) action "tool_calls"

def readRunFault? (v : Json) : Option RunFault := do
  let members ← Json.fields? [⟨"code", false⟩, ⟨"message", true⟩] v
  return ⟨← Json.nullable? Json.string? members "code",
    ← Json.defaulted? "" Json.string? members "message"⟩

def readRunUsage? (v : Json) : Option Usage := do
  let members ← Json.fields? [⟨"prompt_tokens", true⟩, ⟨"completion_tokens", true⟩] v
  return ⟨← Json.defaulted? 0 Json.readWord? members "prompt_tokens",
    ← Json.defaulted? 0 Json.readWord? members "completion_tokens"⟩

def runFields : List Json.FieldName :=
  ["id", "status", "required_action", "last_error", "usage"].map fun name => ⟨name, false⟩

def readRun? (v : Json) : Option Run := do
  let members ← Json.fields? runFields v
  return ⟨← Json.required? Json.string? members "id",
    RunStatus.ofName (← Json.required? Json.caseName? members "status"),
    (← Json.nullable? readRequiredAction? members "required_action").getD [],
    ← Json.nullable? readRunFault? members "last_error",
    ← Json.nullable? readRunUsage? members "usage"⟩

def readId? (v : Json) : Option String := do
  Json.required? Json.string? (← Json.fields? [⟨"id", false⟩] v) "id"

structure RunRequest where
  agentId : String
  additionalInstructions : Option String
  sampling : Sampling

structure ToolOutput where
  callId : String
  output : String
deriving DecidableEq

def streamMember (stream : Bool) : String × Option Json :=
  ("stream", if stream then some (.bool true) else none)

def RunRequest.toJson (r : RunRequest) (stream : Bool) : Json :=
  .record [
    ("assistant_id", some (.str r.agentId)),
    ("additional_instructions", r.additionalInstructions.map .str),
    ("temperature", r.sampling.temperature.map Single.toJson),
    ("max_completion_tokens", r.sampling.maxTokens.map fun n => .ofNat n.toNat),
    streamMember stream]

def ToolOutput.toJson (o : ToolOutput) : Json :=
  .obj [("tool_call_id", .str o.callId), ("output", .str o.output)]

def outputsToJson (outputs : List ToolOutput) (stream : Bool) : Json :=
  .record [("tool_outputs", some (.list ToolOutput.toJson outputs)), streamMember stream]

end ChatAgents.Hosting
