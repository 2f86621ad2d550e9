import ChatAgents.Hosting.Definition
import ChatAgents.Hosting.Run
import ChatAgents.Hosting.Thread
import ChatAgents.Http.Network
import ChatAgents.Settings.Basic
set_option autoImplicit false

/-!
# Operations of the hosting service

Everything that is asked of the service is one of these operations. Ids stand in paths as they are.
-/

namespace ChatAgents.Hosting

open Http (Calls Draft Feed Method)

structure Config where
  endpoint : String
  deployment : String
  accessToken : String
  apiVersion : String
  /-- Milliseconds between two looks at a run. -/
  pollInterval : Nat
  /-- Milliseconds that a run under observation may stay unfinished. -/
  runTimeout : Nat
deriving DecidableEq

namespace Config

def new (endpoint deployment accessToken : String) : Config where
  endpoint := Text.dropTrailingSlashes endpoint
  deployment
  accessToken
  apiVersion := "v1"
  pollInterval := 500
  runTimeout := 300000

def fromSettings (s : Settings) : Except SettingError Config := do
  let endpoint ← s.url "AZURE_FOUNDRY_PROJECT_ENDPOINT"
  let deployment ← s.require "AZURE_FOUNDRY_PROJECT_DEPLOYMENT_NAME"
  let accessToken ← s.require "AZURE_FOUNDRY_ACCESS_TOKEN"
  let config := new endpoint deployment accessToken
  return { config with apiVersion := s.orDefault "AZURE_FOUNDRY_API_VERSION" config.apiVersion }

end Config

inductive Operation where
  | createAgent (d : Definition)
  | deleteAgent (id : String)
  | createThread
  | deleteThread (id : String)
  | createMessage (threadId : String) (message : Json)
  /-- The messages of a run, oldest first. -/
  | listMessages (threadId runId : String)
  | createRun (threadId : String) (r : RunRequest) (stream : Bool)
  | getRun (threadId runId : String)
  | submitOutputs (threadId runId : String) (outputs : List ToolOutput) (stream : Bool)

namespace Operation

def method : Operation → Method
  | .deleteAgent _ | .deleteThread _ => .delete
  | .getRun .. | .listMessages .. => .get
  | .createAgent _ | .createThread | .createMessage .. | .createRun .. | .submitOutputs .. => .post

def path : Operation → String
  | .createAgent _ => "assistants"
  | .deleteAgent id => "assistants/" ++ id
  | .createThread => "threads"
  | .deleteThread id => "threads/" ++ id
  | .createMessage threadId _ | .listMessages threadId _ => "threads/" ++ threadId ++ "/messages"
  | .createRun threadId _ _ => "threads/" ++ threadId ++ "/runs"
  | .getRun threadId runId => "threads/" ++ threadId ++ "/runs/" ++ runId
  | .submitOutputs threadId runId _ _ =>
    "threads/" ++ threadId ++ "/runs/" ++ runId ++ "/submit_tool_outputs"

def fields : Operation → List (String × String)
  | .listMessages _ runId => [("order", "asc"), ("run_id", runId)]
  | _ => []

def body : Operation → Option Json
  | .createAgent d => some d.toJson
  | .createThread => some .empty
  | .createMessage _ message => some message
  | .createRun _ r stream => some (r.toJson stream)
  | .submitOutputs _ _ outputs stream => some (outputsToJson outputs stream)
  | .deleteAgent _ | .deleteThread _ | .listMessages .. | .getRun .. => none

def draft (o : Operation) (c : Config) : Draft where
  method := o.method
  address := c.endpoint ++ "/" ++ o.path
  fields := ("api-version", c.apiVersion) :: o.fields
  headers := [("authorization", "Bearer " ++ c.accessToken)]
  body := o.body

def perform (o : Operation) (c : Config) : Calls RemoteError Unit := do
  let _ ← Http.send (o.draft c)
  return ()

def performFor {α : Type} (read : Json → Option α) (o : Operation) (c : Config) :
    Calls RemoteError α :=
  Http.sendFor read (o.draft c)

def performForEvents (o : Operation) (c : Config) : Calls RemoteError Feed :=
  Http.sendForEvents (o.draft c)

end Operation
end ChatAgents.Hosting
