import ChatAgents.Completion
import ChatAgents.Http.EventStream
import ChatAgents.Http.Network
import ChatAgents.Json.Fields
import ChatAgents.Json.Printer
import ChatAgents.Model.Basic
import ChatAgents.Settings.Basic
set_option autoImplicit false

namespace ChatAgents.ChatCompletions

open Http (Calls Draft Network)

inductive Endpoint where
  /-- A bearer token against `baseUrl/chat/completions`. -/
  | openAi (baseUrl : String)
  /-- An `api-key` against a deployment. -/
  | azure (endpoint deployment apiVersion : String)
deriving DecidableEq

structure Config where
  apiKey : String
  model : String
  endpoint : Endpoint
  temperature : Option Single
  topP : Option Single
  maxTokens : Option UInt32
deriving DecidableEq

namespace Config

def defaultBaseUrl : String := "https://api.openai.com/v1"

def defaultModel : String := "gpt-4o-mini"

def defaultAzureApiVersion : String := "2024-10-21"

def openAi (apiKey model : String) : Config where
  apiKey
  model
  endpoint := .openAi defaultBaseUrl
  temperature := none
  topP := none
  maxTokens := none

def azure (endpoint deployment apiKey : String) : Config where
  apiKey
  model := deployment
  endpoint := .azure (Text.dropTrailingSlashes endpoint) deployment defaultAzureApiVersion
  temperature := none
  topP := none
  maxTokens := none

def withBaseUrl (c : Config) (url : String) : Config :=
  { c with endpoint := .openAi (Text.dropTrailingSlashes url) }

/-- The API version of a deployment; another endpoint has none. -/
def withApiVersion (c : Config) (version : String) : Config :=
  match c.endpoint with
  | .azure endpoint deployment _ => { c with endpoint := .azure endpoint deployment version }
  | .openAi _ => c

def openAiFromSettings (s : Settings) : Except SettingError Config := do
  let apiKey ← s.require "OPENAI_API_KEY"
  let config := openAi apiKey (s.orDefault "OPENAI_CHAT_MODEL_NAME" defaultModel)
  match s.optional "OPENAI_BASE_URL" with
  | none => return config
  | some _ => return config.withBaseUrl (← s.url "OPENAI_BASE_URL")

def azureFromSettings (s : Settings) : Except SettingError Config := do
  let endpoint ← s.url "AZURE_OPENAI_ENDPOINT"
  let deployment ← s.require "AZURE_OPENAI_DEPLOYMENT_NAME"
  let apiKey ← s.require "AZURE_OPENAI_API_KEY"
  let config := azure endpoint deployment apiKey
  match s.optional "AZURE_OPENAI_API_VERSION" with
  | none => return config
  | some version => return config.withApiVersion version

end Config

inductive UserPart where
  | text (s : String)
  | imageUrl (url : String)
deriving DecidableEq

inductive UserContent where
  | text (s : String)
  | parts (ps : List UserPart)
deriving DecidableEq

structure WireCall where
  id : String
  name : String
  arguments : String
deriving DecidableEq

inductive WireMessage where
  | system (content : String)
  | user (content : UserContent)
  | assistant (content : Option String) (calls : List WireCall)
  | tool (callId content : String)
deriving DecidableEq

def UserPart.ofPart? (p : ContentPart) : Option UserPart :=
  match p with
  | .text s => if s = "" then none else some (.text s)
  | _ => p.imageUrl?.map .imageUrl

def UserContent.ofParts? (parts : List ContentPart) : Option UserContent :=
  if parts.all fun p => !p.isImage then
    let text := joinText parts
    if text = "" then none else some (.text text)
  else some (.parts (parts.filterMap UserPart.ofPart?))

def WireCall.ofCall (c : ToolCall) : WireCall := ⟨c.id, c.name, c.arguments.render⟩

/-- A message on the wire; one that says nothing is left out. -/
def WireMessage.ofMessage? : ModelMessage → Option WireMessage
  | .system text => if text = "" then none else some (.system text)
  | .user parts => (UserContent.ofParts? parts).map .user
  | .assistant content calls =>
    let content := content.filter (· ≠ "")
    if content.isNone && calls.isEmpty then none
    else some (.assistant content (calls.map WireCall.ofCall))
  | .toolResult callId _ content isError => some (.tool callId (toolResultText content isError))

def wireMessages (messages : List ModelMessage) : List WireMessage :=
  messages.filterMap WireMessage.ofMessage?

def UserPart.toJson : UserPart → Json
  | .text s => .obj [("type", .str "text"), ("text", .str s)]
  | .imageUrl url => .obj [("type", .str "image_url"), ("image_url", .obj [("url", .str url)])]

def UserContent.toJson : UserContent → Json
  | .text s => .str s
  | .parts ps => .arr (ps.map UserPart.toJson)

def WireCall.toJson (c : WireCall) : Json :=
  .obj [("id", .str c.id), ("type", .str "function"),
    ("function", .obj [("name", .str c.name), ("arguments", .str c.arguments)])]

def WireMessage.toJson : WireMessage → Json
  | .system content => .obj [("role", .str "system"), ("content", .str content)]
  | .user content => .obj [("role", .str "user"), ("content", content.toJson)]
  | .assistant content calls =>
    .record [("role", some (.str "assistant")), ("content", content.map .str),
      ("tool_calls", if calls.isEmpty then none else some (.arr (calls.map WireCall.toJson)))]
  | .tool callId content =>
    .obj [("role", .str "tool"), ("tool_call_id", .str callId), ("content", .str content)]

def definitionToJson (t : ToolDefinition) : Json :=
  .obj [("type", .str "function"), ("function", .obj [("name", .str t.name),
    ("description", .str t.description), ("parameters", t.parameters)])]

def wordToJson (n : UInt32) : Json := .ofNat n.toNat

/-- The body of a request. The run's own sampling settings win over those of the service. -/
def requestBody (config : Config) (r : ModelRequest) (stream : Bool) : Json :=
  .record [
    ("model", some (.str config.model)),
    ("messages", some (.arr ((wireMessages r.messages).map WireMessage.toJson))),
    ("tools", if r.tools.isEmpty then none else some (.arr (r.tools.map definitionToJson))),
    ("tool_choice", if r.tools.isEmpty then none else some (.str r.toolChoice.name)),
    ("temperature", (r.sampling.temperature <|> config.temperature).map Single.toJson),
    ("top_p", config.topP.map Single.toJson),
    ("max_tokens", (r.sampling.maxTokens <|> config.maxTokens).map wordToJson),
    ("stream", if stream then some (.bool true) else none),
    ("stream_options", if stream then some (.obj [("include_usage", .bool true)]) else none)]

def readAnnotation? (v : Json) : Option (Option Citation) := do
  let (tag, rest) ← Json.tagged? v
  if tag = "url_citation" then
    let members ← Json.fields? [⟨"url_citation", false⟩] rest
    let inner ← Json.required? some members "url_citation"
    let page ← Json.fields? [⟨"url", false⟩, ⟨"title", false⟩] inner
    return some ⟨none, .url (← Json.required? Json.string? page "url")
      (← Json.nullable? Json.string? page "title")⟩
  else return none

def readAnnotations? (v : Json) : Option (List Citation) :=
  (Json.readList? readAnnotation? v).map (·.filterMap id)

/-- A count that is missing is zero. -/
def readUsage? (v : Json) : Option Usage := do
  let members ← Json.fields? [⟨"prompt_tokens", false⟩, ⟨"completion_tokens", false⟩] v
  return ⟨(← Json.nullable? Json.readWord? members "prompt_tokens").getD 0,
    (← Json.nullable? Json.readWord? members "completion_tokens").getD 0⟩

def readCall? (v : Json) : Option WireCall := do
  let members ← Json.fields? [⟨"id", false⟩, ⟨"type", false⟩, ⟨"function", false⟩] v
  let id ← Json.required? Json.string? members "id"
  let _ ← Json.required? Json.string? members "type"
  let inner ← Json.required? some members "function"
  let function ← Json.fields? [⟨"name", false⟩, ⟨"arguments", false⟩] inner
  return ⟨id, ← Json.required? Json.string? function "name",
    ← Json.required? Json.string? function "arguments"⟩

structure AssistantMessage where
  content : Option String
  calls : List WireCall
  citations : List Citation
deriving DecidableEq

structure CompletionBody where
  choices : List (Option AssistantMessage)
  usage : Option Usage
deriving DecidableEq

def readAssistantMessage? (v : Json) : Option AssistantMessage := do
  let members ← Json.fields? [⟨"content", false⟩, ⟨"tool_calls", false⟩, ⟨"annotations", false⟩] v
  return ⟨← Json.nullable? Json.string? members "content",
    (← Json.nullable? (Json.readList? readCall?) members "tool_calls").getD [],
    (← Json.nullable? readAnnotations? members "annotations").getD []⟩

def readChoice? (v : Json) : Option (Option AssistantMessage) := do
  Json.nullable? readAssistantMessage? (← Json.fields? [⟨"message", false⟩] v) "message"

def readCompletionBody? (v : Json) : Option CompletionBody := do
  let members ← Json.fields? [⟨"choices", true⟩, ⟨"usage", false⟩] v
  return ⟨← Json.defaulted? [] (Json.readList? readChoice?) members "choices",
    ← Json.nullable? readUsage? members "usage"⟩

def WireCall.toCall (c : WireCall) : Except RemoteError ToolCall :=
  (parseArguments c.name c.arguments).map fun arguments => ⟨c.id, c.name, arguments⟩

def CompletionBody.toCompletion (b : CompletionBody) : Except RemoteError Completion :=
  match b.choices with
  | [] => .error (.response "chat completion missing choices")
  | none :: _ => .error (.response "chat completion missing choice message")
  | some m :: _ =>
    (m.calls.mapM WireCall.toCall).map fun calls =>
      ⟨m.content.filter (· ≠ ""), calls, m.citations, b.usage⟩

structure CallDelta where
  index : Nat
  id : Option String
  name : Option String
  arguments : String
deriving DecidableEq

structure Delta where
  content : Option String
  calls : List CallDelta
  citations : List Citation
deriving DecidableEq

structure ChunkChoice where
  delta : Option Delta
  finishReason : Option String
deriving DecidableEq

structure ChunkBody where
  choices : List ChunkChoice
  usage : Option Usage
deriving DecidableEq

def readCallDelta? (v : Json) : Option CallDelta := do
  let members ← Json.fields? [⟨"index", false⟩, ⟨"id", false⟩, ⟨"function", false⟩] v
  let index ← Json.required? (Json.readNat? (UInt64.size - 1)) members "index"
  let id ← Json.nullable? Json.string? members "id"
  let readFunction := Json.fields? [⟨"name", false⟩, ⟨"arguments", false⟩]
  match ← Json.nullable? readFunction members "function" with
  | none => return ⟨index, id, none, ""⟩
  | some function =>
    return ⟨index, id, ← Json.nullable? Json.string? function "name",
      (← Json.nullable? Json.string? function "arguments").getD ""⟩

def readDelta? (v : Json) : Option Delta := do
  let members ← Json.fields? [⟨"content", false⟩, ⟨"tool_calls", false⟩, ⟨"annotations", false⟩] v
  return ⟨← Json.nullable? Json.string? members "content",
    (← Json.nullable? (Json.readList? readCallDelta?) members "tool_calls").getD [],
    (← Json.nullable? readAnnotations? members "annotations").getD []⟩

def readChunkChoice? (v : Json) : Option ChunkChoice := do
  let members ← Json.fields? [⟨"delta", false⟩, ⟨"finish_reason", false⟩] v
  return ⟨← Json.nullable? readDelta? members "delta",
    ← Json.nullable? Json.string? members "finish_reason"⟩

def readChunkBody? (v : Json) : Option ChunkBody := do
  let members ← Json.fields? [⟨"choices", true⟩, ⟨"usage", false⟩] v
  return ⟨← Json.defaulted? [] (Json.readList? readChunkChoice?) members "choices",
    ← Json.nullable? readUsage? members "usage"⟩

def Delta.toChunks (d : Delta) : List Chunk :=
  textChunks d.content ++ d.calls.map (fun c => .call c.index c.id c.name c.arguments) ++
    d.citations.map .citation

def ChunkBody.toChunks (b : ChunkBody) : List Chunk :=
  (b.choices.filterMap (·.delta)).flatMap Delta.toChunks ++ usageChunks b.usage

def ChunkBody.finishes (b : ChunkBody) : Bool := b.choices.any (·.finishReason.isSome)

/-- The chunks of an event stream. It is complete with an event that says so, or at its end if some
choice had a reason to finish; what follows the first unreadable event does not count. -/
def chunkStream (fault : Option RemoteError) (finished : Bool) : List Http.Event → ChunkStream
  | [] => ⟨[], fault <|> if finished then none else some .endedEarly⟩
  | event :: rest =>
    if event.isDone then ⟨[], none⟩
    else
      match Json.readText? readChunkBody? event.data.toList with
      | none => ⟨[], some (.response ("invalid stream chunk: " ++ malformedJson))⟩
      | some body =>
        (chunkStream fault (finished || body.finishes) rest).prepend body.toChunks

def Config.address (c : Config) : String :=
  match c.endpoint with
  | .openAi baseUrl => Text.dropTrailingSlashes baseUrl ++ "/chat/completions"
  | .azure endpoint deployment apiVersion =>
    endpoint ++ "/openai/deployments/" ++ deployment ++ "/chat/completions?api-version=" ++
      apiVersion

def Config.credentials (c : Config) : String × String :=
  match c.endpoint with
  | .openAi _ => ("authorization", "Bearer " ++ c.apiKey)
  | .azure .. => ("api-key", c.apiKey)

def Config.draft (c : Config) (r : ModelRequest) (stream : Bool) : Draft where
  method := .post
  address := c.address
  fields := []
  headers := [c.credentials]
  body := some (requestBody c r stream)

def complete (c : Config) (r : ModelRequest) : Calls RemoteError Completion := do
  let body ← Http.sendFor readCompletionBody? (c.draft r false)
  Work.ofExcept body.toCompletion

def stream (c : Config) (r : ModelRequest) : Calls RemoteError ChunkStream := do
  let feed ← Http.sendForEvents (c.draft r true)
  return chunkStream feed.fault false feed.events

def model (c : Config) : ChatModel Network := ⟨complete c, stream c⟩

end ChatAgents.ChatCompletions
