import ChatAgents.Completion
import ChatAgents.Http.Network
import ChatAgents.Json.Fields
import ChatAgents.Json.Printer
import ChatAgents.Model.Basic
import ChatAgents.Settings.Basic
set_option autoImplicit false

namespace ChatAgents.Messages

open Http (Calls Draft Network Response)

structure Config where
  apiKey : String
  model : String
  apiVersion : String
  /-- Another address than the service's own. -/
  baseUrl : Option String
  /-- The most tokens of an answer, unless a run asks for another number. -/
  maxTokens : UInt32
  temperature : Option Single
deriving DecidableEq

namespace Config

def defaultModel : String := "claude-sonnet-4-5"

def new (apiKey model : String) : Config where
  apiKey
  model
  apiVersion := "2023-06-01"
  baseUrl := none
  maxTokens := 4096
  temperature := none

def fromSettings (s : Settings) : Except SettingError Config :=
  (s.require "ANTHROPIC_API_KEY").map fun apiKey =>
    new apiKey (s.orDefault "ANTHROPIC_MODEL" defaultModel)

end Config

inductive Block where
  | text (s : String)
  | toolUse (id name : String) (input : Json)
  | toolResult (callId content : String)

inductive WireContent where
  | text (s : String)
  | blocks (bs : List Block)

structure WireMessage where
  role : Role
  content : WireContent

def textBlocks : Option String → List Block
  | some text => if text = "" then [] else [.text text]
  | none => []

def Block.ofCall (c : ToolCall) : Block := .toolUse c.id c.name c.arguments

def WireMessage.ofMessage? : ModelMessage → Option WireMessage
  | .system _ => none
  | .user parts =>
    let text := joinText parts
    if text = "" then none else some ⟨.user, .text text⟩
  | .assistant content calls =>
    let blocks := textBlocks content ++ calls.map Block.ofCall
    if blocks.isEmpty then none else some ⟨.assistant, .blocks blocks⟩
  | .toolResult callId _ content isError =>
    some ⟨.user, .blocks [.toolResult callId (toolResultText content isError)]⟩

def wireMessages (messages : List ModelMessage) : List WireMessage :=
  messages.filterMap WireMessage.ofMessage?

def systemText? : ModelMessage → Option String
  | .system text => some text
  | _ => none

def systemPrompt (messages : List ModelMessage) : Option String :=
  match messages.filterMap systemText? with
  | [] => none
  | texts => some ("\n\n".intercalate texts)

def Block.toJson : Block → Json
  | .text s => .obj [("type", .str "text"), ("text", .str s)]
  | .toolUse id name input =>
    .obj [("type", .str "tool_use"), ("id", .str id), ("name", .str name), ("input", input)]
  | .toolResult callId content =>
    .obj [("type", .str "tool_result"), ("tool_use_id", .str callId), ("content", .str content)]

def WireContent.toJson : WireContent → Json
  | .text s => .str s
  | .blocks bs => .arr (bs.map Block.toJson)

def WireMessage.toJson (m : WireMessage) : Json :=
  .obj [("role", .str m.role.name), ("content", m.content.toJson)]

def definitionToJson (t : ToolDefinition) : Json :=
  .obj [("name", .str t.name), ("description", .str t.description), ("input_schema", t.parameters)]

def requestBody (config : Config) (r : ModelRequest) : Json :=
  .record [
    ("max_tokens", some (.ofNat (r.sampling.maxTokens.getD config.maxTokens).toNat)),
    ("messages", some (.arr ((wireMessages r.messages).map WireMessage.toJson))),
    ("model", some (.str config.model)),
    ("stream", some (.bool false)),
    ("system", (systemPrompt r.messages).map .str),
    ("temperature", (r.sampling.temperature <|> config.temperature).map Single.toJson),
    ("tools", if r.tools.isEmpty then none else some (.arr (r.tools.map definitionToJson))),
    ("tool_choice",
      if r.tools.isEmpty then none else some (.obj [("type", .str r.toolChoice.name)]))]

inductive AnswerBlock where
  | text (s : String)
  | call (c : ToolCall)
  | other

def readStrings? (names : List String) (v : Json) : Option (List String) := do
  let members ← Json.fields? (names.map fun name => ⟨name, false⟩) v
  names.mapM (Json.required? Json.string? members)

def readToolUse? (v : Json) : Option ToolCall := do
  let members ← Json.fields? [⟨"id", false⟩, ⟨"name", false⟩, ⟨"input", false⟩] v
  return ⟨← Json.required? Json.string? members "id", ← Json.required? Json.string? members "name",
    ← Json.required? (fun input => some input.canonical) members "input"⟩

def readText? (v : Json) : Option String := do
  Json.required? Json.string? (← Json.fields? [⟨"text", false⟩] v) "text"

def readImage? (v : Json) : Option Unit := do
  let members ← Json.fields? [⟨"source", false⟩] v
  let _ ← Json.required? (readStrings? ["type", "media_type", "data"]) members "source"

def readBlock? (v : Json) : Option AnswerBlock := do
  let (tag, rest) ← Json.tagged? v
  match tag with
  | "text" => return .text (← readText? rest)
  | "tool_use" => return .call (← readToolUse? rest)
  | "image" => let _ ← readImage? rest; return .other
  | "tool_result" => let _ ← readStrings? ["tool_use_id", "content"] rest; return .other
  | "thinking" => let _ ← readStrings? ["thinking", "signature"] rest; return .other
  | "redacted_thinking" => let _ ← readStrings? ["data"] rest; return .other
  | _ => none

structure AnswerBody where
  blocks : List AnswerBlock
  usage : Usage

def readUsage? (v : Json) : Option Usage := do
  let members ← Json.fields? [⟨"input_tokens", false⟩, ⟨"output_tokens", false⟩] v
  return ⟨← Json.required? Json.readWord? members "input_tokens",
    ← Json.required? Json.readWord? members "output_tokens"⟩

def readWordOf? (words : List String) (v : Json) : Option String :=
  v.string?.filter words.contains

def roles : List String := ["user", "assistant"]

def stopReasons : List String := ["end_turn", "max_tokens", "stop_sequence", "tool_use", "refusal"]

def answerFields : List Json.FieldName :=
  ["content", "id", "model", "role", "stop_reason", "stop_sequence", "type", "usage"].map
    fun name => ⟨name, false⟩

def readAnswerBody? (v : Json) : Option AnswerBody := do
  let members ← Json.fields? answerFields v
  let blocks ← Json.required? (Json.readList? readBlock?) members "content"
  let _ ← Json.required? Json.string? members "id"
  let _ ← Json.required? Json.string? members "model"
  let _ ← Json.required? (readWordOf? roles) members "role"
  let _ ← Json.nullable? (readWordOf? stopReasons) members "stop_reason"
  let _ ← Json.nullable? Json.string? members "stop_sequence"
  let _ ← Json.required? Json.string? members "type"
  return ⟨blocks, ← Json.required? readUsage? members "usage"⟩

def AnswerBlock.text? : AnswerBlock → Option String
  | .text s => some s
  | _ => none

def AnswerBlock.call? : AnswerBlock → Option ToolCall
  | .call c => some c
  | _ => none

/-- The answer: the texts, one on a line, and the calls. -/
def AnswerBody.toCompletion (b : AnswerBody) : Completion where
  text :=
    match b.blocks.filterMap AnswerBlock.text? with
    | [] => none
    | texts => some ("\n".intercalate texts)
  calls := b.blocks.filterMap AnswerBlock.call?
  citations := []
  usage := some b.usage

def defaultBaseUrl : String := "https://api.anthropic.com/v1"

def Config.draft (c : Config) (r : ModelRequest) : Draft where
  method := .post
  address := c.baseUrl.getD defaultBaseUrl ++ "/messages"
  fields := []
  headers := [("x-api-key", c.apiKey), ("anthropic-version", c.apiVersion)]
  body := some (requestBody c r)

def fault (message : String) : RemoteError := .transport ("API error: " ++ message)

def readResponse (r : Response) : Except String Completion :=
  if !r.complete then .error ("Failed to get response body: " ++ Http.undecodable)
  else
    let body := Text.Utf8.decodeLossy r.body
    if !Http.isSuccess r.status then .error (String.ofList body)
    else
      match Json.readText? readAnswerBody? body with
      | some answer => .ok answer.toCompletion
      | none =>
        .error ("JSON parsing error: " ++ malformedJson ++ ". Response body: " ++
          String.ofList body)

def complete (c : Config) (r : ModelRequest) : Calls RemoteError Completion := fun n =>
  match Http.fetch (c.draft r) n with
  | (.error cause, n') => (.error (fault cause.message), n')
  | (.ok response, n') => ((readResponse response).mapError fault, n')

def model (c : Config) : ChatModel Network := .replaying (complete c)

end ChatAgents.Messages
