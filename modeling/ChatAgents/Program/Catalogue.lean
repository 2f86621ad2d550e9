import ChatAgents.Agent.Persistent.Streaming
import ChatAgents.Model.ChatCompletions
import ChatAgents.Program.Console
import ChatAgents.Tool.Menu
set_option autoImplicit false

namespace ChatAgents.Program

open Http (Network)

def openAiService (s : Settings) : Except SettingError ChatCompletions.Config :=
  ChatCompletions.Config.openAiFromSettings s

def anyChatService (s : Settings) : Except SettingError ChatCompletions.Config :=
  if (s.optional "AZURE_OPENAI_ENDPOINT").isSome then ChatCompletions.Config.azureFromSettings s
  else openAiService s

def chatAgent (config : Except SettingError ChatCompletions.Config) (name instructions : String)
    (tools : List Tool) : Except AgentError (ChatAgent Network) := do
  let config ← config.mapError .setting
  { ChatAgentSpec.empty Network with
    model := some (ChatCompletions.model config)
    name
    instructions := some instructions
    tools := tools.map .function }.build

def jokes (i : Invocation) : Task Unit := do
  let messages := [ChatMessage.user (i.promptOr "Tell me a joke about a pirate.")]
  let agent ← Console.agentSettled
    (chatAgent (anyChatService i.settings) "Joker" "You are good at telling jokes." [])
  Console.print "--- run ---\n"
  let response ← Console.chat (agent.run messages .default)
  Console.writeResponse response
  Console.print "--- run_streaming ---\n"
  Console.chatStream (fun _ => none) (agent.runStreaming messages .default)

def toolTrace : Update → Option String
  | .toolCall tool args _ => some ("tool-call " ++ tool ++ ": " ++ args.render)
  | .toolResult tool text _ isError =>
    some ("tool-result " ++ tool ++ " (error=" ++ (if isError then "true" else "false") ++ "): " ++
      text)
  | _ => none

def menu (i : Invocation) : Task Unit := do
  let messages :=
    [ChatMessage.user (i.promptOr "What is the special soup and how much does it cost?")]
  let agent ← Console.agentSettled
    (chatAgent (openAiService i.settings) "Host" "Answer questions about the menu." Menu.tools)
  Console.chatStream toolTrace (agent.runStreaming messages .default)

def sampleImageUrl : String :=
  "https://upload.wikimedia.org/wikipedia/commons/4/47/PNG_transparency_demonstration_1.png"

def mediaType (path : String) : String :=
  if Text.endsFolded path ".png" then "image/png"
  else if Text.endsFolded path ".gif" then "image/gif"
  else if Text.endsFolded path ".webp" then "image/webp"
  else "image/jpeg"

/-- The question with its image: the file of the first argument, or one from the web. -/
def imageMessage (i : Invocation) : Except FileError ChatMessage :=
  let message := ChatMessage.user "What do you see in this image?"
  match i.arguments with
  | [] => .ok (message.withImageUrl sampleImageUrl)
  | path :: _ => (i.fileAt path).map (message.withImage (mediaType path))

def images (i : Invocation) : Task Unit := do
  let message ← Work.ofExcept ((imageMessage i).mapError .file)
  let agent ← Console.agentSettled
    (chatAgent (openAiService i.settings) "Vision" "Describe images briefly." [])
  let response ← Console.chat (agent.run [message] .default)
  Console.writeResponse response

def hostedNotes (tools : List HostedTool) : List String :=
  if tools.isEmpty then ["no hosted tool connections configured; using function tools only"]
  else tools.map fun t => "hosted tool: " ++ t.kind

def conciergeSpec (config : Hosting.Config) (hosted : List HostedTool) : PersistentAgentSpec :=
  { PersistentAgentSpec.empty config with
    name := "Concierge"
    instructions := some ("Answer questions about the menu with the menu tools. " ++
      "Use the search tools for anything else and cite your sources.")
    tools := Menu.tools.map .function ++ hosted.map .hosted }

/-- Streams the answer and deletes the agent, whatever comes of the answer. -/
def serve (agent : PersistentAgent) (id : String) (messages : List ChatMessage) (w : HostState) :
    Task Unit := fun c =>
  let (result, console, w) :=
    Console.writeStream (fun _ => none) (agent.runStreaming messages .default w) c
  let w := agent.release (agent.delete w)
  ((result.map fun _ => ()).mapError .agent,
    { console with notes := console.notes ++ "deleted agent " ++ id ++ "\n", network := w.network })

def concierge (i : Invocation) : Task Unit := do
  let question := "What is the special soup? Also, what's the weather in Seattle today?"
  let messages := [ChatMessage.user (i.promptOr question)]
  let config ← Console.settled (Hosting.Config.fromSettings i.settings)
  let hosted ← Console.settled (HostedTool.fromSettings i.settings "samples")
  (hostedNotes hosted).forM Console.note
  let agent ← Console.agentSettled (conciergeSpec config hosted).build
  let (id, w) ← fun c =>
    let (created, w) := agent.create (agent.start c.network)
    ((created.map fun id => (id, w)).mapError .agent, { c with network := w.network })
  Console.note ("created agent " ++ id)
  serve agent id messages w

def catalogue : List (String × (Invocation → Task Unit)) :=
  [("chat_agent", jokes), ("function_tools", menu), ("image_input", images),
   ("foundry_agent", concierge)]

structure Outcome where
  exitCode : Nat
  console : Console

def execute (program : Invocation → Task Unit) (i : Invocation) (network : Network) : Outcome :=
  match program i (Console.start network) with
  | (.ok (), c) => ⟨0, c⟩
  | (.error e, c) => ⟨1, { c with notes := c.notes ++ "Error: " ++ e.diagnostic ++ "\n" }⟩

end ChatAgents.Program
