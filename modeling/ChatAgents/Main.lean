import ChatAgents.Program.Catalogue
set_option autoImplicit false

namespace ChatAgents.Program

def settingNames : List String :=
  ["OPENAI_API_KEY", "OPENAI_CHAT_MODEL_NAME", "OPENAI_BASE_URL", "AZURE_OPENAI_ENDPOINT",
   "AZURE_OPENAI_DEPLOYMENT_NAME", "AZURE_OPENAI_API_KEY", "AZURE_OPENAI_API_VERSION",
   "AZURE_FOUNDRY_PROJECT_ENDPOINT", "AZURE_FOUNDRY_PROJECT_DEPLOYMENT_NAME",
   "AZURE_FOUNDRY_ACCESS_TOKEN", "AZURE_FOUNDRY_API_VERSION", "BING_CONNECTION_ID",
   "AZURE_AI_SEARCH_CONNECTION_ID", "AZURE_AI_SEARCH_INDEX_NAME",
   "BROWSER_AUTOMATION_CONNECTION_ID", "AZURE_AI_MEMORY_STORE_NAME"]

def readEnvironment : IO (List (String × String)) :=
  settingNames.filterMapM fun name => do return (← IO.getEnv name).map fun value => (name, value)

def readBytes (path : String) : IO (Option (List UInt8)) := do
  try
    return some (← IO.FS.readBinFile path).toList
  catch _ =>
    return none

def readNamedFile (arguments : List String) : IO (List (String × List UInt8)) :=
  (arguments.take 1).filterMapM fun path => do
    return (← readBytes path).map fun bytes => (path, bytes)

def invocation (arguments : List String) : IO Invocation := do
  let settingsFile := (← readBytes ".env").map Text.Utf8.toStringLossy
  let files ← readNamedFile arguments
  return {
    arguments
    settings := Settings.load (← readEnvironment) settingsFile
    fileAt := fun path => ((files.lookup path).map Except.ok).getD (.error .notFound) }

def start (program : Invocation → Task Unit) (arguments : List String) : IO UInt32 := do
  let outcome := execute program (← invocation arguments) (.connect .unreachable)
  (← IO.getStdout).write (ByteArray.mk outcome.console.output.toArray)
  IO.eprint outcome.console.notes
  return UInt32.ofNat outcome.exitCode

end ChatAgents.Program

def main (arguments : List String) : IO UInt32 := do
  match arguments with
  | [] =>
    IO.eprintln "no program named"
    return 2
  | name :: rest =>
    match ChatAgents.Program.catalogue.lookup name with
    | some program => ChatAgents.Program.start program rest
    | none =>
      IO.eprintln ("no such program: " ++ name)
      return 2
