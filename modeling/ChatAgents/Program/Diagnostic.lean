import ChatAgents.Error
import ChatAgents.Program.Files
import ChatAgents.Text.Escaped
set_option autoImplicit false

namespace ChatAgents.Program

def single (name value : String) : String := name ++ "(" ++ value ++ ")"

def record (name : String) (fields : List (String × String)) : String :=
  let shown := fields.map fun (key, value) => key ++ ": " ++ value
  name ++ " \x7b " ++ ", ".intercalate shown ++ " \x7d"

def settingDiagnostic : SettingError → String
  | .missing key => single "MissingVar" (Text.escaped key)
  | .invalid key message =>
    record "Invalid" [("key", Text.escaped key), ("message", Text.escaped message)]

def remoteDiagnostic : RemoteError → String
  | .transport message => single "Transport" (Text.escaped message)
  | .status code message =>
    record "Status" [("status", toString code), ("message", Text.escaped message)]
  | .response message => single "Response" (Text.escaped message)
  | .runFailed state message =>
    record "RunFailed" [("status", Text.escaped state), ("message", Text.escaped message)]
  | .timeout seconds => record "Timeout" [("seconds", toString seconds)]

def schemaDiagnostic : SchemaError → String
  | .notObject => "SchemaNotObject"
  | .rootNotObject => "RootTypeMustBeObject"
  | .requiredNotStrings => "InvalidRequired"

def toolDiagnostic : ToolError → String
  | .notFound name => single "NotFound" (Text.escaped name)
  | .invalidArguments tool message =>
    record "InvalidArguments" [("tool", Text.escaped tool), ("message", Text.escaped message)]
  | .execution message => single "Execution" (Text.escaped message)
  | .schema cause => single "Schema" (schemaDiagnostic cause)

def agentDiagnostic : AgentError → String
  | .setting cause => single "Configuration" (settingDiagnostic cause)
  | .remote cause => single "RemoteCall" (remoteDiagnostic cause)
  | .tool cause => single "Tool" (toolDiagnostic cause)
  | .maxIterations limit => record "MaxIterationsReached" [("max_iterations", toString limit)]
  | .missingFinalResponse => "MissingFinalResponse"
  | .output message => single "Output" (Text.escaped message)

def fileDiagnostic (e : FileError) : String :=
  record "Os" [("code", toString e.code), ("kind", e.name), ("message", Text.escaped e.message)]

inductive Failure where
  | setting (cause : SettingError)
  | agent (cause : AgentError)
  | file (cause : FileError)
deriving DecidableEq

def Failure.diagnostic : Failure → String
  | .setting cause => settingDiagnostic cause
  | .agent cause => agentDiagnostic cause
  | .file cause => fileDiagnostic cause

end ChatAgents.Program
