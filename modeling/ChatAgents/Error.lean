set_option autoImplicit false

namespace ChatAgents

inductive SchemaError where
  | notObject
  | rootNotObject
  | requiredNotStrings
deriving DecidableEq

def SchemaError.message : SchemaError → String
  | .notObject => "tool schema must be a JSON object"
  | .rootNotObject => "tool schema must declare type=object"
  | .requiredNotStrings => "required must be an array of strings"

inductive ToolError where
  | notFound (name : String)
  | invalidArguments (tool message : String)
  | execution (message : String)
  | schema (cause : SchemaError)
deriving DecidableEq

def ToolError.message : ToolError → String
  | .notFound name => "tool not found: " ++ name
  | .invalidArguments tool message => "invalid tool arguments for " ++ tool ++ ": " ++ message
  | .execution message => "tool execution failed: " ++ message
  | .schema cause => cause.message

inductive SettingError where
  | missing (key : String)
  | invalid (key message : String)
deriving DecidableEq

def SettingError.message : SettingError → String
  | .missing key => key ++ " is not set"
  | .invalid key message => "invalid value for " ++ key ++ ": " ++ message

inductive RemoteError where
  /-- The request got no answer. -/
  | transport (message : String)
  | status (code : Nat) (message : String)
  /-- The answer cannot be used. -/
  | response (message : String)
  | runFailed (status message : String)
  | timeout (seconds : Nat)
deriving DecidableEq

namespace RemoteError

def message : RemoteError → String
  | .transport m => "request failed: " ++ m
  | .status code m => "service returned " ++ toString code ++ ": " ++ m
  | .response m => "response invalid: " ++ m
  | .runFailed state m => "run ended with status " ++ state ++ ": " ++ m
  | .timeout seconds => "run did not finish within " ++ toString seconds ++ "s"

def statusCode? : RemoteError → Option Nat
  | .status code _ => some code
  | _ => none

def endedEarly : RemoteError := .response "stream ended before completion"

def isAuthFailure (e : RemoteError) : Bool := e.statusCode? == some 401 || e.statusCode? == some 403

end RemoteError

inductive AgentError where
  | setting (cause : SettingError)
  | remote (cause : RemoteError)
  | tool (cause : ToolError)
  | maxIterations (limit : Nat)
  | missingFinalResponse
  /-- The caller's output could not be written. -/
  | output (message : String)
deriving DecidableEq

namespace AgentError

def message : AgentError → String
  | .setting cause => "configuration error: " ++ cause.message
  | .remote cause => "remote call failed: " ++ cause.message
  | .tool cause => cause.message
  | .maxIterations limit => "max iterations reached (" ++ toString limit ++ ")"
  | .missingFinalResponse => "agent stream ended without final response"
  | .output m => "writing output failed: " ++ m

def misconfigured (message : String) : AgentError := .setting (.invalid "agent" message)

end AgentError
end ChatAgents
