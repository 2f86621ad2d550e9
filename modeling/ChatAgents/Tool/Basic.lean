import ChatAgents.Completion
import ChatAgents.Tool.Hosted
import ChatAgents.Tool.Schema
set_option autoImplicit false

namespace ChatAgents

structure Tool where
  name : String
  description : String
  schema : Schema
  handler : Json → Except ToolError String

namespace Tool

/-- A tool that takes any arguments, and fails until it is given a handler. -/
def new (name description : String) : Tool where
  name
  description
  schema := .any
  handler := fun _ => .error (.execution "tool handler not configured")

def withSchema (t : Tool) (schema : Json) : Except SchemaError Tool :=
  (Schema.ofJson schema).map fun schema => { t with schema }

def withHandler (t : Tool) (handler : Json → Except ToolError String) : Tool := { t with handler }

def definition (t : Tool) : ToolDefinition := ⟨t.name, t.description, t.schema.json⟩

def execute (t : Tool) (args : Json) : Except ToolError String :=
  match checkArguments t.schema.json args with
  | .ok () => t.handler args
  | .error fault => .error (.invalidArguments t.name fault.message)

end Tool

inductive AgentTool where
  | function (t : Tool)
  | hosted (t : HostedTool)

def AgentTool.name : AgentTool → String
  | .function t => t.name
  | .hosted t => t.kind

structure ToolOutcome where
  text : String
  isError : Bool
deriving DecidableEq

def ToolOutcome.ofResult : Except ToolError String → ToolOutcome
  | .ok text => ⟨text, false⟩
  | .error e => ⟨e.message, true⟩

structure Registry where
  functions : List Tool
  hosted : List HostedTool

namespace Registry

def empty : Registry := ⟨[], []⟩

def find? (r : Registry) (name : String) : Option Tool := r.functions.find? (·.name == name)

def add (r : Registry) : AgentTool → Except AgentError Registry
  | .function t =>
    if (r.find? t.name).isSome then
      .error (.misconfigured ("duplicate tool registered: " ++ t.name))
    else .ok { r with functions := r.functions ++ [t] }
  | .hosted t =>
    if r.hosted.contains t then
      .error (.misconfigured ("duplicate hosted tool registered: " ++ t.kind))
    else .ok { r with hosted := r.hosted ++ [t] }

def ofTools (tools : List AgentTool) : Except AgentError Registry := tools.foldlM add empty

def definitions (r : Registry) : List ToolDefinition := r.functions.map Tool.definition

/-- Runs a call. An unknown tool and a failing one give an error to the model, not to the caller. -/
def execute (r : Registry) (call : ToolCall) : ToolOutcome :=
  match r.find? call.name with
  | none => .ofResult (.error (.notFound call.name))
  | some t => .ofResult (t.execute call.arguments)

end Registry
end ChatAgents
