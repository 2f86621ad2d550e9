import ChatAgents.Completion
import ChatAgents.Tool.Hosted
set_option autoImplicit false

namespace ChatAgents.Hosting

structure Definition where
  model : String
  name : String
  instructions : Option String
  functions : List ToolDefinition
  hosted : List HostedTool

def functionEntry (t : ToolDefinition) : Json :=
  .obj [("type", .str "function"), ("function", .obj [("name", .str t.name),
    ("description", .str t.description), ("parameters", t.parameters)])]

def hostedEntry (t : HostedTool) : Json :=
  .obj (("type", .str t.kind) ::
    match t with
    | .bingGrounding id => [("bing_grounding",
        .obj [("search_configurations", .arr [.obj [("connection_id", .str id)]])])]
    | .browserAutomation id =>
      [("browser_automation", .obj [("connection", .obj [("id", .str id)])])]
    | .memorySearch name scope => [("memory_store_name", .str name), ("scope", .str scope)]
    | .azureAiSearch .. | .codeInterpreter | .fileSearch _ => [])

def resource? (t : HostedTool) : Option Json :=
  match t with
  | .azureAiSearch id index queryType topK =>
    some (.obj [("indexes", .arr [.obj [
      ("index_connection_id", .str id), ("index_name", .str index),
      ("query_type", .str queryType.name), ("top_k", .ofNat topK.toNat)]])])
  | .fileSearch ids => some (.obj [("vector_store_ids", .list .str ids)])
  | _ => none

namespace Definition

def entries (d : Definition) : List Json :=
  d.functions.map functionEntry ++ d.hosted.map hostedEntry

/-- The resources by kind of tool; of several tools of one kind the last counts. -/
def resources (d : Definition) : List (String × Json) :=
  Json.sortMembers (d.hosted.filterMap fun t => (resource? t).map fun r => (t.kind, r))

def toJson (d : Definition) : Json :=
  .record [
    ("model", some (.str d.model)),
    ("name", some (.str d.name)),
    ("instructions", d.instructions.map .str),
    ("tools", if d.entries.isEmpty then none else some (.arr d.entries)),
    ("tool_resources", if d.resources.isEmpty then none else some (.obj d.resources))]

end Definition
end ChatAgents.Hosting
