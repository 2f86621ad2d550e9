import ChatAgents.Settings.Basic
set_option autoImplicit false

namespace ChatAgents

inductive SearchQueryType where
  | simple
  | semantic
  | vector
  | vectorSimpleHybrid
  | vectorSemanticHybrid
deriving DecidableEq

def SearchQueryType.name : SearchQueryType → String
  | .simple => "simple"
  | .semantic => "semantic"
  | .vector => "vector"
  | .vectorSimpleHybrid => "vector_simple_hybrid"
  | .vectorSemanticHybrid => "vector_semantic_hybrid"

inductive HostedTool where
  | bingGrounding (connectionId : String)
  | azureAiSearch (connectionId indexName : String) (queryType : SearchQueryType) (topK : UInt32)
  | browserAutomation (connectionId : String)
  | memorySearch (storeName scope : String)
  | codeInterpreter
  | fileSearch (vectorStoreIds : List String)
deriving DecidableEq

namespace HostedTool

def kind : HostedTool → String
  | .bingGrounding _ => "bing_grounding"
  | .azureAiSearch .. => "azure_ai_search"
  | .browserAutomation _ => "browser_automation"
  | .memorySearch .. => "memory_search"
  | .codeInterpreter => "code_interpreter"
  | .fileSearch _ => "file_search"

def simpleSearch (connectionId indexName : String) : HostedTool :=
  .azureAiSearch connectionId indexName .simple 5

def searchFromSettings (s : Settings) : Except SettingError (Option HostedTool) :=
  match s.optional "AZURE_AI_SEARCH_CONNECTION_ID" with
  | none => .ok none
  | some id =>
    (s.require "AZURE_AI_SEARCH_INDEX_NAME").map fun index => some (simpleSearch id index)

def fromSettings (s : Settings) (memoryScope : String) : Except SettingError (List HostedTool) :=
  (searchFromSettings s).map fun search =>
    ((s.optional "BING_CONNECTION_ID").map bingGrounding).toList ++ search.toList ++
      ((s.optional "BROWSER_AUTOMATION_CONNECTION_ID").map browserAutomation).toList ++
      ((s.optional "AZURE_AI_MEMORY_STORE_NAME").map fun name =>
        memorySearch name memoryScope).toList

end HostedTool
end ChatAgents
