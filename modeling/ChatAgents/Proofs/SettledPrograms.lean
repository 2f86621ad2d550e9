import ChatAgents.Program.Catalogue
import Mathlib.Data.List.DropRight
set_option autoImplicit false

namespace ChatAgents

namespace Settings

variable (s : Settings) (key : String)

def value : String := ((s.raw? key).map Text.trim).getD ""

def valueOr (default : String) : String := if s.value key = "" then default else s.value key

def address : String := Text.dropTrailingSlashes (s.value key)

theorem optional_eq : s.optional key = if s.value key = "" then none else some (s.value key) := by
  rw [optional, value]
  cases s.raw? key with
  | none => rfl
  | some v => by_cases blank : Text.trim v = "" <;> simp [blank]

theorem isSome_optional : (s.optional key).isSome = true ↔ s.value key ≠ "" := by
  rw [optional_eq]
  split <;> simp_all

theorem orDefault_eq (default : String) : s.orDefault key default = s.valueOr key default := by
  rw [orDefault, optional_eq, valueOr]
  split <;> rfl

end Settings

/-- What is demanded of a setting: a text, or an address. -/
inductive Demand where
  | text (key : String)
  | url (key : String)

namespace Demand

/-- The setting says something, and an address begins as one does. -/
def Met (s : Settings) : Demand → Prop
  | .text key => s.value key ≠ ""
  | .url key => s.value key ≠ "" ∧ Settings.hasHttpScheme (s.value key) = true

instance (s : Settings) : DecidablePred (Met s)
  | .text key => inferInstanceAs (Decidable (s.value key ≠ ""))
  | .url key => inferInstanceAs (Decidable (_ ∧ Settings.hasHttpScheme (s.value key) = true))

def fault (s : Settings) : Demand → SettingError
  | .text key => .missing key
  | .url key =>
    if s.value key = "" then .missing key
    else .invalid key ("expected an http(s) URL, got '" ++ s.value key ++ "'")

def key : Demand → String
  | .text key | .url key => key

variable {s s' : Settings} {d : Demand}

theorem met_congr (same : s'.value d.key = s.value d.key) : d.Met s' ↔ d.Met s := by
  cases d <;> simp_all [Met, key]

theorem fault_congr (same : s'.value d.key = s.value d.key) : d.fault s' = d.fault s := by
  cases d <;> simp_all [fault, key]

end Demand

namespace Settings

variable {α β : Type} (s : Settings)

def behind (demands : List Demand) (r : Except SettingError α) : Except SettingError α :=
  match demands.find? (¬ Demand.Met s ·) with
  | none => r
  | some d => .error (d.fault s)

variable {s} {demands : List Demand} {r : Except SettingError α}

theorem behind_met (met : ∀ d ∈ demands, d.Met s) : s.behind demands r = r := by
  rw [behind, List.find?_eq_none.2 (by simpa using met)]

theorem behind_unmet (unmet : ¬ ∀ d ∈ demands, d.Met s) : ∃ before d after,
    demands = before ++ d :: after ∧ (∀ e ∈ before, e.Met s) ∧ ¬ d.Met s ∧
      s.behind demands r = .error (d.fault s) := by
  cases first : demands.find? (¬ Demand.Met s ·) with
  | none => exact absurd (by simpa using List.find?_eq_none.1 first) unmet
  | some d =>
    obtain ⟨unmet, before, after, split, met⟩ := List.find?_eq_some_iff_append.1 first
    refine ⟨before, d, after, split, by simpa using met, by simpa using unmet, ?_⟩
    rw [behind, first]

theorem behind_cons (s : Settings) (d : Demand) (demands : List Demand)
    (r : Except SettingError α) :
    s.behind (d :: demands) r = if d.Met s then s.behind demands r else .error (d.fault s) := by
  rw [behind, List.find?_cons]
  by_cases met : d.Met s <;> simp [met, behind]

theorem behind_append (s : Settings) (front back : List Demand) (r : Except SettingError α) :
    s.behind (front ++ back) r = s.behind front (s.behind back r) := by
  induction front with
  | nil => rfl
  | cons d front ih => rw [List.cons_append, behind_cons, behind_cons, ih]

theorem behind_bind (s : Settings) (demands : List Demand) (r : Except SettingError α)
    (f : α → Except SettingError β) :
    (s.behind demands r).bind f = s.behind demands (r.bind f) := by
  rw [behind, behind]
  split <;> rfl

theorem behind_map (s : Settings) (demands : List Demand) (r : Except SettingError α)
    (f : α → β) : (s.behind demands r).map f = s.behind demands (r.map f) := by
  rw [behind, behind]
  split <;> rfl

theorem behind_congr {s' : Settings} (agree : ∀ d ∈ demands, s'.value d.key = s.value d.key) :
    s'.behind demands r = s.behind demands r := by
  induction demands with
  | nil => rfl
  | cons d demands ih =>
    have same := agree d List.mem_cons_self
    rw [behind_cons, behind_cons, ih fun e member => agree e (List.mem_cons_of_mem d member),
      Demand.fault_congr same]
    exact if_congr (Demand.met_congr same) rfl rfl

theorem require_eq (s : Settings) (key : String) :
    s.require key = s.behind [.text key] (.ok (s.value key)) := by
  rw [require, optional_eq, behind_cons]
  by_cases blank : s.value key = ""
  · simp [blank, Demand.Met, Demand.fault]
  · simp only [blank, Demand.Met, ne_eq, not_false_eq_true, if_false, if_true]
    rfl

theorem url_eq (s : Settings) (key : String) :
    s.url key = s.behind [.url key] (.ok (s.address key)) := by
  rw [url, require_eq, behind_cons, behind_cons]
  by_cases blank : s.value key = ""
  · simp [blank, Demand.Met, Demand.fault]
  · by_cases http : hasHttpScheme (s.value key) <;>
      simp [blank, http, Demand.Met, Demand.fault, address, behind]

theorem require_bind (s : Settings) (key : String) (f : String → Except SettingError α) :
    (s.require key).bind f = s.behind [.text key] (f (s.value key)) := by
  rw [require_eq, behind_bind]
  rfl

theorem url_bind (s : Settings) (key : String) (f : String → Except SettingError α) :
    (s.url key).bind f = s.behind [.url key] (f (s.address key)) := by
  rw [url_eq, behind_bind]
  rfl

end Settings

theorem Text.dropTrailingSlashes_idem (t : String) :
    dropTrailingSlashes (dropTrailingSlashes t) = dropTrailingSlashes t := by
  rw [dropTrailingSlashes, toList_dropTrailingSlashes]
  exact congrArg String.ofList (List.rdropWhile_idempotent _ t.toList)

namespace Program

open Http (Network)

inductive Backend where
  | openAi
  | azure
  | foundry
deriving DecidableEq

inductive Resolved where
  | chat (config : ChatCompletions.Config)
  | hosting (config : Hosting.Config) (tools : List HostedTool)

theorem eq_of_map_chat {r r' : Except SettingError ChatCompletions.Config}
    (h : r.map Resolved.chat = r'.map Resolved.chat) : r = r' := by
  cases r <;> cases r' <;> simp_all [Except.map]

namespace Backend

def hostingDemands : List Demand :=
  [.url "AZURE_FOUNDRY_PROJECT_ENDPOINT", .text "AZURE_FOUNDRY_PROJECT_DEPLOYMENT_NAME",
    .text "AZURE_FOUNDRY_ACCESS_TOKEN"]

def searchDemands (s : Settings) : List Demand :=
  if s.value "AZURE_AI_SEARCH_CONNECTION_ID" = "" then [] else [.text "AZURE_AI_SEARCH_INDEX_NAME"]

/-- What a service demands, in the order in which it is looked at. -/
def demands (s : Settings) : Backend → List Demand
  | .openAi => .text "OPENAI_API_KEY" ::
      if s.value "OPENAI_BASE_URL" = "" then [] else [.url "OPENAI_BASE_URL"]
  | .azure => [.url "AZURE_OPENAI_ENDPOINT", .text "AZURE_OPENAI_DEPLOYMENT_NAME",
      .text "AZURE_OPENAI_API_KEY"]
  | .foundry => hostingDemands ++ searchDemands s

def keys : Backend → List String
  | .openAi => ["OPENAI_API_KEY", "OPENAI_BASE_URL", "OPENAI_CHAT_MODEL_NAME"]
  | .azure => ["AZURE_OPENAI_ENDPOINT", "AZURE_OPENAI_DEPLOYMENT_NAME", "AZURE_OPENAI_API_KEY",
      "AZURE_OPENAI_API_VERSION"]
  | .foundry => ["AZURE_FOUNDRY_PROJECT_ENDPOINT", "AZURE_FOUNDRY_PROJECT_DEPLOYMENT_NAME",
      "AZURE_FOUNDRY_ACCESS_TOKEN", "AZURE_FOUNDRY_API_VERSION", "BING_CONNECTION_ID",
      "AZURE_AI_SEARCH_CONNECTION_ID", "AZURE_AI_SEARCH_INDEX_NAME",
      "BROWSER_AUTOMATION_CONNECTION_ID", "AZURE_AI_MEMORY_STORE_NAME"]

def toolOf (s : Settings) (key : String) (tool : String → HostedTool) : List HostedTool :=
  if s.value key = "" then [] else [tool (s.value key)]

def hostedTools (s : Settings) : List HostedTool :=
  toolOf s "BING_CONNECTION_ID" .bingGrounding ++
    toolOf s "AZURE_AI_SEARCH_CONNECTION_ID"
      (fun id => .azureAiSearch id (s.value "AZURE_AI_SEARCH_INDEX_NAME") .simple 5) ++
    toolOf s "BROWSER_AUTOMATION_CONNECTION_ID" .browserAutomation ++
    toolOf s "AZURE_AI_MEMORY_STORE_NAME" fun name => .memorySearch name "samples"

def hostingConfig (s : Settings) : Hosting.Config where
  endpoint := s.address "AZURE_FOUNDRY_PROJECT_ENDPOINT"
  deployment := s.value "AZURE_FOUNDRY_PROJECT_DEPLOYMENT_NAME"
  accessToken := s.value "AZURE_FOUNDRY_ACCESS_TOKEN"
  apiVersion := s.valueOr "AZURE_FOUNDRY_API_VERSION" "v1"
  pollInterval := 500
  runTimeout := 300000

/-- Each setting is the value that is given for it, or its default. -/
def resolution (s : Settings) : Backend → Resolved
  | .openAi => .chat {
      apiKey := s.value "OPENAI_API_KEY"
      model := s.valueOr "OPENAI_CHAT_MODEL_NAME" "gpt-4o-mini"
      endpoint := .openAi (if s.value "OPENAI_BASE_URL" = "" then "https://api.openai.com/v1"
        else s.address "OPENAI_BASE_URL")
      temperature := none
      topP := none
      maxTokens := none }
  | .azure => .chat {
      apiKey := s.value "AZURE_OPENAI_API_KEY"
      model := s.value "AZURE_OPENAI_DEPLOYMENT_NAME"
      endpoint := .azure (s.address "AZURE_OPENAI_ENDPOINT")
        (s.value "AZURE_OPENAI_DEPLOYMENT_NAME") (s.valueOr "AZURE_OPENAI_API_VERSION" "2024-10-21")
      temperature := none
      topP := none
      maxTokens := none }
  | .foundry => .hosting (hostingConfig s) (hostedTools s)

variable (s : Settings)

theorem openAi_eq :
    (ChatCompletions.Config.openAiFromSettings s).map .chat =
      s.behind (demands s .openAi) (.ok (resolution s .openAi)) := by
  have clean := Text.dropTrailingSlashes_idem (s.value "OPENAI_BASE_URL")
  by_cases base : s.value "OPENAI_BASE_URL" = ""
  · simp only [ChatCompletions.Config.openAiFromSettings, bind, Settings.require_bind,
      Settings.orDefault_eq, Settings.optional_eq, base, if_true, Settings.behind_map, demands,
      resolution]
    rfl
  · simp only [ChatCompletions.Config.openAiFromSettings, bind, Settings.require_bind,
      Settings.url_bind, Settings.orDefault_eq, Settings.optional_eq, base, if_false,
      ChatCompletions.Config.withBaseUrl, Settings.address, clean, ← Settings.behind_append,
      Settings.behind_map, demands, resolution]
    rfl

theorem azure_eq :
    (ChatCompletions.Config.azureFromSettings s).map .chat =
      s.behind (demands s .azure) (.ok (resolution s .azure)) := by
  have clean := Text.dropTrailingSlashes_idem (s.value "AZURE_OPENAI_ENDPOINT")
  by_cases version : s.value "AZURE_OPENAI_API_VERSION" = "" <;>
  · simp only [ChatCompletions.Config.azureFromSettings, bind, Settings.url_bind,
      Settings.require_bind, Settings.optional_eq, Settings.valueOr, version, if_true, if_false,
      ChatCompletions.Config.azure, Settings.address, clean, ← Settings.behind_append,
      Settings.behind_map, resolution]
    rfl

theorem hostingConfig_eq :
    Hosting.Config.fromSettings s = s.behind hostingDemands (.ok (hostingConfig s)) := by
  have clean := Text.dropTrailingSlashes_idem (s.value "AZURE_FOUNDRY_PROJECT_ENDPOINT")
  simp only [Hosting.Config.fromSettings, bind, Settings.url_bind, Settings.require_bind,
    Settings.orDefault_eq, Hosting.Config.new, Settings.address, clean, ← Settings.behind_append,
    hostingConfig]
  rfl

theorem toList_optional (key : String) (tool : String → HostedTool) :
    ((s.optional key).map tool).toList = toolOf s key tool := by
  rw [Settings.optional_eq, toolOf]
  split <;> rfl

theorem hostedTools_eq :
    HostedTool.fromSettings s "samples" = s.behind (searchDemands s) (.ok (hostedTools s)) := by
  rw [HostedTool.fromSettings, toList_optional, toList_optional, toList_optional,
    HostedTool.searchFromSettings, Settings.optional_eq, searchDemands]
  by_cases connection : s.value "AZURE_AI_SEARCH_CONNECTION_ID" = ""
  · simp only [hostedTools, toolOf, if_pos connection]
    rfl
  · simp only [hostedTools, toolOf, if_neg connection, Settings.require_eq, Settings.behind_map]
    rfl

section

variable {s} {s' : Settings}

theorem searchDemands_congr (agree : ∀ key ∈ foundry.keys, s'.value key = s.value key) :
    searchDemands s' = searchDemands s := by
  rw [searchDemands, searchDemands, agree "AZURE_AI_SEARCH_CONNECTION_ID" (by decide)]

theorem hostingConfig_congr (agree : ∀ key ∈ foundry.keys, s'.value key = s.value key) :
    hostingConfig s' = hostingConfig s := by
  simp only [hostingConfig, Settings.address, Settings.valueOr,
    agree "AZURE_FOUNDRY_PROJECT_ENDPOINT" (by decide),
    agree "AZURE_FOUNDRY_PROJECT_DEPLOYMENT_NAME" (by decide),
    agree "AZURE_FOUNDRY_ACCESS_TOKEN" (by decide), agree "AZURE_FOUNDRY_API_VERSION" (by decide)]

theorem hostedTools_congr (agree : ∀ key ∈ foundry.keys, s'.value key = s.value key) :
    hostedTools s' = hostedTools s := by
  simp only [hostedTools, toolOf, agree "BING_CONNECTION_ID" (by decide),
    agree "AZURE_AI_SEARCH_CONNECTION_ID" (by decide),
    agree "AZURE_AI_SEARCH_INDEX_NAME" (by decide),
    agree "BROWSER_AUTOMATION_CONNECTION_ID" (by decide),
    agree "AZURE_AI_MEMORY_STORE_NAME" (by decide)]

variable {b : Backend}

theorem demands_congr (agree : ∀ key ∈ b.keys, s'.value key = s.value key) :
    b.demands s' = b.demands s := by
  cases b with
  | openAi => rw [demands, demands, agree "OPENAI_BASE_URL" (by decide)]
  | azure => rfl
  | foundry => rw [demands, demands, searchDemands_congr agree]

theorem resolution_congr (agree : ∀ key ∈ b.keys, s'.value key = s.value key) :
    b.resolution s' = b.resolution s := by
  cases b with
  | openAi =>
    simp only [resolution, Settings.address, Settings.valueOr, agree "OPENAI_API_KEY" (by decide),
      agree "OPENAI_BASE_URL" (by decide), agree "OPENAI_CHAT_MODEL_NAME" (by decide)]
  | azure =>
    simp only [resolution, Settings.address, Settings.valueOr,
      agree "AZURE_OPENAI_ENDPOINT" (by decide), agree "AZURE_OPENAI_DEPLOYMENT_NAME" (by decide),
      agree "AZURE_OPENAI_API_KEY" (by decide), agree "AZURE_OPENAI_API_VERSION" (by decide)]
  | foundry => rw [resolution, resolution, hostingConfig_congr agree, hostedTools_congr agree]

theorem key_mem_keys {d : Demand} (demanded : d ∈ b.demands s) : d.key ∈ b.keys := by
  cases b with
  | openAi =>
    obtain rfl | optional := List.mem_cons.1 demanded
    · decide
    · split at optional
      · cases optional
      · obtain rfl := List.mem_singleton.1 optional
        decide
  | azure =>
    simp only [demands, List.mem_cons, List.not_mem_nil, or_false] at demanded
    obtain rfl | rfl | rfl := demanded <;> decide
  | foundry =>
    simp only [demands, hostingDemands, searchDemands, List.mem_append, List.mem_cons,
      List.not_mem_nil, or_false] at demanded
    obtain (rfl | rfl | rfl) | search := demanded
    · decide
    · decide
    · decide
    · split at search
      · cases search
      · obtain rfl := List.mem_singleton.1 search
        decide

theorem behind_congr {α : Type} {r : Except SettingError α}
    (agree : ∀ key ∈ b.keys, s'.value key = s.value key) :
    s'.behind (b.demands s') r = s.behind (b.demands s) r := by
  rw [demands_congr agree]
  exact Settings.behind_congr fun d demanded => agree d.key (key_mem_keys demanded)

theorem foundry_congr (agree : ∀ key ∈ foundry.keys, s'.value key = s.value key) :
    Hosting.Config.fromSettings s' = Hosting.Config.fromSettings s ∧
      HostedTool.fromSettings s' "samples" = HostedTool.fromSettings s "samples" := by
  have same {α : Type} {part : List Demand} {r : Except SettingError α}
      (within : ∀ d ∈ part, d ∈ foundry.demands s) : s'.behind part r = s.behind part r :=
    Settings.behind_congr fun d demanded => agree d.key (key_mem_keys (within d demanded))
  rw [hostingConfig_eq, hostingConfig_eq, hostedTools_eq, hostedTools_eq,
    searchDemands_congr agree, hostingConfig_congr agree, hostedTools_congr agree,
    same fun _ => List.mem_append_left _, same fun _ => List.mem_append_right _]
  exact ⟨rfl, rfl⟩

end

end Backend

inductive Sample where
  | jokes
  | menu
  | images
  | concierge

namespace Sample

def program : Sample → Invocation → Task Unit
  | .jokes => Program.jokes
  | .menu => Program.menu
  | .images => Program.images
  | .concierge => Program.concierge

def name : Sample → String
  | .jokes => "chat_agent"
  | .menu => "function_tools"
  | .images => "image_input"
  | .concierge => "foundry_agent"

theorem lookup_catalogue (x : Sample) : catalogue.lookup x.name = some x.program := by
  cases x <;> rfl

/-- The service that a program works with. Jokes come from a deployment if its address is set. -/
def backend (s : Settings) : Sample → Backend
  | .jokes => if s.value "AZURE_OPENAI_ENDPOINT" = "" then .openAi else .azure
  | .menu | .images => .openAi
  | .concierge => .foundry

def resolve (s : Settings) : Sample → Except SettingError Resolved
  | .jokes => (anyChatService s).map .chat
  | .menu | .images => (openAiService s).map .chat
  | .concierge => do
    let config ← Hosting.Config.fromSettings s
    let tools ← HostedTool.fromSettings s "samples"
    return .hosting config tools

def failure (e : SettingError) : Sample → Failure
  | .concierge => .setting e
  | _ => .agent (.setting e)

theorem resolve_eq (s : Settings) (x : Sample) :
    x.resolve s = s.behind ((x.backend s).demands s) (.ok ((x.backend s).resolution s)) := by
  cases x with
  | jokes =>
    rw [resolve, anyChatService, backend]
    by_cases endpoint : s.value "AZURE_OPENAI_ENDPOINT" = ""
    · rw [if_neg (by simpa [Settings.isSome_optional] using endpoint), if_pos endpoint]
      exact Backend.openAi_eq s
    · rw [if_pos ((s.isSome_optional _).2 endpoint), if_neg endpoint]
      exact Backend.azure_eq s
  | menu => exact Backend.openAi_eq s
  | images => exact Backend.openAi_eq s
  | concierge =>
    rw [resolve, Backend.hostingConfig_eq, Backend.hostedTools_eq, backend, Backend.demands,
      Settings.behind_append]
    exact (Settings.behind_bind _ _ _ _).trans
      (congrArg (s.behind _) (Settings.behind_bind _ _ _ _))

variable {x : Sample} {i : Invocation} {e : SettingError}

theorem program_of_resolve (plain : x = .images → i.arguments = [])
    (unusable : x.resolve i.settings = .error e) (c : Console) :
    x.program i c = (.error (x.failure e), c) := by
  cases x with
  | jokes =>
    have service : anyChatService i.settings = .error e := eq_of_map_chat unusable
    show Program.jokes i c = (.error (.agent (.setting e)), c)
    rw [Program.jokes, service]
    rfl
  | menu =>
    have service : openAiService i.settings = .error e := eq_of_map_chat unusable
    show Program.menu i c = (.error (.agent (.setting e)), c)
    rw [Program.menu, service]
    rfl
  | images =>
    have service : openAiService i.settings = .error e := eq_of_map_chat unusable
    show Program.images i c = (.error (.agent (.setting e)), c)
    rw [Program.images, service, imageMessage, plain rfl]
    rfl
  | concierge =>
    rw [resolve] at unusable
    show Program.concierge i c = (.error (.setting e), c)
    rw [Program.concierge]
    cases config : Hosting.Config.fromSettings i.settings with
    | error e' =>
      rw [config] at unusable
      obtain rfl := Except.error.inj unusable
      rfl
    | ok config' =>
      rw [config] at unusable
      cases tools : HostedTool.fromSettings i.settings "samples" with
      | error e' =>
        rw [tools] at unusable
        obtain rfl := Except.error.inj unusable
        rfl
      | ok tools' =>
        rw [tools] at unusable
        cases unusable

theorem resolve_congr {s s' : Settings} (same : x.backend s' = x.backend s)
    (agree : ∀ key ∈ (x.backend s).keys, s'.value key = s.value key) :
    x.resolve s' = x.resolve s := by
  rw [resolve_eq, resolve_eq, same, Backend.behind_congr agree, Backend.resolution_congr agree]

theorem program_congr {s' : Settings} (same : x.backend s' = x.backend i.settings)
    (agree : ∀ key ∈ (x.backend i.settings).keys, s'.value key = i.settings.value key) :
    x.program { i with settings := s' } = x.program i := by
  have resolved := resolve_congr same agree
  cases x with
  | jokes =>
    have service : anyChatService s' = anyChatService i.settings := eq_of_map_chat resolved
    show Program.jokes _ = Program.jokes i
    rw [Program.jokes, Program.jokes, service]
    rfl
  | menu =>
    have service : openAiService s' = openAiService i.settings := eq_of_map_chat resolved
    show Program.menu _ = Program.menu i
    rw [Program.menu, Program.menu, service]
    rfl
  | images =>
    have service : openAiService s' = openAiService i.settings := eq_of_map_chat resolved
    show Program.images _ = Program.images i
    rw [Program.images, Program.images, service]
    rfl
  | concierge =>
    obtain ⟨config, tools⟩ := Backend.foundry_congr agree
    show Program.concierge _ = Program.concierge i
    rw [Program.concierge, Program.concierge, config, tools]
    rfl

theorem execute_of_resolve (plain : x = .images → i.arguments = [])
    (unusable : x.resolve i.settings = .error e) (n : Network) :
    execute x.program i n =
      ⟨1, ⟨[], "Error: " ++ (x.failure e).diagnostic ++ "\n", n⟩⟩ := by
  rw [execute, program_of_resolve plain unusable]
  simp only [Console.start, String.empty_append]

/-- A program asks nothing of the network and writes nothing until all that its service demands of
the settings is met; otherwise it ends with the fault of the first demand that is not. The settings
then come to the values that are given for them or to their defaults, and to nothing else. -/
theorem settings_first (x : Sample) (i : Invocation) (n : Network)
    (plain : x = .images → i.arguments = []) :
    let s := i.settings
    let b := x.backend s
    catalogue.lookup x.name = some x.program ∧
    (¬ (∀ d ∈ b.demands s, d.Met s) → ∃ before d after,
      b.demands s = before ++ d :: after ∧ (∀ e ∈ before, e.Met s) ∧ ¬ d.Met s ∧
        x.resolve s = .error (d.fault s) ∧
        execute x.program i n =
          ⟨1, ⟨[], "Error: " ++ (x.failure (d.fault s)).diagnostic ++ "\n", n⟩⟩) ∧
    ((∀ d ∈ b.demands s, d.Met s) → x.resolve s = .ok (b.resolution s)) ∧
    ∀ s', x.backend s' = b → (∀ key ∈ b.keys, s'.raw? key = s.raw? key) →
      x.resolve s' = x.resolve s ∧
        execute x.program { i with settings := s' } n = execute x.program i n := by
  intro s b
  refine ⟨x.lookup_catalogue, fun unmet => ?_, fun met => ?_, fun s' same agree => ?_⟩
  · obtain ⟨before, d, after, split, met, unmet, settled⟩ := Settings.behind_unmet unmet
    have unusable : x.resolve s = .error (d.fault s) := by
      rw [resolve_eq, settled]
    exact ⟨before, d, after, split, met, unmet, unusable, execute_of_resolve plain unusable n⟩
  · rw [resolve_eq, Settings.behind_met met]
  · have values : ∀ key ∈ b.keys, s'.value key = s.value key := fun key known => by
      rw [Settings.value, Settings.value, agree key known]
    refine ⟨resolve_congr same values, ?_⟩
    rw [execute, execute, program_congr same values]

end Sample

def locked : Invocation where
  arguments := []
  settings := ⟨[("OPENAI_API_KEY", " \t"), ("OPENAI_BASE_URL", "ftp://host")]⟩
  fileAt := fun _ => .error .notFound

def lockedNetwork : Network := .connect (.scripted [⟨.closed, 0⟩])

theorem locked_ends : locked.arguments = [] ∧
    (¬ ∀ d ∈ Backend.openAi.demands locked.settings, d.Met locked.settings) ∧
    execute images locked lockedNetwork =
      ⟨1, ⟨[], "Error: Configuration(MissingVar(\"OPENAI_API_KEY\"))\n", lockedNetwork⟩⟩ := by
  have unmet : ¬ ∀ d ∈ Backend.openAi.demands locked.settings, d.Met locked.settings := by
    decide +kernel
  refine ⟨rfl, unmet, ?_⟩
  obtain ⟨before, d, after, split, met, -, -, ended⟩ :=
    (Sample.settings_first .images locked lockedNetwork fun _ => rfl).2.1 unmet
  cases before with
  | nil =>
    obtain ⟨rfl, -⟩ := List.cons.inj split
    have line : "Error: " ++ (Sample.failure (.missing "OPENAI_API_KEY") .images).diagnostic ++
        "\n" = "Error: Configuration(MissingVar(\"OPENAI_API_KEY\"))\n" := by decide +kernel
    rw [← line]
    exact ended
  | cons e before =>
    obtain ⟨rfl, -⟩ := List.cons.inj split
    exact absurd (met _ List.mem_cons_self) (by decide +kernel)

end Program
end ChatAgents
