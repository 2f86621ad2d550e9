import ChatAgents.Agent.Persistent.Basic
set_option autoImplicit false

namespace ChatAgents

open Hosting (Definition functionEntry hostedEntry resource?)

namespace Json

@[simp] theorem get?_nil (key : String) : (Json.obj []).get? key = none := rfl

@[simp] theorem get?_cons (k : String) (v : Json) (rest : List (String × Json)) (key : String) :
    (Json.obj ((k, v) :: rest)).get? key =
      if k = key then some v else (Json.obj rest).get? key := by
  by_cases same : k = key <;> simp [get?, members?, same]

theorem get?_insertMember (k : String) (v : Json) (members : List (String × Json)) (key : String) :
    (Json.obj (insertMember k v members)).get? key =
      if k = key then some v else (Json.obj members).get? key := by
  induction members with
  | nil => rw [insertMember, get?_cons]
  | cons m rest ih =>
    obtain ⟨k', v'⟩ := m
    rw [insertMember]
    split
    · rw [get?_cons]
    · split
      · next later =>
        rw [get?_cons, get?_cons, ih]
        by_cases first : k' = key
        · have other : k ≠ key := fun same => String.lt_irrefl key (by rwa [first, same] at later)
          rw [if_pos first, if_neg other, if_pos first]
        · rw [if_neg first, if_neg first]
      · next not_before not_after =>
        obtain rfl : k = k' :=
          String.le_antisymm (String.not_lt.1 not_after) (String.not_lt.1 not_before)
        rw [get?_cons, get?_cons]
        split <;> rfl

def valuesAt (key : String) (members : List (String × Json)) : List Json :=
  members.filterMap fun m => if m.1 = key then some m.2 else none

theorem get?_foldl_insertMember (members sorted : List (String × Json)) (key : String) :
    (Json.obj (members.foldl (fun sorted (k, v) => insertMember k v sorted) sorted)).get? key =
      (valuesAt key members).getLast?.or ((Json.obj sorted).get? key) := by
  induction members generalizing sorted with
  | nil => rfl
  | cons m rest ih =>
    obtain ⟨k, v⟩ := m
    rw [List.foldl_cons, ih, get?_insertMember, valuesAt, valuesAt]
    by_cases same : k = key
    · cases last : (valuesAt key rest).getLast? <;> simp_all [valuesAt, List.getLast?_cons]
    · simp [same]

theorem get?_sortMembers (members : List (String × Json)) (key : String) :
    (Json.obj (sortMembers members)).get? key = (valuesAt key members).getLast? := by
  rw [sortMembers, get?_foldl_insertMember, get?_nil, Option.or_none]

def path? (v : Json) : List String → Option Json
  | [] => some v
  | key :: keys => (v.get? key).bind fun inner => inner.path? keys

@[simp] theorem path?_singleton (v : Json) (key : String) : v.path? [key] = v.get? key := by
  rw [path?]
  cases v.get? key <;> rfl

end Json

namespace AgentTool

def function? : AgentTool → Option Tool
  | .function t => some t
  | .hosted _ => none

def hosted? : AgentTool → Option HostedTool
  | .function _ => none
  | .hosted t => some t

end AgentTool

theorem Registry.add_eq {r r' : Registry} {t : AgentTool} (h : r.add t = .ok r') :
    r' = ⟨r.functions ++ t.function?.toList, r.hosted ++ t.hosted?.toList⟩ := by
  cases t with
  | function t =>
    rw [add] at h
    split at h
    · cases h
    · obtain rfl := Except.ok.inj h
      simp [AgentTool.function?, AgentTool.hosted?]
  | hosted t =>
    rw [add] at h
    split at h
    · cases h
    · obtain rfl := Except.ok.inj h
      simp [AgentTool.function?, AgentTool.hosted?]

theorem Registry.foldlM_add_eq {r r' : Registry} {tools : List AgentTool}
    (h : tools.foldlM add r = .ok r') :
    r' = ⟨r.functions ++ tools.filterMap AgentTool.function?,
      r.hosted ++ tools.filterMap AgentTool.hosted?⟩ := by
  induction tools generalizing r with
  | nil =>
    obtain rfl := Except.ok.inj h
    simp
  | cons t rest ih =>
    rw [List.foldlM_cons] at h
    cases added : r.add t with
    | error e =>
      rw [added] at h
      cases h
    | ok r₁ =>
      rw [added] at h
      rw [ih h, add_eq added]
      cases t <;> simp [List.filterMap_cons, AgentTool.function?, AgentTool.hosted?]

theorem Registry.ofTools_eq {r : Registry} {tools : List AgentTool} (h : ofTools tools = .ok r) :
    r = ⟨tools.filterMap AgentTool.function?, tools.filterMap AgentTool.hosted?⟩ := by
  have kept := foldlM_add_eq h
  rwa [empty, List.nil_append, List.nil_append] at kept

theorem Registry.nodup_of_add {r r' : Registry} {t : AgentTool} (h : r.add t = .ok r')
    (distinct : r.hosted.Nodup) : r'.hosted.Nodup := by
  cases t with
  | function t => simpa [add_eq h, AgentTool.hosted?] using distinct
  | hosted t =>
    rw [add] at h
    split at h
    · cases h
    · next unknown =>
      obtain rfl := Except.ok.inj h
      have unlisted : t ∉ r.hosted := by simpa using unknown
      rw [List.nodup_append]
      refine ⟨distinct, by simp, fun u listed v new same => unlisted ?_⟩
      rwa [← List.mem_singleton.1 new, ← same]

theorem Registry.nodup_of_foldlM_add {r r' : Registry} {tools : List AgentTool}
    (h : tools.foldlM add r = .ok r') (distinct : r.hosted.Nodup) : r'.hosted.Nodup := by
  induction tools generalizing r with
  | nil =>
    obtain rfl := Except.ok.inj h
    exact distinct
  | cons t rest ih =>
    rw [List.foldlM_cons] at h
    cases added : r.add t with
    | error e =>
      rw [added] at h
      cases h
    | ok r₁ =>
      rw [added] at h
      exact ih h (nodup_of_add added distinct)

theorem Registry.ofTools_nodup {r : Registry} {tools : List AgentTool} (h : ofTools tools = .ok r) :
    r.hosted.Nodup :=
  nodup_of_foldlM_add h List.nodup_nil

theorem SearchQueryType.name_inj {q q' : SearchQueryType} (h : q.name = q'.name) : q = q' := by
  cases q <;> cases q' <;> simp_all [name]

namespace HostedTool

def indexEntry (id index : String) (queryType : SearchQueryType) (topK : UInt32) : Json :=
  .obj [("index_connection_id", .str id), ("index_name", .str index),
    ("query_type", .str queryType.name), ("top_k", .ofNat topK.toNat)]

def index? : HostedTool → Option Json
  | .azureAiSearch id index queryType topK => some (indexEntry id index queryType topK)
  | _ => none

theorem index?_inj {t u : HostedTool} {e : Json} (ht : t.index? = some e)
    (hu : u.index? = some e) : t = u := by
  cases t with
  | azureAiSearch id index queryType topK =>
    cases u with
    | azureAiSearch id' index' queryType' topK' =>
      have same := ht.trans hu.symm
      simp only [index?, indexEntry, Option.some.injEq, Json.obj.injEq, List.cons.injEq,
        Prod.mk.injEq, Json.str.injEq, true_and, and_true] at same
      obtain ⟨rfl, rfl, named, counted⟩ := same
      obtain rfl := SearchQueryType.name_inj named
      obtain rfl : topK = topK' := UInt32.toNat_inj.1 (Int.ofNat.inj (Json.int.inj counted))
      rfl
    | _ => cases hu
  | _ => cases ht

def stores? : HostedTool → Option (List String)
  | .fileSearch ids => some ids
  | _ => none

theorem resource?_eq_none_iff (t : HostedTool) :
    resource? t = none ↔ t.index? = none ∧ t.stores? = none := by
  cases t <;> simp [resource?, index?, stores?]

def members (hosted : List HostedTool) : List (String × Json) :=
  hosted.filterMap fun t => (resource? t).map fun r => (t.kind, r)

theorem valuesAt_search (hosted : List HostedTool) :
    Json.valuesAt "azure_ai_search" (members hosted) =
      (hosted.filterMap index?).map fun e => .obj [("indexes", .arr [e])] := by
  rw [Json.valuesAt, members, List.filterMap_filterMap, List.map_filterMap]
  congr 1
  funext t
  cases t <;> simp [resource?, index?, indexEntry, kind]

theorem valuesAt_files (hosted : List HostedTool) :
    Json.valuesAt "file_search" (members hosted) =
      (hosted.filterMap stores?).map fun ids => .obj [("vector_store_ids", .list .str ids)] := by
  rw [Json.valuesAt, members, List.filterMap_filterMap, List.map_filterMap]
  congr 1
  funext t
  cases t <;> simp [resource?, stores?, kind]

end HostedTool

namespace Hosting.Definition

variable (d : Definition)

theorem resources_eq : d.resources = Json.sortMembers (HostedTool.members d.hosted) := rfl

theorem get?_tools :
    d.toJson.get? "tools" = if d.entries = [] then none else some (.arr d.entries) := by
  rw [toJson, Json.record]
  cases instructions : d.instructions <;> cases entries : d.entries <;>
    cases resources : d.resources <;> simp

theorem get?_toolResources :
    d.toJson.get? "tool_resources" =
      if d.resources = [] then none else some (.obj d.resources) := by
  rw [toJson, Json.record]
  cases instructions : d.instructions <;> cases entries : d.entries <;>
    cases resources : d.resources <;> simp

theorem get?_resources (key : String) :
    (Json.obj d.resources).get? key =
      (Json.valuesAt key (HostedTool.members d.hosted)).getLast? :=
  Json.get?_sortMembers _ key

theorem path?_resources (key : String) (keys : List String) :
    d.toJson.path? ("tool_resources" :: key :: keys) =
      (Json.valuesAt key (HostedTool.members d.hosted)).getLast?.bind (·.path? keys) := by
  rw [Json.path?, get?_toolResources, ← get?_resources]
  split
  · next empty => rw [empty, Json.get?_nil]; rfl
  · rfl

theorem resources_eq_nil_iff :
    d.resources = [] ↔ ∀ t ∈ d.hosted, t.index? = none ∧ t.stores? = none := by
  simp only [← HostedTool.resource?_eq_none_iff]
  constructor
  · intro empty t member
    have nothing := d.get?_resources t.kind
    rw [empty, Json.get?_nil, eq_comm, List.getLast?_eq_none_iff] at nothing
    rw [Option.eq_none_iff_forall_ne_some]
    intro r found
    have told : r ∈ Json.valuesAt t.kind (HostedTool.members d.hosted) := by
      refine List.mem_filterMap.2 ⟨(t.kind, r), List.mem_filterMap.2 ⟨t, member, ?_⟩, if_pos rfl⟩
      rw [found]
      rfl
    rw [nothing] at told
    cases told
  · intro none_there
    have no_members : HostedTool.members d.hosted = [] := by
      refine List.filterMap_eq_nil_iff.2 fun t member => ?_
      rw [none_there t member]
      rfl
    rw [resources_eq, no_members]
    rfl

theorem indexes_eq :
    d.toJson.path? ["tool_resources", "azure_ai_search", "indexes"] =
      (d.hosted.filterMap HostedTool.index?).getLast?.map fun e => .arr [e] := by
  rw [path?_resources, HostedTool.valuesAt_search, List.getLast?_map]
  cases (d.hosted.filterMap HostedTool.index?).getLast? <;> simp [Json.path?]

theorem stores_eq :
    d.toJson.path? ["tool_resources", "file_search", "vector_store_ids"] =
      (d.hosted.filterMap HostedTool.stores?).getLast?.map (.list .str) := by
  rw [path?_resources, HostedTool.valuesAt_files, List.getLast?_map]
  cases (d.hosted.filterMap HostedTool.stores?).getLast? <;> simp [Json.path?]

end Hosting.Definition

/-- The settings of a hosted tool stand where the service looks for them. -/
def HostedTool.Told (v : Json) : HostedTool → Prop
  | .azureAiSearch id index queryType topK => ∃ indexes,
      v.path? ["tool_resources", "azure_ai_search", "indexes"] = some (.arr indexes) ∧
        indexEntry id index queryType topK ∈ indexes
  | .fileSearch ids => ∃ stores,
      v.path? ["tool_resources", "file_search", "vector_store_ids"] = some (.arr stores) ∧
        ∀ id ∈ ids, .str id ∈ stores
  | .bingGrounding id => ∃ entries e c, v.path? ["tools"] = some (.arr entries) ∧ e ∈ entries ∧
      e.path? ["bing_grounding", "search_configurations"] = some (.arr [c]) ∧
        c.path? ["connection_id"] = some (.str id)
  | .browserAutomation id => ∃ entries e, v.path? ["tools"] = some (.arr entries) ∧ e ∈ entries ∧
      e.path? ["browser_automation", "connection", "id"] = some (.str id)
  | .memorySearch name scope => ∃ entries e, v.path? ["tools"] = some (.arr entries) ∧ e ∈ entries ∧
      e.path? ["memory_store_name"] = some (.str name) ∧ e.path? ["scope"] = some (.str scope)
  | .codeInterpreter => ∃ entries e, v.path? ["tools"] = some (.arr entries) ∧ e ∈ entries ∧
      e.path? ["type"] = some (.str "code_interpreter")

theorem HostedTool.told_of_entry {v : Json} {entries : List Json} {t : HostedTool}
    (listed : v.path? ["tools"] = some (.arr entries)) (member : hostedEntry t ∈ entries)
    (indexless : t.index? = none) (storeless : t.stores? = none) : t.Told v := by
  cases t with
  | bingGrounding id => exact ⟨entries, _, _, listed, member, rfl, rfl⟩
  | azureAiSearch => cases indexless
  | browserAutomation id => exact ⟨entries, _, listed, member, rfl⟩
  | memorySearch name scope => exact ⟨entries, _, listed, member, rfl, rfl⟩
  | codeInterpreter => exact ⟨entries, _, listed, member, rfl⟩
  | fileSearch => cases storeless

theorem HostedTool.getLast?_filterMap {α : Type} (found? : HostedTool → Option α) {found : α}
    {before after : List HostedTool} {t : HostedTool} (here : found? t = some found)
    (last : ∀ u ∈ after, found? u = none) :
    ((before ++ t :: after).filterMap found?).getLast? = some found := by
  rw [List.filterMap_append, List.filterMap_cons_some here, List.filterMap_eq_nil_iff.2 last,
    List.getLast?_concat]

theorem HostedTool.index?_eq_none_of_kind {t u : HostedTool} (other : u.kind ≠ t.kind)
    {e : Json} (here : t.index? = some e) : u.index? = none := by
  cases t <;> cases u <;> simp_all [index?, kind]

theorem HostedTool.stores?_eq_none_of_kind {t u : HostedTool} (other : u.kind ≠ t.kind)
    {ids : List String} (here : t.stores? = some ids) : u.stores? = none := by
  cases t <;> cases u <;> simp_all [stores?, kind]

theorem Hosting.Definition.told_of_last (d : Definition) {before after : List HostedTool}
    {t : HostedTool} (split : d.hosted = before ++ t :: after)
    (last : ∀ u ∈ after, u.kind ≠ t.kind) : t.Told d.toJson := by
  have listed : d.toJson.path? ["tools"] = some (.arr d.entries) := by
    have entry : d.entries ≠ [] := by simp [entries, split]
    rw [Json.path?_singleton, get?_tools, if_neg entry]
  have member : hostedEntry t ∈ d.entries :=
    List.mem_append_right _ (List.mem_map_of_mem (by simp [split]))
  cases t with
  | azureAiSearch id index queryType topK =>
    refine ⟨[HostedTool.indexEntry id index queryType topK], ?_, List.mem_cons_self⟩
    rw [d.indexes_eq, split, HostedTool.getLast?_filterMap HostedTool.index? rfl
      fun u later => HostedTool.index?_eq_none_of_kind (last u later) rfl]
    rfl
  | fileSearch ids =>
    refine ⟨ids.map .str, ?_, fun id => List.mem_map_of_mem⟩
    rw [d.stores_eq, split, HostedTool.getLast?_filterMap HostedTool.stores? rfl
      fun u later => HostedTool.stores?_eq_none_of_kind (last u later) rfl]
    rfl
  | bingGrounding => exact HostedTool.told_of_entry listed member rfl rfl
  | browserAutomation => exact HostedTool.told_of_entry listed member rfl rfl
  | memorySearch => exact HostedTool.told_of_entry listed member rfl rfl
  | codeInterpreter => exact HostedTool.told_of_entry listed member rfl rfl

/-- The settings of an index are overwritten by those of a later one. -/
theorem Hosting.Definition.not_told_of_follower (d : Definition) (distinct : d.hosted.Nodup)
    {before after : List HostedTool} {t : HostedTool} (split : d.hosted = before ++ t :: after)
    (search : t.index? ≠ none) (follower : ∃ u ∈ after, u.index? ≠ none) : ¬ t.Told d.toJson := by
  have told : (d.hosted.filterMap HostedTool.index?).getLast? =
      (after.filterMap HostedTool.index?).getLast? := by
    obtain ⟨u, later, found⟩ := follower
    obtain ⟨e, found⟩ := Option.ne_none_iff_exists'.1 found
    have some_left : after.filterMap HostedTool.index? ≠ [] :=
      List.ne_nil_of_mem (List.mem_filterMap.2 ⟨u, later, found⟩)
    obtain ⟨e, here⟩ := Option.ne_none_iff_exists'.1 search
    have final := List.getLast?_eq_some_getLast some_left
    rw [split, List.filterMap_append, List.filterMap_cons_some here, List.getLast?_append,
      List.getLast?_cons, final]
    rfl
  cases t with
  | azureAiSearch id index queryType topK =>
    rintro ⟨indexes, found, listed⟩
    rw [d.indexes_eq, told] at found
    obtain ⟨e, last, same⟩ := Option.map_eq_some_iff.1 found
    obtain rfl := Json.arr.inj same
    obtain rfl := List.mem_singleton.1 listed
    obtain ⟨u, later, here⟩ := List.mem_filterMap.1 (List.mem_of_getLast? last)
    obtain rfl := HostedTool.index?_inj here
      (rfl : (HostedTool.azureAiSearch id index queryType topK).index? = _)
    rw [split] at distinct
    exact (List.nodup_cons.1 (List.nodup_append.1 distinct).2.1).1 later
  | _ => exact absurd rfl search

namespace PersistentAgent

/-- The definition of an agent lists every tool it was built with. Of the tools that search indexes
only the last has its settings there, and of those that search files likewise; all other tools have
theirs. -/
theorem definition_of_tools {s : PersistentAgentSpec} {a : PersistentAgent}
    (built : s.build = .ok a) :
    let functions := s.tools.filterMap AgentTool.function?
    let hosted := s.tools.filterMap AgentTool.hosted?
    let entries := functions.map (functionEntry ∘ Tool.definition) ++ hosted.map hostedEntry
    let v := a.definition.toJson
    (v.path? ["tools"] = if entries = [] then none else some (.arr entries)) ∧
    (v.path? ["tool_resources"] = none ↔ ∀ t ∈ hosted, t.index? = none ∧ t.stores? = none) ∧
    v.path? ["tool_resources", "azure_ai_search", "indexes"] =
      (hosted.filterMap HostedTool.index?).getLast?.map (fun e => .arr [e]) ∧
    v.path? ["tool_resources", "file_search", "vector_store_ids"] =
      (hosted.filterMap HostedTool.stores?).getLast?.map (.list .str) ∧
    ∀ before t after, hosted = before ++ t :: after →
      ((∀ u ∈ after, u.kind ≠ t.kind) → t.Told v) ∧
      (t.index? ≠ none → (∃ u ∈ after, u.index? ≠ none) → ¬ t.Told v) := by
  intro functions hosted entries v
  obtain ⟨registry, registered, rfl⟩ : ∃ registry, Registry.ofTools s.tools = .ok registry ∧
      a = ⟨s.config, s.name, s.instructions, s.model.getD s.config.deployment, registry,
        s.existing⟩ := by
    rw [PersistentAgentSpec.build] at built
    cases registered : Registry.ofTools s.tools with
    | error e =>
      rw [registered] at built
      cases built
    | ok registry =>
      rw [registered] at built
      exact ⟨registry, rfl, (Except.ok.inj built).symm⟩
  have distinct := Registry.ofTools_nodup registered
  obtain rfl : registry = ⟨functions, hosted⟩ := Registry.ofTools_eq registered
  refine ⟨?_, ?_, Hosting.Definition.indexes_eq _, Hosting.Definition.stores_eq _,
    fun _ _ _ split => ⟨Hosting.Definition.told_of_last _ split,
      Hosting.Definition.not_told_of_follower _ distinct split⟩⟩
  · rw [Json.path?_singleton, Hosting.Definition.get?_tools]
    simp [Hosting.Definition.entries, definition, Registry.definitions, entries]
  · rw [Json.path?_singleton, Hosting.Definition.get?_toolResources, ite_eq_left_iff]
    simp only [reduceCtorEq, imp_false, Decidable.not_not]
    exact Hosting.Definition.resources_eq_nil_iff _

end PersistentAgent

def guide : PersistentAgentSpec :=
  { PersistentAgentSpec.empty (.new "https://host/project" "model" "token") with
    tools := [.hosted (.simpleSearch "conn-hotels" "hotels"), .hosted .codeInterpreter,
      .hosted (.simpleSearch "conn-menus" "menus")] }

theorem guide_builds : guide.build = .ok
    { config := guide.config
      name := "agent"
      instructions := none
      model := "model"
      registry := ⟨[], [.simpleSearch "conn-hotels" "hotels", .codeInterpreter,
        .simpleSearch "conn-menus" "menus"]⟩
      existing := none } := rfl

theorem guide_is_defined : ∃ a, guide.build = .ok a ∧
    a.definition.toJson.path? ["tools"] = some (.arr [
      .obj [("type", .str "azure_ai_search")], .obj [("type", .str "code_interpreter")],
      .obj [("type", .str "azure_ai_search")]]) ∧
    (HostedTool.simpleSearch "conn-menus" "menus").Told a.definition.toJson := by
  have told := PersistentAgent.definition_of_tools guide_builds
  refine ⟨_, guide_builds, told.1, ?_⟩
  exact (told.2.2.2.2 [.simpleSearch "conn-hotels" "hotels", .codeInterpreter] _ [] rfl).1 nofun

/-- The service is told of two searches, but not of the hotels. -/
theorem hotels_are_lost : ∃ a, guide.build = .ok a ∧
    a.definition.toJson.path? ["tool_resources", "azure_ai_search", "indexes"] =
      some (.arr [HostedTool.indexEntry "conn-menus" "menus" .simple 5]) ∧
    HostedTool.simpleSearch "conn-hotels" "hotels" ∈ a.registry.hosted ∧
    ¬ (HostedTool.simpleSearch "conn-hotels" "hotels").Told a.definition.toJson := by
  refine ⟨_, guide_builds, rfl, List.mem_cons_self, ?_⟩
  exact Hosting.Definition.not_told_of_follower _ (by decide) (List.nil_append _).symm nofun
    ⟨.simpleSearch "conn-menus" "menus", by simp, nofun⟩

end ChatAgents
