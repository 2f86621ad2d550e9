import ChatAgents.Agent.Chat
import ChatAgents.Proofs.AgentDefinitions
import ChatAgents.Proofs.HandlerRuns
import Mathlib.Data.List.Nodup
set_option autoImplicit false

namespace ChatAgents

namespace AgentTool

/-- A function tool repeats one of its name, and a hosted tool one with the same settings. -/
def Repeats (before : List AgentTool) : AgentTool → Prop
  | .function t => ∃ u, .function u ∈ before ∧ u.name = t.name
  | .hosted t => .hosted t ∈ before

/-- The names of the function tools are distinct, and so are the hosted tools. -/
structure Distinct (tools : List AgentTool) : Prop where
  names : ((tools.filterMap function?).map Tool.name).Nodup
  hosted : (tools.filterMap hosted?).Nodup

def repetition : AgentTool → AgentError
  | .function t => .misconfigured ("duplicate tool registered: " ++ t.name)
  | .hosted t => .misconfigured ("duplicate hosted tool registered: " ++ t.kind)

theorem mem_filterMap_function? {tools : List AgentTool} {t : Tool} :
    t ∈ tools.filterMap function? ↔ .function t ∈ tools := by
  rw [List.mem_filterMap]
  constructor
  · rintro ⟨u, member, found⟩
    cases u with
    | function u =>
      obtain rfl := Option.some.inj found
      exact member
    | hosted u => cases found
  · intro member
    exact ⟨.function t, member, rfl⟩

theorem mem_filterMap_hosted? {tools : List AgentTool} {t : HostedTool} :
    t ∈ tools.filterMap hosted? ↔ .hosted t ∈ tools := by
  rw [List.mem_filterMap]
  constructor
  · rintro ⟨u, member, found⟩
    cases u with
    | function u => cases found
    | hosted u =>
      obtain rfl := Option.some.inj found
      exact member
  · intro member
    exact ⟨.hosted t, member, rfl⟩

theorem distinct_nil : Distinct [] := ⟨List.nodup_nil, List.nodup_nil⟩

theorem Distinct.of_append {front back : List AgentTool} (h : Distinct (front ++ back)) :
    Distinct front := by
  have names := h.names
  have hosted := h.hosted
  rw [List.filterMap_append, List.map_append] at names
  rw [List.filterMap_append] at hosted
  exact ⟨names.of_append_left, hosted.of_append_left⟩

theorem distinct_iff {tools : List AgentTool} :
    Distinct tools ↔ ((tools.filterMap function?).map Tool.name).Nodup ∧
      (tools.filterMap hosted?).Nodup :=
  ⟨fun h => ⟨h.names, h.hosted⟩, fun h => ⟨h.1, h.2⟩⟩

theorem nodup_append_singleton {α : Type} {xs : List α} {x : α} :
    (xs ++ [x]).Nodup ↔ xs.Nodup ∧ x ∉ xs := by
  rw [← List.concat_eq_append, List.nodup_concat, and_comm]

theorem distinct_concat_iff {before : List AgentTool} {t : AgentTool} :
    Distinct (before ++ [t]) ↔ Distinct before ∧ ¬ t.Repeats before := by
  rw [distinct_iff, distinct_iff]
  cases t with
  | function t =>
    have functions : (before ++ [function t]).filterMap function? =
        before.filterMap function? ++ [t] := by simp [List.filterMap_append, function?]
    have hosted : (before ++ [function t]).filterMap hosted? = before.filterMap hosted? := by
      simp [List.filterMap_append, hosted?]
    have named : t.name ∈ (before.filterMap function?).map Tool.name ↔
        (function t).Repeats before := by
      simp only [List.mem_map, mem_filterMap_function?, Repeats]
    rw [functions, hosted, List.map_append, List.map_singleton, nodup_append_singleton, named,
      and_right_comm]
  | hosted t =>
    have functions : (before ++ [AgentTool.hosted t]).filterMap function? =
        before.filterMap function? := by simp [List.filterMap_append, function?]
    have hosted : (before ++ [AgentTool.hosted t]).filterMap hosted? =
        before.filterMap hosted? ++ [t] := by simp [List.filterMap_append, hosted?]
    have listed : t ∈ before.filterMap hosted? ↔ (AgentTool.hosted t).Repeats before :=
      mem_filterMap_hosted?
    rw [functions, hosted, nodup_append_singleton, listed, and_assoc]

end AgentTool

open AgentTool (Distinct)

namespace Registry

theorem find?_eq_some_iff_of_nodup {r : Registry} (distinct : (r.functions.map Tool.name).Nodup)
    {name : String} {t : Tool} : r.find? name = some t ↔ t ∈ r.functions ∧ t.name = name := by
  constructor
  · intro found
    exact ⟨List.mem_of_find?_eq_some found, by simpa using List.find?_some found⟩
  · rintro ⟨member, rfl⟩
    have some_found : (r.find? t.name).isSome = true :=
      List.find?_isSome.2 ⟨t, member, by simp⟩
    obtain ⟨u, found⟩ := Option.isSome_iff_exists.1 some_found
    have same_name : u.name = t.name := by simpa using List.find?_some found
    have same : u = t :=
      List.inj_on_of_nodup_map distinct (List.mem_of_find?_eq_some found) member same_name
    rw [found, same]

theorem isSome_find?_iff (r : Registry) (name : String) :
    (r.find? name).isSome = true ↔ ∃ t ∈ r.functions, t.name = name := by
  simp [find?, List.find?_isSome]

def holding (tools : List AgentTool) : Registry :=
  ⟨tools.filterMap AgentTool.function?, tools.filterMap AgentTool.hosted?⟩

theorem add_repeated {before : List AgentTool} {t : AgentTool} (repeats : t.Repeats before) :
    (holding before).add t = .error t.repetition := by
  cases t with
  | function t =>
    obtain ⟨u, member, same_name⟩ := repeats
    have known : ((holding before).find? t.name).isSome = true :=
      (isSome_find?_iff _ _).2 ⟨u, AgentTool.mem_filterMap_function?.2 member, same_name⟩
    rw [add, if_pos known]
    rfl
  | hosted t =>
    have known : (holding before).hosted.contains t = true :=
      List.contains_iff_mem.2 (AgentTool.mem_filterMap_hosted?.2 repeats)
    rw [add, if_pos known]
    rfl

theorem add_new {before : List AgentTool} {t : AgentTool} (new : ¬ t.Repeats before) :
    (holding before).add t = .ok (holding (before ++ [t])) := by
  cases t with
  | function t =>
    have unknown : ¬ ((holding before).find? t.name).isSome = true := by
      intro known
      obtain ⟨u, member, same_name⟩ := (isSome_find?_iff _ _).1 known
      exact new ⟨u, AgentTool.mem_filterMap_function?.1 member, same_name⟩
    rw [add, if_neg unknown]
    simp [holding, List.filterMap_append, AgentTool.function?, AgentTool.hosted?]
  | hosted t =>
    have unknown : ¬ (holding before).hosted.contains t = true := by
      intro known
      exact new (AgentTool.mem_filterMap_hosted?.1 (List.contains_iff_mem.1 known))
    rw [add, if_neg unknown]
    simp [holding, List.filterMap_append, AgentTool.function?, AgentTool.hosted?]

/-- A pass over tools behind those that are held comes to its end, or stops at the first that
repeats an earlier one. -/
theorem foldlM_add_holding {before : List AgentTool} (distinct : Distinct before)
    (tools : List AgentTool) :
    (Distinct (before ++ tools) ∧
      tools.foldlM add (holding before) = .ok (holding (before ++ tools))) ∨
    ∃ front t back, tools = front ++ t :: back ∧ Distinct (before ++ front) ∧
      t.Repeats (before ++ front) ∧ tools.foldlM add (holding before) = .error t.repetition := by
  -- `before` grows by each tool that is added, and stays free of repetitions
  induction tools generalizing before with
  | nil =>
    left
    rw [List.append_nil]
    exact ⟨distinct, rfl⟩
  | cons t rest ih =>
    rw [List.foldlM_cons]
    by_cases repeats : t.Repeats before
    · right
      refine ⟨[], t, rest, rfl, ?_, ?_, ?_⟩
      · rwa [List.append_nil]
      · rwa [List.append_nil]
      · rw [add_repeated repeats]
        rfl
    · have longer : before ++ t :: rest = before ++ [t] ++ rest := by simp
      have one_more : (holding before).add t >>= (rest.foldlM add ·) =
          rest.foldlM add (holding (before ++ [t])) := by
        rw [add_new repeats]
        rfl
      rw [one_more, longer]
      have held := ih (AgentTool.distinct_concat_iff.2 ⟨distinct, repeats⟩)
      rcases held with done | ⟨front, u, back, split, earlier, again, stopped⟩
      · exact .inl done
      · right
        refine ⟨t :: front, u, back, by rw [split, List.cons_append], ?_, ?_, stopped⟩
        · simpa using earlier
        · simpa using again

theorem ofTools_cases (tools : List AgentTool) :
    (Distinct tools ∧ ofTools tools = .ok (holding tools)) ∨
    ∃ before t after, tools = before ++ t :: after ∧ Distinct before ∧ t.Repeats before ∧
      ofTools tools = .error t.repetition :=
  foldlM_add_holding AgentTool.distinct_nil tools

theorem not_distinct_of_repeats {before after : List AgentTool} {t : AgentTool}
    (repeats : t.Repeats before) : ¬ Distinct (before ++ t :: after) := by
  intro distinct
  have longer : before ++ t :: after = before ++ [t] ++ after := by simp
  rw [longer] at distinct
  exact (AgentTool.distinct_concat_iff.1 distinct.of_append).2 repeats

theorem ofTools_eq_error_iff {tools : List AgentTool} {e : AgentError} :
    ofTools tools = .error e ↔ ∃ before t after, tools = before ++ t :: after ∧ Distinct before ∧
      t.Repeats before ∧ e = t.repetition := by
  constructor
  · intro failed
    rcases ofTools_cases tools with ⟨-, made⟩ | ⟨before, t, after, split, earlier, repeats, stopped⟩
    · cases failed.symm.trans made
    · have same : e = t.repetition := Except.error.inj (failed.symm.trans stopped)
      exact ⟨before, t, after, split, earlier, repeats, same⟩
  · rintro ⟨before, t, after, split, earlier, repeats, rfl⟩
    have held : before.foldlM add empty = .ok (holding before) := by
      rcases ofTools_cases before with ⟨-, made⟩ | ⟨front, u, back, rfl, -, again, -⟩
      · exact made
      · exact absurd earlier (not_distinct_of_repeats again)
    rw [ofTools, split, List.foldlM_append, held]
    have stopped : (t :: after).foldlM add (holding before) = .error t.repetition := by
      rw [List.foldlM_cons, add_repeated repeats]
      rfl
    exact stopped

theorem ofTools_eq_ok_iff {tools : List AgentTool} {r : Registry} :
    ofTools tools = .ok r ↔ Distinct tools ∧ r = holding tools := by
  rcases ofTools_cases tools with ⟨distinct, made⟩ | ⟨before, t, after, split, -, repeats, failed⟩
  · rw [made]
    simp [distinct, eq_comm]
  · have repeated : ¬ Distinct tools := split ▸ not_distinct_of_repeats repeats
    rw [failed]
    simp [repeated]

theorem exists_ofTools_iff (tools : List AgentTool) :
    (∃ r, ofTools tools = .ok r) ↔ Distinct tools := by
  constructor
  · rintro ⟨r, made⟩
    exact (ofTools_eq_ok_iff.1 made).1
  · intro distinct
    exact ⟨holding tools, ofTools_eq_ok_iff.2 ⟨distinct, rfl⟩⟩

/-- A call runs a tool: the tool's own schema and handler decide what comes of it, whatever else a
handler does. -/
structure Runs (r : Registry) (call : ToolCall) (t : Tool) : Prop where
  found : r.find? call.name = some t
  outcome : r.execute call = .ofResult (t.execute call.arguments)
  effects : ∀ (m : Type → Type) [Monad m] (handle : Tool → Json → m (Except ToolError String)),
    r.executeBy handle call =
      (do return .ofResult (← t.executeBy handle call.arguments) : m ToolOutcome)

/-- A call runs no tool, and the model is told that there is none of that name. -/
structure RunsNothing (r : Registry) (call : ToolCall) : Prop where
  unknown : r.find? call.name = none
  outcome : r.execute call = ⟨"tool not found: " ++ call.name, true⟩
  effects : ∀ (m : Type → Type) [Monad m] (handle : Tool → Json → m (Except ToolError String)),
    r.executeBy handle call = (pure ⟨"tool not found: " ++ call.name, true⟩ : m ToolOutcome)

variable {r : Registry} {call : ToolCall}

theorem runs_iff {t : Tool} : r.Runs call t ↔ r.find? call.name = some t := by
  constructor
  · exact Runs.found
  · intro found
    refine ⟨found, ?_, ?_⟩
    · rw [execute, found]
    · intro m _ handle
      rw [executeBy, found]

theorem runsNothing_iff : r.RunsNothing call ↔ r.find? call.name = none := by
  constructor
  · exact RunsNothing.unknown
  · intro unknown
    refine ⟨unknown, ?_, ?_⟩
    · rw [execute, unknown]
      rfl
    · intro m _ handle
      rw [executeBy, unknown]
      rfl

theorem offered_iff (name : String) :
    (∃ d ∈ r.definitions, d.name = name) ↔ (r.find? name).isSome = true := by
  rw [isSome_find?_iff, definitions]
  simp [Tool.definition]

theorem runs_iff_offered :
    (∃ t, r.Runs call t) ↔ ∃ d ∈ r.definitions, d.name = call.name := by
  rw [offered_iff, Option.isSome_iff_exists]
  exact exists_congr fun t => runs_iff

theorem runsNothing_iff_not_offered :
    r.RunsNothing call ↔ ∀ d ∈ r.definitions, d.name ≠ call.name := by
  rw [runsNothing_iff, ← Option.not_isSome_iff_eq_none, ← offered_iff]
  simp

theorem Runs.offered {t : Tool} (runs : r.Runs call t)
    (distinct : (r.functions.map Tool.name).Nodup) :
    t ∈ r.functions ∧ ∀ d ∈ r.definitions, d.name = call.name → d = t.definition := by
  have found := (find?_eq_some_iff_of_nodup distinct).1 runs.found
  refine ⟨found.1, ?_⟩
  intro d offered named
  obtain ⟨u, member, rfl⟩ := List.mem_map.1 offered
  have same_name : u.name = t.name := Eq.trans named found.2.symm
  have same : u = t := List.inj_on_of_nodup_map distinct member found.1 same_name
  rw [same]

end Registry

/-- A registry with an index of its function tools. The list is what the model is offered, and calls
go by the index. -/
structure IndexedRegistry where
  functions : List Tool
  byName : Std.HashMap String Tool
  hosted : List HostedTool

namespace IndexedRegistry

def empty : IndexedRegistry := ⟨[], ∅, []⟩

/-- A tool is known if the index had one of its name when it was put there. -/
def add (x : IndexedRegistry) (t : AgentTool) : Except AgentError IndexedRegistry :=
  match t with
  | .function f =>
    let (known, byName) := x.byName.containsThenInsert f.name f
    if known then .error t.repetition else .ok { x with functions := x.functions ++ [f], byName }
  | .hosted h =>
    if x.hosted.contains h then .error t.repetition
    else .ok { x with hosted := x.hosted ++ [h] }

def ofTools (tools : List AgentTool) : Except AgentError IndexedRegistry := tools.foldlM add empty

def registry (x : IndexedRegistry) : Registry := ⟨x.functions, x.hosted⟩

def Coherent (x : IndexedRegistry) : Prop := ∀ name, x.byName[name]? = x.registry.find? name

theorem coherent_empty : empty.Coherent := by
  intro name
  simp [empty, registry, Registry.find?]

variable {x : IndexedRegistry}

theorem add_function (h : x.Coherent) (f : Tool) :
    x.add (.function f) =
      if (x.registry.find? f.name).isSome then .error (AgentTool.function f).repetition
      else .ok ⟨x.functions ++ [f], x.byName.insert f.name f, x.hosted⟩ := by
  have known : x.byName.contains f.name = (x.registry.find? f.name).isSome := by
    rw [Std.HashMap.contains_eq_isSome_getElem?, h f.name]
  rw [add]
  simp only [Std.HashMap.containsThenInsert_fst, Std.HashMap.containsThenInsert_snd, known]

theorem map_add (h : x.Coherent) (t : AgentTool) :
    (x.add t).map registry = x.registry.add t := by
  cases t with
  | function f =>
    rw [add_function h, Registry.add]
    split <;> rfl
  | hosted t =>
    rw [add, Registry.add]
    show Except.map registry (if x.hosted.contains t then _ else _) =
      if x.hosted.contains t then _ else _
    split <;> rfl

theorem Coherent.add (h : x.Coherent) {t : AgentTool} {x' : IndexedRegistry}
    (added : x.add t = .ok x') : x'.Coherent := by
  cases t with
  | function f =>
    rw [add_function h] at added
    split at added
    · cases added
    · next unknown =>
      obtain rfl := Except.ok.inj added
      intro name
      have others : x.byName[name]? = x.functions.find? (·.name == name) := h name
      have absent : x.functions.find? (·.name == f.name) = none :=
        Option.not_isSome_iff_eq_none.1 unknown
      simp only [registry, Registry.find?, List.find?_append, List.find?_singleton,
        Std.HashMap.getElem?_insert, beq_iff_eq, others]
      by_cases same : f.name = name
      · subst same
        simp [absent]
      · simp [same]
  | hosted t =>
    rw [IndexedRegistry.add] at added
    split at added
    · cases added
    · obtain rfl := Except.ok.inj added
      exact h

theorem foldlM_add (h : x.Coherent) (tools : List AgentTool) :
    (tools.foldlM IndexedRegistry.add x).map registry = tools.foldlM Registry.add x.registry ∧
      ∀ x', tools.foldlM IndexedRegistry.add x = .ok x' → x'.Coherent := by
  induction tools generalizing x with
  | nil =>
    refine ⟨rfl, ?_⟩
    intro x' same
    obtain rfl := Except.ok.inj same
    exact h
  | cons t rest ih =>
    rw [List.foldlM_cons, List.foldlM_cons, ← map_add h]
    cases added : x.add t with
    | error e => exact ⟨rfl, nofun⟩
    | ok x₁ => exact ih (h.add added)

theorem ofTools_coherent (tools : List AgentTool) :
    (ofTools tools).map registry = Registry.ofTools tools ∧
      ∀ x, ofTools tools = .ok x → x.Coherent :=
  foldlM_add coherent_empty tools

end IndexedRegistry

theorem ChatAgentSpec.build_eq_ok_iff {σ : Type} {s : ChatAgentSpec σ} {a : ChatAgent σ} :
    s.build = .ok a ↔ ∃ model r, s.model = some model ∧ Registry.ofTools s.tools = .ok r ∧
      r.hosted = [] ∧ a = ⟨model, s.name, s.instructions, r, s.maxIterations⟩ := by
  rw [build]
  cases s.model with
  | none => simp
  | some model =>
    cases Registry.ofTools s.tools with
    | error e => simp
    | ok r =>
      cases hosted : r.hosted with
      | nil => simp [hosted, eq_comm]
      | cons t rest => simp [hosted]

theorem ChatAgentSpec.exists_build_iff {σ : Type} (s : ChatAgentSpec σ) :
    (∃ a, s.build = .ok a) ↔ s.model.isSome = true ∧ Distinct s.tools ∧
      s.tools.filterMap AgentTool.hosted? = [] := by
  constructor
  · rintro ⟨a, built⟩
    obtain ⟨model, r, given, registered, unhosted, -⟩ := build_eq_ok_iff.1 built
    obtain ⟨distinct, rfl⟩ := Registry.ofTools_eq_ok_iff.1 registered
    exact ⟨Option.isSome_iff_exists.2 ⟨model, given⟩, distinct, unhosted⟩
  · rintro ⟨some_model, distinct, unhosted⟩
    obtain ⟨model, given⟩ := Option.isSome_iff_exists.1 some_model
    have registered : Registry.ofTools s.tools = .ok (.holding s.tools) :=
      Registry.ofTools_eq_ok_iff.2 ⟨distinct, rfl⟩
    exact ⟨_, build_eq_ok_iff.2 ⟨model, _, given, registered, unhosted, rfl⟩⟩

/-- A list of tools makes a registry exactly if no tool in it repeats an earlier one, and otherwise
the first that does is reported; with an index by name it is the same. The function tools are
offered in their order, and a call runs the tool that is offered under its name, with that tool's
schema and handler; under any other name it runs nothing. A chat agent can be built exactly if it
has a model, too, and no hosted tool. -/
theorem registry_coherent (tools : List AgentTool) :
    ((∃ r, Registry.ofTools tools = .ok r) ↔ Distinct tools) ∧
    (∀ e, Registry.ofTools tools = .error e ↔ ∃ before t after, tools = before ++ t :: after ∧
      Distinct before ∧ t.Repeats before ∧ e = t.repetition) ∧
    (IndexedRegistry.ofTools tools).map IndexedRegistry.registry = Registry.ofTools tools ∧
    (∀ x, IndexedRegistry.ofTools tools = .ok x → x.Coherent) ∧
    (∀ r, Registry.ofTools tools = .ok r →
      r.definitions = (tools.filterMap AgentTool.function?).map Tool.definition ∧
      r.hosted = tools.filterMap AgentTool.hosted? ∧
      ∀ call : ToolCall,
        ((∃ t, r.Runs call t) ↔ ∃ d ∈ r.definitions, d.name = call.name) ∧
        (r.RunsNothing call ↔ ∀ d ∈ r.definitions, d.name ≠ call.name) ∧
        ∀ t, r.Runs call t → .function t ∈ tools ∧
          ∀ d ∈ r.definitions, d.name = call.name → d = t.definition) ∧
    ∀ (σ : Type) (s : ChatAgentSpec σ), s.tools = tools →
      ((∃ a, s.build = .ok a) ↔ s.model.isSome = true ∧ Distinct tools ∧
        tools.filterMap AgentTool.hosted? = []) ∧
      ∀ a, s.build = .ok a → s.model = some a.model ∧ Registry.ofTools tools = .ok a.registry := by
  have indexed := IndexedRegistry.ofTools_coherent tools
  refine ⟨Registry.exists_ofTools_iff tools, fun e => Registry.ofTools_eq_error_iff, indexed.1,
    indexed.2, ?_, ?_⟩
  · intro r made
    obtain ⟨distinct, rfl⟩ := Registry.ofTools_eq_ok_iff.1 made
    refine ⟨rfl, rfl, fun call => ⟨Registry.runs_iff_offered,
      Registry.runsNothing_iff_not_offered, ?_⟩⟩
    intro t runs
    obtain ⟨member, only⟩ := runs.offered distinct.names
    exact ⟨AgentTool.mem_filterMap_function?.1 member, only⟩
  · rintro σ s rfl
    refine ⟨s.exists_build_iff, ?_⟩
    intro a built
    obtain ⟨model, r, given, registered, -, rfl⟩ := ChatAgentSpec.build_eq_ok_iff.1 built
    exact ⟨given, registered⟩

end ChatAgents
