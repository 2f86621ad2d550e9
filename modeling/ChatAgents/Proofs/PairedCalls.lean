import ChatAgents.Model.ChatCompletions
import ChatAgents.Model.Messages
import ChatAgents.Proofs.ToolLoop
set_option autoImplicit false

namespace ChatAgents

/-- A message with calls is followed by one answer to each, in their order and with nothing between,
and nothing else answers a call. A message without calls is a turn with no answers behind it. -/
inductive Paired {M : Type} (asks answers : M → List String) : List M → Prop
  | nil : Paired asks answers []
  | turn {m : M} {results rest : List M} (plain : answers m = [])
      (answered : results.map answers = (asks m).map fun id => [id])
      (quiet : ∀ r ∈ results, asks r = []) (later : Paired asks answers rest) :
      Paired asks answers (m :: (results ++ rest))

def callTurns {M : Type} (asks : M → List String) (messages : List M) : List (List String) :=
  (messages.map asks).filter (· ≠ [])

/-- To write a message changes none of its calls and answers, and what is left out has none. -/
structure KeepsCalls {M N : Type} (asks answers : M → List String)
    (asks' answers' : N → List String) (write : M → Option N) : Prop where
  written : ∀ m n, write m = some n → asks' n = asks m ∧ answers' n = answers m
  dropped : ∀ m, write m = none → asks m = [] ∧ answers m = []

section

variable {M N : Type} {asks answers : M → List String} {asks' answers' : N → List String}
  {write : M → Option N}

theorem Paired.append {l l' : List M} (h : Paired asks answers l) (h' : Paired asks answers l') :
    Paired asks answers (l ++ l') := by
  induction h with
  | nil => exact h'
  | turn plain answered quiet _ ih =>
    rw [List.cons_append, List.append_assoc]
    exact .turn plain answered quiet ih

theorem Paired.of_plain {l : List M} (h : ∀ m ∈ l, asks m = [] ∧ answers m = []) :
    Paired asks answers l := by
  induction l with
  | nil => exact .nil
  | cons m rest ih =>
    obtain ⟨none_asked, plain⟩ := h m List.mem_cons_self
    have no_answers : ([] : List M).map answers = (asks m).map fun id => [id] := by
      rw [none_asked]
      rfl
    exact .turn plain no_answers nofun (ih fun m hm => h m (List.mem_cons_of_mem _ hm))

theorem Paired.flatMap {T : Type} {f : T → List M} (h : ∀ t, Paired asks answers (f t))
    (ts : List T) : Paired asks answers (ts.flatMap f) := by
  induction ts with
  | nil => exact .nil
  | cons t rest ih => exact (h t).append ih

namespace KeepsCalls

variable (h : KeepsCalls asks answers asks' answers' write)

include h

theorem map_answers {results : List M} (each : ∀ r ∈ results, answers r ≠ []) :
    (results.filterMap write).map answers' = results.map answers := by
  induction results with
  | nil => rfl
  | cons r rest ih =>
    have later := ih fun r hr => each r (List.mem_cons_of_mem _ hr)
    cases wr : write r with
    | none => exact absurd (h.dropped r wr).2 (each r List.mem_cons_self)
    | some n => rw [List.filterMap_cons_some wr, List.map_cons, List.map_cons, later,
        (h.written r n wr).2]

theorem quiet_filterMap {results : List M} (quiet : ∀ r ∈ results, asks r = []) :
    ∀ n ∈ results.filterMap write, asks' n = [] := by
  intro n hn
  obtain ⟨r, hr, wr⟩ := List.mem_filterMap.1 hn
  exact (h.written r n wr).1.trans (quiet r hr)

theorem paired {l : List M} (hl : Paired asks answers l) :
    Paired asks' answers' (l.filterMap write) := by
  induction hl with
  | nil => exact .nil
  | @turn m results rest plain answered quiet _ ih =>
    cases wm : write m with
    | none =>
      -- what is left out has no calls, so no answers stand behind it
      have none_answered : results = [] := by
        rw [(h.dropped m wm).1] at answered
        exact List.map_eq_nil_iff.1 answered
      rw [List.filterMap_cons_none wm, none_answered]
      exact ih
    | some n =>
      obtain ⟨same, same_answers⟩ := h.written m n wm
      have each : ∀ r ∈ results, answers r ≠ [] := by
        intro r hr none_answered
        have found : answers r ∈ (asks m).map fun id => [id] :=
          answered ▸ List.mem_map_of_mem hr
        obtain ⟨id, -, single⟩ := List.mem_map.1 found
        exact List.cons_ne_nil id [] (single.trans none_answered)
      rw [List.filterMap_cons_some wm, List.filterMap_append]
      exact .turn (same_answers.trans plain) (by rw [h.map_answers each, answered, same])
        (h.quiet_filterMap quiet) ih

theorem callTurns_filterMap (l : List M) :
    callTurns asks' (l.filterMap write) = callTurns asks l := by
  induction l with
  | nil => rfl
  | cons m rest ih =>
    cases wm : write m with
    | none =>
      rw [List.filterMap_cons_none wm, ih]
      simp [callTurns, (h.dropped m wm).1]
    | some n =>
      rw [List.filterMap_cons_some wm]
      simp only [callTurns, List.map_cons, List.filter_cons, (h.written m n wm).1] at ih ⊢
      rw [ih]

end KeepsCalls

end

namespace ModelMessage

def asks : ModelMessage → List String
  | .assistant _ calls => calls.map ToolCall.id
  | _ => []

def answers : ModelMessage → List String
  | .toolResult id _ _ _ => [id]
  | _ => []

end ModelMessage

namespace ChatAgent

variable {σ : Type} (a : ChatAgent σ) (messages : List ChatMessage) (o : RunOptions)

def historyAfter (turns : List Completion) : List ModelMessage :=
  a.initialHistory messages o ++ turns.flatMap fun c => c.toMessage :: a.resultsOf c.calls

theorem historyAfter_append (turns more : List Completion) :
    a.historyAfter messages o (turns ++ more) =
      a.historyAfter messages o turns ++
        more.flatMap fun c => c.toMessage :: a.resultsOf c.calls := by
  simp [historyAfter]

theorem paired_historyAfter (turns : List Completion) :
    Paired ModelMessage.asks ModelMessage.answers (a.historyAfter messages o turns) := by
  have start : Paired ModelMessage.asks ModelMessage.answers (a.initialHistory messages o) := by
    refine Paired.of_plain fun m hm => ?_
    rcases List.mem_append.1 hm with system | chat
    · cases instructions : o.instructions a.instructions with
      | none => simp [instructions] at system
      | some text =>
        obtain rfl : m = .system text := by simpa [instructions] using system
        exact ⟨rfl, rfl⟩
    · obtain ⟨c, -, rfl⟩ := List.mem_map.1 chat
      obtain ⟨role, parts⟩ := c
      cases role <;> exact ⟨rfl, rfl⟩
  refine start.append (Paired.flatMap (fun c => ?_) turns)
  rw [← List.append_nil (a.resultsOf c.calls)]
  refine .turn rfl ?_ ?_ .nil
  · simp [resultsOf, ModelMessage.asks, ModelMessage.answers, Completion.toMessage,
      ToolOutcome.toMessage, Function.comp_def]
  · intro r hr
    obtain ⟨call, -, rfl⟩ := List.mem_map.1 hr
    rfl

end ChatAgent

theorem ChatAgent.Loops.messages_eq {σ : Type} {a : ChatAgent σ} {messages : List ChatMessage}
    {o : RunOptions} {received : Nat → Received} {requests : List ModelRequest}
    {executed : List ToolCall} {result : Except AgentError Unit}
    (h : a.Loops messages o received requests executed result) {i : Nat} {r : ModelRequest}
    (sent : requests[i]? = some r) :
    ∃ turns : List Completion, turns.length = i ∧
      (∀ (j : Nat) (c : Completion), turns[j]? = some c → received j = .ok c) ∧
      r.messages = a.historyAfter messages o turns := by
  induction i generalizing r with
  | zero => exact ⟨[], rfl, nofun, (h.begins r sent).trans (by simp [historyAfter, initialHistory])⟩
  | succ i ih =>
    have earlier : i < requests.length := by
      obtain ⟨small, -⟩ := List.getElem?_eq_some_iff.1 sent
      omega
    have before := List.getElem?_eq_getElem earlier
    obtain ⟨turns, count, turns_received, same⟩ := ih before
    obtain ⟨c, turn, grown⟩ := h.goesOn i _ r before sent
    refine ⟨turns ++ [c], by rw [List.length_append, count]; rfl, fun j c' at_j => ?_, ?_⟩
    · rcases Nat.lt_trichotomy j i with lt | rfl | gt
      · rw [List.getElem?_append_left (by omega)] at at_j
        exact turns_received j c' at_j
      · rw [List.getElem?_append_right (by omega), count, Nat.sub_self] at at_j
        obtain rfl := Option.some.inj at_j
        exact turn
      · rw [List.getElem?_append_right (by omega), count] at at_j
        obtain ⟨k, hk⟩ : ∃ k, j - i = k + 1 := ⟨j - i - 1, by omega⟩
        rw [hk] at at_j
        cases at_j
    · rw [grown, same, historyAfter_append]
      simp [resultsOf, Completion.toMessage, ToolOutcome.toMessage]

namespace ChatCompletions.WireMessage

def asks : WireMessage → List String
  | .assistant _ calls => calls.map WireCall.id
  | _ => []

def answers : WireMessage → List String
  | .tool id _ => [id]
  | _ => []

theorem keepsCalls_ofMessage :
    KeepsCalls ModelMessage.asks ModelMessage.answers asks answers ofMessage? where
  written m n wrote := by
    cases m with
    | system text =>
      rw [ofMessage?] at wrote
      split at wrote
      · cases wrote
      · obtain rfl := Option.some.inj wrote
        exact ⟨rfl, rfl⟩
    | user parts =>
      obtain ⟨content, -, rfl⟩ := Option.map_eq_some_iff.1 wrote
      exact ⟨rfl, rfl⟩
    | assistant content calls =>
      simp only [ofMessage?] at wrote
      split at wrote
      · cases wrote
      · obtain rfl := Option.some.inj wrote
        exact ⟨by simp [asks, ModelMessage.asks, WireCall.ofCall], rfl⟩
    | toolResult id name content isError =>
      obtain rfl := Option.some.inj wrote
      exact ⟨rfl, rfl⟩
  dropped m left_out := by
    cases m with
    | system | user => exact ⟨rfl, rfl⟩
    | assistant content calls =>
      simp only [ofMessage?] at left_out
      split at left_out
      · rename_i empty
        rw [Bool.and_eq_true, List.isEmpty_iff] at empty
        exact ⟨by rw [ModelMessage.asks, empty.2]; rfl, rfl⟩
      · cases left_out
    | toolResult => cases left_out

end ChatCompletions.WireMessage

namespace Messages

def Block.call? : Block → Option String
  | .toolUse id _ _ => some id
  | _ => none

def Block.result? : Block → Option String
  | .toolResult id _ => some id
  | _ => none

def WireContent.blocks? : WireContent → List Block
  | .text _ => []
  | .blocks bs => bs

def WireMessage.asks (m : WireMessage) : List String := m.content.blocks?.filterMap Block.call?

def WireMessage.answers (m : WireMessage) : List String := m.content.blocks?.filterMap Block.result?

theorem filterMap_textBlocks {α : Type} {f : Block → Option α} (h : ∀ s, f (.text s) = none)
    (text : Option String) : (textBlocks text).filterMap f = [] := by
  cases text with
  | none => rfl
  | some s =>
    rw [textBlocks]
    split
    · rfl
    · rw [List.filterMap_cons_none (h s), List.filterMap_nil]

theorem WireMessage.keepsCalls_ofMessage :
    KeepsCalls ModelMessage.asks ModelMessage.answers asks answers ofMessage? where
  written m n wrote := by
    cases m with
    | system => cases wrote
    | user parts =>
      simp only [ofMessage?] at wrote
      split at wrote
      · cases wrote
      · obtain rfl := Option.some.inj wrote
        exact ⟨rfl, rfl⟩
    | assistant content calls =>
      simp only [ofMessage?] at wrote
      split at wrote
      · cases wrote
      · obtain rfl := Option.some.inj wrote
        have no_calls := filterMap_textBlocks (f := Block.call?) (fun _ => rfl) content
        have no_results := filterMap_textBlocks (f := Block.result?) (fun _ => rfl) content
        constructor
        · simp only [asks, WireContent.blocks?, List.filterMap_append, no_calls, List.nil_append,
            List.filterMap_map]
          exact congrFun List.filterMap_eq_map calls
        · simp only [answers, WireContent.blocks?, List.filterMap_append, no_results,
            List.nil_append, List.filterMap_map]
          exact List.filterMap_eq_nil_iff.2 fun _ _ => rfl
    | toolResult id name content isError =>
      obtain rfl := Option.some.inj wrote
      exact ⟨rfl, rfl⟩
  dropped m left_out := by
    cases m with
    | system | user => exact ⟨rfl, rfl⟩
    | assistant content calls =>
      simp only [ofMessage?] at left_out
      split at left_out
      · rename_i empty
        rw [List.isEmpty_iff, List.append_eq_nil_iff, List.map_eq_nil_iff] at empty
        exact ⟨by rw [ModelMessage.asks, empty.2]; rfl, rfl⟩
      · cases left_out
    | toolResult => cases left_out

end Messages

/-- What is written of a history pairs its calls and results, and has every turn of calls in it. -/
structure WrittenPaired {M : Type} (asks answers : M → List String) (wire : List M)
    (history : List ModelMessage) : Prop where
  paired : Paired asks answers wire
  turns : callTurns asks wire = callTurns ModelMessage.asks history
  results : callTurns answers wire = callTurns ModelMessage.answers history

theorem KeepsCalls.swap {M N : Type} {asks answers : M → List String}
    {asks' answers' : N → List String} {write : M → Option N}
    (h : KeepsCalls asks answers asks' answers' write) :
    KeepsCalls answers asks answers' asks' write where
  written m n wm := (h.written m n wm).symm
  dropped m wm := (h.dropped m wm).symm

theorem KeepsCalls.writtenPaired {N : Type} {asks answers : N → List String}
    {write : ModelMessage → Option N}
    (h : KeepsCalls ModelMessage.asks ModelMessage.answers asks answers write)
    {history : List ModelMessage}
    (paired : Paired ModelMessage.asks ModelMessage.answers history) :
    WrittenPaired asks answers (history.filterMap write) history where
  paired := h.paired paired
  turns := h.callTurns_filterMap history
  results := h.swap.callTurns_filterMap history

structure PairedOnWire (history : List ModelMessage) : Prop where
  completions : WrittenPaired ChatCompletions.WireMessage.asks ChatCompletions.WireMessage.answers
    (ChatCompletions.wireMessages history) history
  messages : WrittenPaired Messages.WireMessage.asks Messages.WireMessage.answers
    (Messages.wireMessages history) history

/-- The conversation of each request goes on where that of the last one ended. -/
structure PairedRequests (requests : List ModelRequest) : Prop where
  paired : ∀ r ∈ requests, PairedOnWire r.messages
  extended : ∀ (i : Nat) (r r' : ModelRequest), requests[i]? = some r → requests[i + 1]? = some r' →
    ChatCompletions.wireMessages r.messages <+: ChatCompletions.wireMessages r'.messages ∧
      Messages.wireMessages r.messages <+: Messages.wireMessages r'.messages

namespace ChatAgent

theorem pairedOnWire_historyAfter {σ : Type} (a : ChatAgent σ) (messages : List ChatMessage)
    (o : RunOptions) (turns : List Completion) :
    PairedOnWire (a.historyAfter messages o turns) where
  completions := ChatCompletions.WireMessage.keepsCalls_ofMessage.writtenPaired
    (a.paired_historyAfter messages o turns)
  messages := Messages.WireMessage.keepsCalls_ofMessage.writtenPaired
    (a.paired_historyAfter messages o turns)

theorem Loops.pairedRequests {σ : Type} {a : ChatAgent σ} {messages : List ChatMessage}
    {o : RunOptions} {received : Nat → Received} {requests : List ModelRequest}
    {executed : List ToolCall} {result : Except AgentError Unit}
    (h : a.Loops messages o received requests executed result) : PairedRequests requests where
  paired r sent := by
    obtain ⟨i, at_i⟩ := List.mem_iff_getElem?.1 sent
    obtain ⟨turns, -, -, same⟩ := h.messages_eq at_i
    rw [same]
    exact a.pairedOnWire_historyAfter messages o turns
  extended i r r' sent sent' := by
    obtain ⟨c, -, grown⟩ := h.goesOn i r r' sent sent'
    have longer : r.messages <+: r'.messages := by
      rw [grown]
      exact List.prefix_append _ _
    exact ⟨longer.filterMap _, longer.filterMap _⟩

/-- Whatever turns an agent's model has made, both services are sent each turn's calls with their
results behind it; and over a run, what is sent only grows at its end. -/
theorem calls_paired_on_wire (a : ChatAgent Script) (native : Bool) (messages : List ChatMessage)
    (o : RunOptions) (script : List ScriptedTurn) :
    (∀ turns : List Completion, PairedOnWire (a.historyAfter messages o turns)) ∧
      PairedRequests ((a.rehearsing native).run messages o
        (ChatWorld.start ⟨script, []⟩)).2.service.requests ∧
      PairedRequests ((a.rehearsing native).runStreaming messages o
        (ChatWorld.start ⟨script, []⟩)).world.service.requests :=
  ⟨a.pairedOnWire_historyAfter messages o,
    (a.loops_run native messages o script).pairedRequests,
    (a.loops_runStreaming native messages o script).pairedRequests⟩

end ChatAgent
end ChatAgents
