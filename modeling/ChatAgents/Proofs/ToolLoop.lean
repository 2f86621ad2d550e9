import ChatAgents.Proofs.Replay
set_option autoImplicit false

namespace ChatAgents

abbrev Received := Except RemoteError Completion

def Received.Asks (x : Received) : Prop := ∃ c, x = .ok c ∧ c.calls ≠ []

def Received.Concludes (x : Received) : Prop := ∃ c, x = .ok c ∧ c.calls = []

def Received.calls : Received → List ToolCall
  | .ok c => c.calls
  | .error _ => []

theorem Received.Asks.ne_error {x : Received} (h : x.Asks) {e : RemoteError} : x ≠ .error e := by
  obtain ⟨c, rfl, -⟩ := h
  nofun

theorem Received.Asks.not_concludes {x : Received} (h : x.Asks) : ¬ x.Concludes := by
  obtain ⟨c, rfl, calls⟩ := h
  rintro ⟨c', same, none_called⟩
  obtain rfl := Except.ok.inj same
  exact calls none_called

theorem Received.Concludes.ne_error {x : Received} (h : x.Concludes) {e : RemoteError} :
    x ≠ .error e := by
  obtain ⟨c, rfl, -⟩ := h
  nofun

theorem Received.concludes_or_fails {x : Received} (h : ¬ x.Asks) :
    x.Concludes ∨ ∃ e, x = .error e := by
  cases x with
  | error e => exact .inr ⟨e, rfl⟩
  | ok c => exact .inl ⟨c, rfl, Classical.byContradiction fun calls => h ⟨c, rfl, calls⟩⟩

/-- What a run ends with at a turn that calls no tool. -/
def Received.ending (x : Received) : Except AgentError Unit :=
  (x.map fun _ => ()).mapError .remote

theorem Received.succeeds_iff {x : Received} (h : ¬ x.Asks) : x.ending = .ok () ↔ x.Concludes := by
  rcases concludes_or_fails h with ⟨c, rfl, none_called⟩ | ⟨e, rfl⟩
  · exact ⟨fun _ => ⟨c, rfl, none_called⟩, fun _ => rfl⟩
  · exact ⟨nofun, fun concludes => absurd rfl concludes.ne_error⟩

theorem Received.fails_iff {x : Received} {e : RemoteError} :
    x.ending = .error (.remote e) ↔ x = .error e := by
  cases x with
  | error e' =>
    change Except.error (AgentError.remote e') = .error (.remote e) ↔ _
    rw [Except.error.injEq, AgentError.remote.injEq, Except.error.injEq]
  | ok c => exact ⟨nofun, nofun⟩

/-- What is to be seen of a run: the histories that the model was asked with, the calls executed and
the end. -/
structure Talk where
  asked : List (List ModelMessage)
  executed : List ToolCall
  result : Except AgentError Unit

/-- The loop passes over every turn that calls tools. Turn `k` is the first that does not, unless
the loop has used up its turns before. -/
def Talk.Ends (talk : Talk) (n limit : Nat) (received : Nat → Received) : Prop :=
  (∃ k < n, (∀ i < k, (received i).Asks) ∧ ¬ (received k).Asks ∧ talk.asked.length = k + 1 ∧
      talk.result = (received k).ending) ∨
    ((∀ i < n, (received i).Asks) ∧ talk.asked.length = n ∧
      talk.result = .error (.maxIterations limit))

namespace Talk.Ends

variable {talk : Talk} {n limit : Nat} {received : Nat → Received}

theorem stop_unique {k k' : Nat} (earlier : ∀ i < k, (received i).Asks)
    (stops : ¬ (received k).Asks) (earlier' : ∀ i < k', (received i).Asks)
    (stops' : ¬ (received k').Asks) : k = k' := by
  rcases Nat.lt_trichotomy k k' with lt | rfl | gt
  · exact absurd (earlier' k lt) stops
  · rfl
  · exact absurd (earlier k' gt) stops'

theorem at_stop (h : talk.Ends n limit received) {P : Received → Prop}
    {result : Except AgentError Unit} (stops : ∀ x, P x → ¬ x.Asks)
    (means : ∀ x, ¬ x.Asks → (x.ending = result ↔ P x))
    (other : result ≠ .error (.maxIterations limit)) (k : Nat) :
    (talk.result = result ∧ talk.asked.length = k) ↔
      0 < k ∧ k ≤ n ∧ (∀ i < k - 1, (received i).Asks) ∧ P (received (k - 1)) := by
  constructor
  · rintro ⟨ended, rfl⟩
    rcases h with ⟨k', small, earlier, stopped, count, result⟩ | ⟨-, -, result⟩
    · rw [count]
      exact ⟨k'.succ_pos, small, earlier, (means _ stopped).1 (result.symm.trans ended)⟩
    · exact absurd (ended.symm.trans result) other
  · rintro ⟨positive, small, earlier, ended⟩
    have stopped := stops _ ended
    rcases h with ⟨k', small', earlier', stopped', count, result⟩ | ⟨all, -, -⟩
    · obtain rfl := stop_unique earlier stopped earlier' stopped'
      exact ⟨result.trans ((means _ stopped).2 ended), count.trans (Nat.sub_add_cancel positive)⟩
    · exact absurd (all (k - 1) (by omega)) stopped

theorem ending_ne_exhausted (x : Received) : x.ending ≠ .error (.maxIterations limit) := by
  cases x <;> nofun

theorem exhausted_iff (h : talk.Ends n limit received) :
    talk.result = .error (.maxIterations limit) ↔ ∀ i < n, (received i).Asks := by
  rcases h with ⟨k, small, -, stopped, -, result⟩ | ⟨all, -, result⟩
  · rw [result]
    exact ⟨fun h => absurd h (ending_ne_exhausted _), fun all => absurd (all k small) stopped⟩
  · exact ⟨fun _ => all, fun _ => result⟩

theorem length_of_exhausted (h : talk.Ends n limit received)
    (exhausted : talk.result = .error (.maxIterations limit)) : talk.asked.length = n := by
  rcases h with ⟨_, -, -, -, -, result⟩ | ⟨-, count, -⟩
  · exact absurd (result.symm.trans exhausted) (ending_ne_exhausted _)
  · exact count

end Talk.Ends

namespace ChatAgent

variable {σ : Type} (a : ChatAgent σ)

def talk : Nat → (Nat → Received) → List ModelMessage → Talk
  | 0, _, _ => ⟨[], [], .error (.maxIterations a.maxIterations)⟩
  | n + 1, received, history =>
    match received 0 with
    | .error e => ⟨[history], [], .error (.remote e)⟩
    | .ok c =>
      if c.calls.isEmpty then ⟨[history], [], .ok ()⟩
      else
        let rest := talk n (fun i => received (i + 1))
          (history ++ c.toMessage :: a.resultsOf c.calls)
        ⟨history :: rest.asked, c.calls ++ rest.executed, rest.result⟩

variable {a} {n : Nat} {received : Nat → Received} {history : List ModelMessage}

theorem talk_error {e : RemoteError} (h : received 0 = .error e) :
    a.talk (n + 1) received history = ⟨[history], [], .error (.remote e)⟩ := by
  rw [talk, h]

theorem talk_last {c : Completion} (h : received 0 = .ok c) (last : c.calls.isEmpty = true) :
    a.talk (n + 1) received history = ⟨[history], [], .ok ()⟩ := by
  rw [talk, h]
  exact if_pos last

theorem talk_next {c : Completion} (h : received 0 = .ok c) (more : c.calls.isEmpty = false) :
    a.talk (n + 1) received history =
      let rest := a.talk n (fun i => received (i + 1))
        (history ++ c.toMessage :: a.resultsOf c.calls)
      ⟨history :: rest.asked, c.calls ++ rest.executed, rest.result⟩ := by
  rw [talk, h]
  exact if_neg (by rw [more]; decide)

theorem talk_cases (n : Nat) (received : Nat → Received) (history : List ModelMessage) :
    (¬ (received 0).Asks ∧ (received 0).calls = [] ∧
        a.talk (n + 1) received history = ⟨[history], [], (received 0).ending⟩) ∨
      ∃ c, received 0 = .ok c ∧ (received 0).Asks ∧
        let rest := a.talk n (fun i => received (i + 1))
          (history ++ c.toMessage :: a.resultsOf c.calls)
        a.talk (n + 1) received history =
          ⟨history :: rest.asked, c.calls ++ rest.executed, rest.result⟩ := by
  cases first : received 0 with
  | error e => exact .inl ⟨fun asks => asks.ne_error rfl, rfl, talk_error first⟩
  | ok c =>
    cases last : c.calls.isEmpty with
    | true =>
      have none_called := List.isEmpty_iff.1 last
      exact .inl ⟨fun asks => asks.not_concludes ⟨c, rfl, none_called⟩, none_called,
        talk_last first last⟩
    | false =>
      have called : c.calls ≠ [] := fun none_called => by simp [none_called] at last
      exact .inr ⟨c, rfl, ⟨c, rfl, called⟩, talk_next first last⟩

theorem talk_ends (n : Nat) (received : Nat → Received) (history : List ModelMessage) :
    (a.talk n received history).Ends n a.maxIterations received := by
  induction n generalizing received history with
  | zero => exact .inr ⟨nofun, rfl, rfl⟩
  | succ n ih =>
    rcases a.talk_cases n received history with ⟨stops, -, talk⟩ | ⟨c, -, asks, talk⟩
    · rw [talk]
      exact .inl ⟨0, n.succ_pos, nofun, stops, rfl, rfl⟩
    · -- what the rest of the loop passes over stands one turn later in the whole
      have before {m : Nat} (later : ∀ i < m, (received (i + 1)).Asks) :
          ∀ i < m + 1, (received i).Asks
        | 0, _ => asks
        | i + 1, h => later i (Nat.lt_of_succ_lt_succ h)
      rw [talk]
      rcases ih (fun i => received (i + 1)) (history ++ c.toMessage :: a.resultsOf c.calls) with
        ⟨k, small, earlier, stops, count, result⟩ | ⟨all, count, result⟩
      · exact .inl ⟨k + 1, Nat.succ_lt_succ small, before earlier, stops,
          congrArg Nat.succ count, result⟩
      · exact .inr ⟨before all, congrArg Nat.succ count, result⟩

theorem talk_begins (n : Nat) (received : Nat → Received) (history h : List ModelMessage)
    (asked : (a.talk n received history).asked[0]? = some h) : h = history := by
  cases n with
  | zero => cases asked
  | succ n =>
    rcases a.talk_cases n received history with ⟨-, -, talk⟩ | ⟨c, -, -, talk⟩
    · rw [talk] at asked
      exact (Option.some.inj asked).symm
    · rw [talk] at asked
      exact (Option.some.inj asked).symm

theorem talk_goesOn (n : Nat) (received : Nat → Received) (history : List ModelMessage) {i : Nat}
    {h h' : List ModelMessage} (asked : (a.talk n received history).asked[i]? = some h)
    (next : (a.talk n received history).asked[i + 1]? = some h') :
    ∃ c, received i = .ok c ∧ h' = h ++ c.toMessage :: a.resultsOf c.calls := by
  induction n generalizing received history i with
  | zero => cases asked
  | succ n ih =>
    rcases a.talk_cases n received history with ⟨-, -, talk⟩ | ⟨c, first, -, talk⟩
    · rw [talk] at next
      cases next
    · rw [talk] at asked next
      cases i with
      | zero =>
        obtain rfl : history = h := Option.some.inj asked
        exact ⟨c, first, talk_begins _ _ _ _ next⟩
      | succ i =>
        exact ih (fun i => received (i + 1)) (history ++ c.toMessage :: a.resultsOf c.calls)
          asked next

theorem talk_executed (n : Nat) (received : Nat → Received) (history : List ModelMessage) :
    let talk := a.talk n received history
    talk.executed = (List.range talk.asked.length).flatMap fun i => (received i).calls := by
  induction n generalizing received history with
  | zero => rfl
  | succ n ih =>
    rcases a.talk_cases n received history with ⟨-, none_called, talk⟩ | ⟨c, first, -, talk⟩
    · rw [talk]
      simp [none_called]
    · rw [talk]
      simp only [List.length_cons, List.range_succ_eq_map, List.flatMap_cons, List.flatMap_map,
        first, Received.calls, ih]

end ChatAgent

/-- The call cannot be answered: no such tool is registered, or the tool refuses the arguments or
fails. -/
def Registry.Refuses (r : Registry) (call : ToolCall) (e : ToolError) : Prop :=
  (r.find? call.name = none ∧ e = .notFound call.name) ∨
    ∃ t, r.find? call.name = some t ∧ t.execute call.arguments = .error e

theorem Registry.execute_of_refuses {r : Registry} {call : ToolCall} {e : ToolError}
    (h : r.Refuses call e) : r.execute call = ⟨e.message, true⟩ := by
  rcases h with ⟨unknown, rfl⟩ | ⟨t, found, failed⟩
  · rw [execute, unknown]
    rfl
  · rw [execute, found]
    dsimp only
    rw [failed]
    rfl

/-- What a run over the turns `received` sends, executes and ends with. -/
structure ChatAgent.Loops {σ : Type} (a : ChatAgent σ) (messages : List ChatMessage) (o : RunOptions)
    (received : Nat → Received) (requests : List ModelRequest) (executed : List ToolCall)
    (result : Except AgentError Unit) : Prop where
  begins : ∀ r, requests[0]? = some r →
    r.messages =
      ((o.instructions a.instructions).map ModelMessage.system).toList ++ messages.map .ofChat
  goesOn : ∀ (i : Nat) (r r' : ModelRequest), requests[i]? = some r → requests[i + 1]? = some r' →
    ∃ c : Completion, received i = .ok c ∧
      r'.messages = r.messages ++ .assistant c.text c.calls :: c.calls.map fun call =>
        .toolResult call.id call.name (a.registry.execute call).text
          (a.registry.execute call).isError
  settings : ∀ r ∈ requests,
    r.tools = a.registry.definitions ∧ r.toolChoice = a.toolChoice ∧ r.sampling = o.sampling
  /-- It succeeds exactly with the first turn that calls no tool. -/
  succeeds : ∀ k, (result = .ok () ∧ requests.length = k) ↔
    0 < k ∧ k ≤ a.maxIterations ∧ (∀ i < k - 1, (received i).Asks) ∧ (received (k - 1)).Concludes
  /-- The limit is met exactly if each turn up to it calls tools. -/
  exhausts : result = .error (.maxIterations a.maxIterations) ↔
    ∀ i < a.maxIterations, (received i).Asks
  exhausted : result = .error (.maxIterations a.maxIterations) →
    requests.length = a.maxIterations
  /-- It fails at a request exactly if the model does, after turns that all call tools. -/
  fails : ∀ k e, (result = .error (.remote e) ∧ requests.length = k) ↔
    0 < k ∧ k ≤ a.maxIterations ∧ (∀ i < k - 1, (received i).Asks) ∧ received (k - 1) = .error e
  ends : result = .ok () ∨ result = .error (.maxIterations a.maxIterations) ∨
    ∃ e, result = .error (.remote e)
  /-- Every call of every turn received is executed, once and in its order. -/
  executes : executed = (List.range requests.length).flatMap fun i => (received i).calls

namespace ChatAgent

variable {σ : Type} (a : ChatAgent σ)

theorem loops_of_talk (messages : List ChatMessage) (o : RunOptions) (received : Nat → Received)
    {requests : List ModelRequest} {calls : List ToolCall} {result : Except AgentError Unit}
    (sent : requests =
      (a.talk a.maxIterations received (a.initialHistory messages o)).asked.map (a.request o))
    (called : calls = (a.talk a.maxIterations received (a.initialHistory messages o)).executed)
    (ending : result = (a.talk a.maxIterations received (a.initialHistory messages o)).result) :
    a.Loops messages o received requests calls result := by
  subst sent called ending
  have ended := talk_ends (a := a) a.maxIterations received (a.initialHistory messages o)
  have executed := talk_executed (a := a) a.maxIterations received (a.initialHistory messages o)
  have first := talk_begins (a := a) a.maxIterations received (a.initialHistory messages o)
  have next := @talk_goesOn _ a a.maxIterations received (a.initialHistory messages o)
  generalize a.talk a.maxIterations received (a.initialHistory messages o) = talk at *
  constructor
  case begins =>
    intro r asked
    rw [List.getElem?_map, Option.map_eq_some_iff] at asked
    obtain ⟨h, asked, rfl⟩ := asked
    exact first h asked
  case goesOn =>
    intro i r r' asked asked'
    rw [List.getElem?_map, Option.map_eq_some_iff] at asked asked'
    obtain ⟨h, asked, rfl⟩ := asked
    obtain ⟨h', asked', rfl⟩ := asked'
    exact next asked asked'
  case settings =>
    intro r sent
    obtain ⟨h, -, rfl⟩ := List.mem_map.1 sent
    exact ⟨rfl, rfl, rfl⟩
  case succeeds =>
    intro k
    rw [List.length_map]
    exact ended.at_stop (P := Received.Concludes) (fun _ h asks => asks.not_concludes h)
      (fun _ => Received.succeeds_iff) nofun k
  case exhausts => exact ended.exhausted_iff
  case exhausted =>
    intro limit
    rw [List.length_map]
    exact ended.length_of_exhausted limit
  case fails =>
    intro k e
    rw [List.length_map]
    exact ended.at_stop (P := fun x => x = .error e) (fun _ h asks => asks.ne_error h)
      (fun _ _ => Received.fails_iff) nofun k
  case ends =>
    rcases ended with ⟨k, -, -, stops, -, result⟩ | ⟨-, -, result⟩
    · rcases Received.concludes_or_fails stops with ⟨c, ok, -⟩ | ⟨e, failed⟩
      · rw [ok] at result
        exact .inl result
      · rw [failed] at result
        exact .inr (.inr ⟨e, result⟩)
    · exact .inr (.inl result)
  case executes =>
    rw [List.length_map]
    exact executed

end ChatAgent

def Script.received (f : ScriptedTurn → Received) (turns : List ScriptedTurn) (i : Nat) : Received :=
  (turns[i]?).elim (.error (.response "script exhausted")) f

theorem Script.received_tail (f : ScriptedTurn → Received) (turns : List ScriptedTurn) :
    (fun i => Script.received f turns (i + 1)) = Script.received f turns.tail := by
  funext i
  cases turns <;> rfl

namespace ScriptedTurn

def stream (native : Bool) (t : ScriptedTurn) : Except RemoteError ChunkStream :=
  match native, t with
  | true, .pieces s => .ok s
  | _, t => t.reply.map .ofCompletion

def streamed (native : Bool) (t : ScriptedTurn) : Received :=
  (t.stream native).bind ChunkStream.toCompletion

def Fails (native : Bool) (t : ScriptedTurn) (e : RemoteError) : Prop :=
  t.stream native = .error e ∨ ∃ s, t.stream native = .ok s ∧ s.fault = some e

/-- The answer arrived, but some call in it has arguments that are not blank and no JSON. -/
def Garbled (native : Bool) (t : ScriptedTurn) (e : RemoteError) : Prop :=
  ∃ s, t.stream native = .ok s ∧ s.fault = none ∧
    ∃ call ∈ (Accumulator.empty.pushAll s.chunks).calls,
      Text.isBlankText call.2.arguments = false ∧ Json.parse? call.2.arguments = none ∧
        e = .response ("tool call arguments for '" ++ call.2.name ++ "' are not valid JSON: " ++
          malformedJson)

end ScriptedTurn

theorem PartialCall.arguments_of_finish {c : PartialCall} {e : RemoteError}
    (h : c.finish = .error e) :
    Text.isBlankText c.arguments = false ∧ Json.parse? c.arguments = none ∧
      e = .response ("tool call arguments for '" ++ c.name ++ "' are not valid JSON: " ++
        malformedJson) := by
  rw [finish, parseArguments] at h
  cases blank : Text.isBlankText c.arguments with
  | true => simp [blank, Except.map] at h
  | false =>
    cases parsed : Json.parse? c.arguments with
    | some v => simp [blank, parsed, Except.map] at h
    | none =>
      simp only [blank, parsed, Except.map, Bool.false_eq_true, if_false, Except.error.injEq] at h
      exact ⟨rfl, rfl, h.symm⟩

theorem mapM_eq_error {α β : Type} {f : α → Except RemoteError β} {l : List α} {e : RemoteError}
    (h : l.mapM f = .error e) : ∃ x ∈ l, f x = .error e := by
  induction l with
  | nil => cases h
  | cons x rest ih =>
    cases first : f x with
    | error e' =>
      rw [List.mapM_cons, first] at h
      obtain rfl : e' = e := Except.error.inj h
      exact ⟨x, List.mem_cons_self, first⟩
    | ok y =>
      cases later : rest.mapM f with
      | error e' =>
        rw [List.mapM_cons, first, later] at h
        obtain rfl : e' = e := Except.error.inj h
        obtain ⟨z, hz, failed⟩ := ih later
        exact ⟨z, List.mem_cons_of_mem x hz, failed⟩
      | ok ys =>
        rw [List.mapM_cons, first, later] at h
        cases h

theorem ScriptedTurn.streamed_error {native : Bool} {t : ScriptedTurn} {e : RemoteError}
    (h : t.streamed native = .error e) : t.Fails native e ∨ t.Garbled native e := by
  rw [streamed] at h
  cases streaming : t.stream native with
  | error e' =>
    rw [streaming] at h
    obtain rfl : e' = e := Except.error.inj h
    exact .inl (.inl streaming)
  | ok s =>
    have failed : s.toCompletion = .error e := by rwa [streaming] at h
    rw [ChunkStream.toCompletion] at failed
    cases fault : s.fault with
    | some e' =>
      rw [fault] at failed
      obtain rfl : e' = e := Except.error.inj failed
      exact .inl (.inr ⟨s, streaming, fault⟩)
    | none =>
      rw [fault] at failed
      dsimp only at failed
      rw [Completion.ofChunks, Accumulator.finish] at failed
      cases calls : (Accumulator.empty.pushAll s.chunks).calls.mapM
          fun (c : Nat × PartialCall) => c.2.finish with
      | ok _ =>
        rw [calls] at failed
        cases failed
      | error e' =>
        rw [calls] at failed
        obtain rfl : e' = e := Except.error.inj failed
        obtain ⟨call, member, unfinished⟩ := mapM_eq_error calls
        exact .inr ⟨s, streaming, fault, call, member, call.2.arguments_of_finish unfinished⟩

namespace ChatAgent

def rehearsing (a : ChatAgent Script) (native : Bool) : ChatAgent Script :=
  { a with model := if native then Script.streamingModel else Script.model }

variable (a : ChatAgent Script) (native : Bool)

theorem complete_rehearsing (r : ModelRequest) (s : Script) :
    (a.rehearsing native).model.complete r s =
      (Script.received ScriptedTurn.reply s.turns 0, ⟨s.turns.tail, s.requests ++ [r]⟩) := by
  have complete : (a.rehearsing native).model.complete r s = Script.complete r s := by
    cases native <;> rfl
  rw [complete, Script.complete_run]
  cases s.turns <;> rfl

theorem stream_rehearsing (r : ModelRequest) (s : Script) :
    ((a.rehearsing native).model.stream r s).1.bind ChunkStream.toCompletion =
        Script.received (ScriptedTurn.streamed native) s.turns 0 ∧
      ((a.rehearsing native).model.stream r s).2 = ⟨s.turns.tail, s.requests ++ [r]⟩ := by
  cases native with
  | false =>
    change (Script.model.stream r s).1.bind _ = _ ∧ (Script.model.stream r s).2 = _
    rw [Script.stream_run, Script.complete_run]
    cases s.turns with
    | nil => exact ⟨rfl, rfl⟩
    | cons t rest => cases t <;> exact ⟨rfl, rfl⟩
  | true =>
    change (Script.stream r s).1.bind _ = _ ∧ (Script.stream r s).2 = _
    rw [Script.stream, Work.bind_run, Script.next]
    cases s.turns with
    | nil => exact ⟨rfl, rfl⟩
    | cons t rest => cases t <;> exact ⟨rfl, rfl⟩

theorem runTurns_talk (o : RunOptions) (n : Nat) (history : List ModelMessage) (r : AgentResponse)
    (w : ChatWorld Script) :
    let out := (a.rehearsing native).runTurns o n history r w
    let talk := a.talk n (Script.received ScriptedTurn.reply w.service.turns) history
    out.1.map (fun _ => ()) = talk.result ∧
      out.2.service.requests = w.service.requests ++ talk.asked.map (a.request o) ∧
      out.2.executed = w.executed ++ talk.executed := by
  -- on the turns left: each takes the first answer off the script
  induction n generalizing history r w with
  | zero => exact ⟨rfl, (List.append_nil _).symm, (List.append_nil _).symm⟩
  | succ n ih =>
    have answer := a.complete_rehearsing native (a.request o history) w.service
    have turn : ((a.rehearsing native).model.complete ((a.rehearsing native).request o history)
        w.service) = _ := answer
    cases first : Script.received ScriptedTurn.reply w.service.turns 0 with
    | error e =>
      rw [first] at turn
      dsimp only
      rw [(a.rehearsing native).runTurns_error (congrArg Prod.fst turn), talk_error first, turn]
      exact ⟨rfl, rfl, (List.append_nil _).symm⟩
    | ok c =>
      rw [first] at turn
      dsimp only
      rw [(a.rehearsing native).runTurns_ok (congrArg Prod.fst turn), turn]
      dsimp only
      cases last : c.calls.isEmpty with
      | true =>
        rw [if_pos rfl, talk_last first last]
        exact ⟨rfl, rfl, (List.append_nil _).symm⟩
      | false =>
        rw [if_neg (by decide), talk_next first last, Script.received_tail]
        obtain ⟨result, requests, executed⟩ := ih (history ++ c.toMessage :: a.resultsOf c.calls)
          (r.addCompletion c) (afterCalls
            (served w ⟨w.service.turns.tail, w.service.requests ++ [a.request o history]⟩) c.calls)
        refine ⟨result, requests.trans ?_, executed.trans ?_⟩
        · simp [afterCalls, served]
        · simp [afterCalls, served]

theorem streamTurns_talk (o : RunOptions) (n : Nat) (history : List ModelMessage)
    (w : ChatWorld Script) :
    let out := (a.rehearsing native).streamTurns o n history w
    let talk := a.talk n (Script.received (ScriptedTurn.streamed native) w.service.turns) history
    out.result = talk.result ∧
      out.world.service.requests = w.service.requests ++ talk.asked.map (a.request o) ∧
      out.world.executed = w.executed ++ talk.executed := by
  induction n generalizing history w with
  | zero => exact ⟨rfl, (List.append_nil _).symm, (List.append_nil _).symm⟩
  | succ n ih =>
    obtain ⟨answer, state⟩ := a.stream_rehearsing native (a.request o history) w.service
    have world : ((a.rehearsing native).streamTurn o history w).world =
        served w ⟨w.service.turns.tail, w.service.requests ++ [a.request o history]⟩ :=
      ((a.rehearsing native).streamTurn_world o history w).trans (congrArg (served w) state)
    have result : ((a.rehearsing native).streamTurn o history w).result =
        (Script.received (ScriptedTurn.streamed native) w.service.turns 0).mapError .remote := by
      rw [← answer]
      cases streamed : ((a.rehearsing native).model.stream (a.request o history) w.service).1 with
      | error e => exact (a.rehearsing native).streamTurn_error streamed
      | ok s => exact ((a.rehearsing native).streamTurn_ok streamed).2
    cases first : Script.received (ScriptedTurn.streamed native) w.service.turns 0 with
    | error e =>
      rw [first] at result
      obtain ⟨ended, last⟩ := (a.rehearsing native).streamTurns_error (n := n) result
      dsimp only
      rw [talk_error first, ended, last, world]
      exact ⟨rfl, rfl, (List.append_nil _).symm⟩
    | ok c =>
      rw [first] at result
      dsimp only
      cases more : c.calls.isEmpty with
      | true =>
        obtain ⟨-, ended, last⟩ := (a.rehearsing native).streamTurns_last (n := n) result more
        rw [talk_last first more, ended, last, world]
        exact ⟨rfl, rfl, (List.append_nil _).symm⟩
      | false =>
        obtain ⟨-, ended, last⟩ := (a.rehearsing native).streamTurns_next (n := n) result more
        rw [talk_next first more, ended, last, world, Script.received_tail]
        obtain ⟨result, requests, executed⟩ := ih (history ++ c.toMessage :: a.resultsOf c.calls)
          (afterCalls
            (served w ⟨w.service.turns.tail, w.service.requests ++ [a.request o history]⟩) c.calls)
        refine ⟨result, requests.trans ?_, executed.trans ?_⟩
        · simp [afterCalls, served]
        · simp [afterCalls, served]

theorem loops_run (messages : List ChatMessage) (o : RunOptions) (turns : List ScriptedTurn) :
    let out := (a.rehearsing native).run messages o (ChatWorld.start ⟨turns, []⟩)
    a.Loops messages o (Script.received ScriptedTurn.reply turns) out.2.service.requests
      out.2.executed (out.1.map fun _ => ()) := by
  obtain ⟨result, requests, executed⟩ := a.runTurns_talk native o a.maxIterations
    (a.initialHistory messages o) .empty (ChatWorld.start ⟨turns, []⟩)
  exact a.loops_of_talk messages o _ (requests.trans (List.nil_append _))
    (executed.trans (List.nil_append _)) result

theorem loops_runStreaming (messages : List ChatMessage) (o : RunOptions)
    (turns : List ScriptedTurn) :
    let out := (a.rehearsing native).runStreaming messages o (ChatWorld.start ⟨turns, []⟩)
    a.Loops messages o (Script.received (ScriptedTurn.streamed native) turns)
      out.world.service.requests out.world.executed out.result := by
  obtain ⟨result, requests, executed⟩ := a.streamTurns_talk native o a.maxIterations
    (a.initialHistory messages o) (ChatWorld.start ⟨turns, []⟩)
  exact a.loops_of_talk messages o _ (requests.trans (List.nil_append _))
    (executed.trans (List.nil_append _)) result

/-- Both ways to run go through the tool loop. Only the turns received say how a run ends: a call
that cannot be answered becomes an error result, and a turn in pieces fails with its model or for
call arguments that are no JSON. -/
theorem run_and_runStreaming_loop (messages : List ChatMessage) (o : RunOptions)
    (turns : List ScriptedTurn) :
    let waited := (a.rehearsing native).run messages o (ChatWorld.start ⟨turns, []⟩)
    let streamed := (a.rehearsing native).runStreaming messages o (ChatWorld.start ⟨turns, []⟩)
    a.Loops messages o (Script.received ScriptedTurn.reply turns) waited.2.service.requests
        waited.2.executed (waited.1.map fun _ => ()) ∧
      a.Loops messages o (Script.received (ScriptedTurn.streamed native) turns)
        streamed.world.service.requests streamed.world.executed streamed.result ∧
      (∀ (t : ScriptedTurn) (e : RemoteError), t.streamed native = .error e →
        t.Fails native e ∨ t.Garbled native e) ∧
      ∀ (call : ToolCall) (e : ToolError), a.registry.Refuses call e →
        a.registry.execute call = ⟨e.message, true⟩ :=
  ⟨a.loops_run native messages o turns, a.loops_runStreaming native messages o turns,
    fun _ _ => ScriptedTurn.streamed_error, fun _ _ => Registry.execute_of_refuses⟩

/-- In the rehearsal an unknown tool is called, and the answer comes with the second request. Pieces of
a call that are no JSON would have failed. -/
theorem rehearsal_loops :
    let a : ChatAgent Script := ⟨Script.model, "agent", none, .empty, 3⟩
    let out := (a.rehearsing true).run [] .default (ChatWorld.start ⟨Script.rehearsal, []⟩)
    let unknown : ToolCall := ⟨"c1", "lookup", .obj [("q", .int 1)]⟩
    let broken : ScriptedTurn := .pieces ⟨[.call 0 (some "c2") (some "lookup") "?"], none⟩
    let e : RemoteError := .response
      ("tool call arguments for 'lookup' are not valid JSON: " ++ malformedJson)
    a.Loops [] .default (Script.received ScriptedTurn.reply Script.rehearsal)
        out.2.service.requests out.2.executed (out.1.map fun _ => ()) ∧
      out.2.service.requests.length = 2 ∧ out.2.executed = [unknown] ∧
      (a.registry.Refuses unknown (.notFound "lookup") ∧
        a.registry.execute unknown = ⟨ToolError.message (.notFound "lookup"), true⟩) ∧
      broken.streamed true = .error e ∧ (broken.Fails true e ∨ broken.Garbled true e) := by
  intro a out unknown broken e
  obtain ⟨loops, -, failures, answers⟩ := a.run_and_runStreaming_loop true [] .default Script.rehearsal
  have refused : a.registry.Refuses unknown (.notFound "lookup") := .inl ⟨rfl, rfl⟩
  have failed : broken.streamed true = .error e := rfl
  exact ⟨loops, rfl, rfl, ⟨refused, answers _ _ refused⟩, failed, failures _ _ failed⟩

end ChatAgent
end ChatAgents
