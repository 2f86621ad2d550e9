import ChatAgents.Model.ChatCompletions
import ChatAgents.Proofs.HostedRuns
import ChatAgents.Proofs.ToolLoop
set_option autoImplicit false

namespace ChatAgents

open Http (Draft Exchange Feed Network Request Response)

/-- What an exchange without success is to whoever asked. -/
inductive Http.Exchange.Fails : Exchange → RemoteError → Prop
  | closed (q : Request) :
    Fails ⟨q, .closed⟩ (.transport (CallFault.unanswered q.url.text).message)
  | status (q : Request) {r : Response} (outside : r.status < 200 ∨ 299 < r.status) :
    Fails ⟨q, .response r⟩ (.status r.status (failureText r))

def Http.Exchange.Succeeds (e : Exchange) : Prop :=
  ∃ r, e.answer = .response r ∧ isSuccess r.status = true

/-- Each exchange succeeds and no status is reported, or only the last fails, and that is reported. -/
inductive Heeds : List Exchange → Option RemoteError → Prop
  | through {l : List Exchange} {failure : Option RemoteError} (served : ∀ e ∈ l, e.Succeeds)
      (other : failure.bind RemoteError.statusCode? = none) : Heeds l failure
  | stopped {before : List Exchange} {last : Exchange} {err : RemoteError}
      (served : ∀ e ∈ before, e.Succeeds) (fails : last.Fails err) :
      Heeds (before ++ [last]) (some err)

theorem Http.Exchange.Fails.not_succeeds {e : Exchange} {err : RemoteError} (h : e.Fails err) :
    ¬ e.Succeeds := by
  rintro ⟨r, answer, success⟩
  cases h with
  | closed => cases answer
  | status q outside =>
    obtain rfl := Http.Answer.response.inj answer
    rw [Http.isSuccess, Bool.and_eq_true, decide_eq_true_eq, decide_eq_true_eq] at success
    omega

theorem Http.Exchange.Fails.unique {e : Exchange} {err err' : RemoteError} (h : e.Fails err)
    (h' : e.Fails err') : err' = err := by
  cases h <;> cases h' <;> rfl

theorem Http.Exchange.fails_response (q : Request) {r : Response} (h : isSuccess r.status = false) :
    Fails ⟨q, .response r⟩ (.status r.status (failureText r)) := by
  refine .status q ?_
  rw [isSuccess, Bool.and_eq_false_iff, decide_eq_false_iff_not, decide_eq_false_iff_not] at h
  omega

theorem cases_of_last {α : Type} {l before after : List α} {x y : α}
    (h : l ++ [x] = before ++ y :: after) :
    (before = l ∧ y = x ∧ after = []) ∨
      ∃ after', after = after' ++ [x] ∧ l = before ++ y :: after' := by
  rcases List.eq_nil_or_concat after with rfl | ⟨after', z, rfl⟩
  · obtain ⟨front, last⟩ := List.append_inj' h rfl
    exact .inl ⟨front.symm, (List.singleton_inj.1 last).symm, rfl⟩
  · rw [List.concat_eq_append, ← List.cons_append, ← List.append_assoc] at h
    obtain ⟨front, last⟩ := List.append_inj' h rfl
    obtain rfl := List.singleton_inj.1 last
    exact .inr ⟨after', List.concat_eq_append, front⟩

namespace Heeds

variable {l l' : List Exchange} {failure : Option RemoteError}

theorem nothing (other : failure.bind RemoteError.statusCode? = none) : Heeds [] failure :=
  .through nofun other

theorem single {e : Exchange} {err : RemoteError} (fails : e.Fails err) : Heeds [e] (some err) :=
  List.nil_append [e] ▸ .stopped nofun fails

theorem served (h : Heeds l none) : ∀ e ∈ l, e.Succeeds := by
  cases h with
  | through served => exact served

theorem append (h : Heeds l none) (h' : Heeds l' failure) : Heeds (l ++ l') failure := by
  cases h' with
  | through served other => exact .through (List.forall_mem_append.2 ⟨h.served, served⟩) other
  | stopped served fails =>
    rw [← List.append_assoc]
    exact .stopped (List.forall_mem_append.2 ⟨h.served, served⟩) fails

theorem reported {failure' : Option RemoteError} (h : Heeds l failure) (same : failure' = failure) :
    Heeds l failure' := same ▸ h

theorem of_split (h : Heeds l failure) {before after : List Exchange} {e : Exchange}
    {err : RemoteError} (split : l = before ++ e :: after) (fails : e.Fails err) :
    after = [] ∧ failure = some err := by
  cases h with
  | through served =>
    have inside : e ∈ l := split ▸ List.mem_append_right before List.mem_cons_self
    exact absurd (served e inside) fails.not_succeeds
  | @stopped front last err' served fails' =>
    rcases cases_of_last split with ⟨rfl, rfl, rfl⟩ | ⟨after', rfl, same⟩
    · exact ⟨rfl, congrArg some (fails.unique fails')⟩
    · have inside : e ∈ front := same ▸ List.mem_append_right before List.mem_cons_self
      exact absurd (served e inside) fails.not_succeeds

theorem of_status (h : Heeds l failure) {code : Nat} {text : String}
    (reported : failure = some (.status code text)) :
    ∃ before last, l = before ++ [last] ∧ last.Fails (.status code text) := by
  cases h with
  | through _ other =>
    rw [reported] at other
    cases other
  | @stopped before last err _ fails =>
    obtain rfl := Option.some.inj reported
    exact ⟨before, last, rfl, fails⟩

end Heeds

def failure? {ε α : Type} (told : ε → Option RemoteError) : Except ε α → Option RemoteError
  | .error e => told e
  | .ok _ => none

def AgentError.remote? : AgentError → Option RemoteError
  | .remote e => some e
  | _ => none

/-- From a world on, a computation goes no further than its first failing exchange, and reports it. -/
def Stops {σ β : Type} (log : σ → List Exchange) (told : β → Option RemoteError)
    (x : σ → β × σ) (w : σ) : Prop :=
  ∃ l, log (x w).2 = log w ++ l ∧ Heeds l (told (x w).1)

namespace Stops

variable {σ ε α β γ : Type} {log : σ → List Exchange} {told : ε → Option RemoteError}
  {report : β → Option RemoteError} {w : σ}

theorem still {x : σ → β × σ} {v : β} {u : σ} (h : x w = (v, u)) (same : log u = log w)
    (other : (report v).bind RemoteError.statusCode? = none) : Stops log report x w := by
  refine ⟨[], ?_, ?_⟩
  · rw [h, same, List.append_nil]
  · rw [h]
    exact .nothing other

theorem andThen {x : Work σ ε α} {fail : ε → β} {f : α → σ → β × σ}
    (first : Stops log (failure? told) x w) (same : ∀ e, report (fail e) = told e)
    (next : ∀ v u, x w = (.ok v, u) → Stops log report (f v) u) :
    Stops log report (x.andThen fail f) w := by
  obtain ⟨l, added, heeds⟩ := first
  unfold Stops Work.andThen
  rcases run : x w with ⟨e | v, u⟩
  · rw [run] at added heeds
    exact ⟨l, added, heeds.reported (same e)⟩
  · rw [run] at added heeds
    obtain ⟨l', added', heeds'⟩ := next v u run
    refine ⟨l ++ l', ?_, heeds.append heeds'⟩
    rw [added', added, List.append_assoc]

theorem bind {x : Work σ ε α} {f : α → Work σ ε γ} (first : Stops log (failure? told) x w)
    (next : ∀ v u, x w = (.ok v, u) → Stops log (failure? told) (f v) u) :
    Stops log (failure? told) (x >>= f) w := by
  rw [Work.bind_eq_andThen]
  exact first.andThen (fun _ => rfl) next

theorem within {τ δ : Type} {log' : τ → List Exchange} {told' : δ → Option RemoteError}
    {get : τ → σ} {set : τ → σ → τ} {wrap : ε → δ} {x : Work σ ε α} {w : τ}
    (h : Stops log (failure? told) x (get w)) (reads : log' w = log (get w))
    (writes : ∀ part, log' (set w part) = log part) (same : ∀ e, told' (wrap e) = told e) :
    Stops log' (failure? told') (x.within get set wrap) w := by
  obtain ⟨l, added, heeds⟩ := h
  refine ⟨l, ?_, heeds.reported ?_⟩
  · exact (writes _).trans (reads ▸ added)
  · change failure? told' ((x (get w)).1.mapError wrap) = failure? told (x (get w)).1
    cases (x (get w)).1 with
    | error e => exact same e
    | ok v => rfl

theorem returns (v : α) : Stops log (failure? told) (pure v : Work σ ε α) w :=
  .still rfl rfl rfl

theorem fails {e : ε} (other : (told e).bind RemoteError.statusCode? = none) :
    Stops log (failure? told) (Work.fail e : Work σ ε α) w :=
  .still rfl rfl other

theorem ofExcept {x : Except ε α} (other : ((failure? told) x).bind RemoteError.statusCode? = none) :
    Stops log (failure? told) (Work.ofExcept x) w :=
  .still rfl rfl other

theorem modify {f : σ → σ} (same : log (f w) = log w) :
    Stops log (failure? told) (Work.modify f : Work σ ε Unit) w :=
  .still rfl same rfl

end Stops

theorem Http.stops_send (d : Draft) (n : Network) :
    Stops Network.log (failure? some) (Http.send d) n := by
  cases built : d.build with
  | error fault => exact .still (Http.send_unbuilt built n) rfl rfl
  | ok q =>
    unfold Stops
    rw [Http.send_built built]
    rcases Http.exchange_cases n q with ⟨answer, given, log⟩ | ⟨-, unreached⟩
    · refine ⟨[⟨q, answer⟩], log, ?_⟩
      dsimp only
      rw [given]
      cases answer with
      | closed => exact .single (.closed q)
      | response r =>
        rw [Http.Answer.response?, Http.outcome]
        cases success : Http.isSuccess r.status with
        | true => exact .through (List.forall_mem_singleton.2 ⟨r, rfl, success⟩) rfl
        | false => exact .single (Http.Exchange.fails_response q success)
    · rw [unreached]
      exact ⟨[], (List.append_nil _).symm, .nothing rfl⟩

theorem Http.stops_sendFor {α : Type} (read : Json → Option α) (d : Draft) (n : Network) :
    Stops Network.log (failure? some) (Http.sendFor read d) n := by
  refine (stops_send d n).bind fun r _ _ => .ofExcept ?_
  rw [Response.decode]
  cases r.read? read <;> rfl

theorem Http.stops_sendForEvents (d : Draft) (n : Network) :
    Stops Network.log (failure? some) (Http.sendForEvents d) n :=
  (stops_send d n).bind fun r _ _ => .returns r.feed

theorem Http.fault_of_sendForEvents {d : Draft} {n n' : Network} {feed : Feed}
    (h : Http.sendForEvents d n = (.ok feed, n')) :
    feed.fault.bind RemoteError.statusCode? = none := by
  obtain ⟨r, _, -, read⟩ := Work.ok_of_bind h
  obtain rfl := Except.ok.inj (Prod.mk.inj read).1
  rw [Response.feed]
  split <;> rfl

theorem parseArguments_error {tool raw : String} {e : RemoteError}
    (h : parseArguments tool raw = .error e) : e.statusCode? = none := by
  rw [parseArguments] at h
  split at h
  · cases h
  · split at h
    · cases h
    · obtain rfl := Except.error.inj h
      rfl

theorem map_eq_error {α β : Type} {x : Except RemoteError α} {f : α → β} {e : RemoteError}
    (h : x.map f = .error e) : x = .error e := by
  cases x with
  | error e' => exact congrArg Except.error (Except.error.inj h)
  | ok v => cases h

theorem Completion.ofChunks_error {chunks : List Chunk} {e : RemoteError}
    (h : Completion.ofChunks chunks = .error e) : e.statusCode? = none := by
  obtain ⟨call, -, unfinished⟩ := mapM_eq_error (map_eq_error h)
  exact parseArguments_error (map_eq_error unfinished)

theorem ChunkStream.toCompletion_error {s : ChunkStream}
    (other : s.fault.bind RemoteError.statusCode? = none) {e : RemoteError}
    (h : s.toCompletion = .error e) : e.statusCode? = none := by
  rw [toCompletion] at h
  cases fault : s.fault with
  | none =>
    rw [fault] at h
    exact Completion.ofChunks_error h
  | some e' =>
    rw [fault] at h other
    obtain rfl := Except.error.inj h
    exact other

namespace ChatCompletions

theorem CompletionBody.toCompletion_error {b : CompletionBody} {e : RemoteError}
    (h : b.toCompletion = .error e) : e.statusCode? = none := by
  rw [toCompletion] at h
  split at h
  · obtain rfl := Except.error.inj h
    rfl
  · obtain rfl := Except.error.inj h
    rfl
  · obtain ⟨call, -, unread⟩ := mapM_eq_error (map_eq_error h)
    exact parseArguments_error (map_eq_error unread)

theorem fault_chunkStream {fault : Option RemoteError}
    (other : fault.bind RemoteError.statusCode? = none) (finished : Bool)
    (events : List Http.Event) :
    (chunkStream fault finished events).fault.bind RemoteError.statusCode? = none := by
  induction events generalizing finished with
  | nil =>
    cases fault with
    | none => cases finished <;> rfl
    | some e => exact other
  | cons event rest ih =>
    rw [chunkStream]
    split
    · rfl
    · split
      · rfl
      · exact ih _

end ChatCompletions

namespace Hosting

inductive Effect.Possible : Effect → Prop
  | nothing : Possible .nothing
  | message (texts : List CitedText) : Possible (.message (texts.flatMap CitedText.updates))
  | completed (usage : Option Usage) : Possible (.completed (usageUpdates usage))
  | action (run : Run) : Possible (.action run)
  | done : Possible .done
  | fail {e : RemoteError} (other : e.statusCode? = none) : Possible (.fail e)

theorem Effect.possible_ofData {α : Type} (e : Http.Event) (read : Json → Option α)
    {use : α → Effect} (h : ∀ v, (use v).Possible) : (Effect.ofData e read use).Possible := by
  rw [ofData, readData]
  cases Json.readText? read e.data.toList with
  | none => exact .fail rfl
  | some v => exact h v

theorem Effect.possible_ofEvent (e : Http.Event) : (Effect.ofEvent e).Possible := by
  unfold Effect.ofEvent
  cases EventKind.ofName e.name with
  | messageCompleted => exact .message []
  | messageDelta => exact possible_ofData e _ .message
  | actionRequired => exact possible_ofData e _ .action
  | runCompleted => exact possible_ofData e _ fun run => .completed run.usage
  | runFailed => exact possible_ofData e _ fun _ => .fail rfl
  | error => exact possible_ofData e _ fun _ => .fail rfl
  | other =>
    dsimp only
    split
    · exact .done
    · exact .nothing

theorem Round.ending_ofEvents {fault : Option RemoteError}
    (other : fault.bind RemoteError.statusCode? = none) {completed : Bool}
    {events : List Http.Event} {e : RemoteError}
    (h : (ofEvents fault completed events).ending = .failed e) : e.statusCode? = none := by
  induction events generalizing completed with
  | nil =>
    cases fault with
    | none =>
      cases completed with
      | true => cases h
      | false =>
        obtain rfl := RoundEnd.failed.inj h
        rfl
    | some e' =>
      obtain rfl := RoundEnd.failed.inj h
      exact other
  | cons event rest ih =>
    have possible := Effect.possible_ofEvent event
    rw [ofEvents] at h
    cases effect : Effect.ofEvent event with
    | nothing | message | completed =>
      rw [effect] at h
      exact ih h
    | action | done =>
      rw [effect] at h
      cases h
    | fail e' =>
      rw [effect] at h possible
      obtain rfl := RoundEnd.failed.inj h
      cases possible with
      | fail unstated => exact unstated

end Hosting

end ChatAgents
