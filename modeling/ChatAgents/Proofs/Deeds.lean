import ChatAgents.Proofs.ScopedRuns
set_option autoImplicit false

/-!
# What calls consist of

Whatever is asked of an agent is done in single deeds, between which others may come in. Most deeds
leave the id of the agent alone. Those that do not, its creation and its deletion, keep the lock of
the id until they are over, so nobody comes between what they send and what they make of the answer.
-/

namespace ChatAgents

open Hosting (Operation)

theorem Http.remaining_exchange_le (n : Network) (r : Http.Request) :
    (n.exchange r).2.remaining ≤ n.remaining := by
  rcases n with ⟨_ | _ | ⟨reply, rest⟩, log, clock⟩
  · exact Nat.le_refl _
  · exact Nat.le_refl _
  · exact Nat.le_succ rest.length

theorem Http.remaining_send_le (d : Http.Draft) (n : Network) :
    (send d n).2.remaining ≤ n.remaining := by
  cases built : d.build with
  | error fault =>
    exact Nat.le_of_eq (by rw [send_unbuilt built])
  | ok q =>
    rw [send_built built]
    exact remaining_exchange_le n q

theorem remaining_call_ask_le {γ : Type} (o : Operation) (reading : Hosting.Reading γ)
    (c : Hosting.Config) (w : HostState) :
    (HostState.call (o.ask reading c) w).2.remaining ≤ w.remaining := by
  rw [HostState.world_call_ask]
  exact Http.remaining_send_le _ w.network

def Hosting.Operation.changesAgent : Operation → Bool
  | .createAgent _ | .deleteAgent _ => true
  | _ => false

section Deeds

variable (a : PersistentAgent) (fine : String → Prop)

/-- One deed of a call. The ids in it are fine. -/
inductive Deed : {β : Type} → (HostState → β × HostState) → Prop
  | clock : Deed fun w => (w.network.clock, w)
  | held : Deed fun w => (w.thread, w)
  | hold {thread : Option String} (named : ∀ id, thread = some id → fine id) :
    Deed fun w => ((), { w with thread })
  | wait (milliseconds : Nat) :
    Deed fun w => ((), { w with network := w.network.wait milliseconds })
  | ask {γ : Type} {o : Operation} (reading : Hosting.Reading γ) (other : o.changesAgent = false)
      (named : ∀ id ∈ o.ids, fine id) : Deed (HostState.call (o.ask reading a.config))
  | create : Deed a.create
  | delete : Deed fun w => ((), a.delete w)

/-- In a world with at most `n` replies left, this is done in deeds one after the other. After each
of them it goes on in whatever world it finds then, in which no more replies are left than before. -/
inductive Unfolds {β : Type} : Nat → (HostState → β × HostState) → Prop
  | done {n : Nat} (v : β) : Unfolds n fun w => (v, w)
  | deed {n : Nat} {γ : Type} {d : HostState → γ × HostState} (k : γ → HostState → β × HostState)
      (first : Deed a fine d)
      (next : ∀ w : HostState, w.remaining ≤ n → w.Names fine →
        Unfolds (d w).2.remaining (k (d w).1)) :
      Unfolds n fun w => k (d w).1 (d w).2

end Deeds

variable {a : PersistentAgent} {fine : String → Prop} {β γ : Type} {n : Nat}

theorem PersistentAgent.delete_unknown {w : HostState} (h : w.agentId = none) : a.delete w = w := by
  rw [delete, h]

theorem PersistentAgent.delete_known {w : HostState} {id : String} (h : w.agentId = some id) :
    a.delete w =
      match HostState.call ((Operation.deleteAgent id).ask .nothing a.config) w with
      | (.error _, u) => u
      | (.ok _, u) => { u with agentId := none } := by
  rw [delete, h, HostState.call_run]
  dsimp only
  rw [Operation.perform_eq_ask]
  rcases (Operation.deleteAgent id).ask .nothing a.config w.network with ⟨_ | _, network⟩
  · rw [← h]
    rfl
  · rfl

theorem Deed.remaining_le {d : HostState → β × HostState} (h : Deed a fine d) (w : HostState) :
    (d w).2.remaining ≤ w.remaining := by
  cases h with
  | clock | held | hold | wait => exact Nat.le_refl _
  | ask reading => exact remaining_call_ask_le _ reading _ w
  | create =>
    cases known : w.agentId with
    | some id => exact Nat.le_of_eq (by rw [PersistentAgent.create_known known])
    | none =>
      have sent := remaining_call_ask_le (.createAgent a.definition) (.record Hosting.readId?) a.config w
      rw [PersistentAgent.create_unknown known, Operation.performFor_eq_ask]
      generalize HostState.call _ w = out at sent
      rcases out with ⟨_ | _, _⟩ <;> exact sent
  | delete =>
    change (a.delete w).remaining ≤ w.remaining
    cases known : w.agentId with
    | none => exact Nat.le_of_eq (by rw [PersistentAgent.delete_unknown known])
    | some id =>
      have sent := remaining_call_ask_le (.deleteAgent id) .nothing a.config w
      rw [PersistentAgent.delete_known known]
      generalize HostState.call _ w = out at sent
      rcases out with ⟨_ | _, _⟩ <;> exact sent

theorem Deed.names {d : HostState → β × HostState} (h : Deed a fine d) {w : HostState}
    (names : w.Names fine) : (d w).2.Names fine := by
  cases h with
  | clock | held => exact names
  | hold named => exact ⟨names.network, names.agentId, named⟩
  | wait => exact ⟨names.network, names.agentId, names.thread⟩
  | ask => exact names.ask
  | create => exact names.create
  | delete =>
    change (a.delete w).Names fine
    cases known : w.agentId with
    | none => rwa [PersistentAgent.delete_unknown known]
    | some id =>
      have after : (HostState.call ((Operation.deleteAgent id).ask .nothing a.config) w).2.Names fine :=
        names.ask
      rw [PersistentAgent.delete_known known]
      generalize HostState.call _ w = out at after
      rcases out with ⟨_ | _, _⟩
      · exact after
      · exact ⟨after.network, nofun, after.thread⟩

def goOn {ε : Type} (fail : ε → β) (f : γ → HostState → β × HostState) :
    Except ε γ → HostState → β × HostState
  | .error e => fun w => (fail e, w)
  | .ok v => f v

theorem Work.andThen_eq_goOn (x : Work HostState AgentError γ) (fail : AgentError → β)
    (f : γ → HostState → β × HostState) :
    x.andThen fail f = fun w => goOn fail f (x w).1 (x w).2 := by
  funext w
  unfold Work.andThen
  rcases x w with ⟨_ | _, _⟩ <;> rfl

namespace Unfolds

theorem mono {m : Nat} {x : HostState → β × HostState} (h : Unfolds a fine n x) (le : m ≤ n) :
    Unfolds a fine m x := by
  cases h with
  | done v => exact .done v
  | deed k first next =>
    exact .deed k first fun w few names => next w (Nat.le_trans few le) names

theorem single {d : HostState → β × HostState} (h : Deed a fine d) : Unfolds a fine n d :=
  .deed (fun v w => (v, w)) h fun _ _ _ => .done _

theorem after_held {k : Option String → HostState → β × HostState}
    (next : ∀ thread, (∀ id, thread = some id → fine id) → Unfolds a fine n (k thread)) :
    Unfolds a fine n fun w => k w.thread w :=
  .deed k .held fun w few names => (next w.thread names.thread).mono few

theorem after_hold {thread : Option String} {x : HostState → β × HostState}
    (named : ∀ id, thread = some id → fine id) (next : Unfolds a fine n x) :
    Unfolds a fine n fun w => x { w with thread } :=
  .deed (fun _ => x) (.hold named) fun _ few _ => next.mono few

theorem after_delete {x : HostState → β × HostState} (next : Unfolds a fine n x) :
    Unfolds a fine n fun w => x (a.delete w) :=
  have deletes : Deed a fine fun w => ((), a.delete w) := .delete
  .deed (fun _ => x) deletes fun w few _ => next.mono (Nat.le_trans (deletes.remaining_le w) few)

theorem bind {x : HostState → γ × HostState} {f : γ → HostState → β × HostState}
    (hx : Unfolds a fine n x) (hf : ∀ v m, m ≤ n → Unfolds a fine m (f v)) :
    Unfolds a fine n fun w => f (x w).1 (x w).2 := by
  -- deeds behind each other leave fewer and fewer replies, so the bound for what follows holds
  induction hx with
  | done v => exact hf v _ (Nat.le_refl _)
  | @deed n _ d k first _ ih =>
    refine .deed (fun v u => f (k v u).1 (k v u).2) first fun w few names => ?_
    exact ih w few names fun v m le =>
      hf v m (Nat.le_trans le (Nat.le_trans (first.remaining_le w) few))

theorem map {x : HostState → γ × HostState} (hx : Unfolds a fine n x) (f : γ → β) :
    Unfolds a fine n fun w => (f (x w).1, (x w).2) :=
  hx.bind fun v _ _ => .done (f v)

end Unfolds

theorem Steps.unfolds {may : Operation → Prop} {told : β → Option RemoteError}
    {x : HostState → β × HostState} (h : Steps a fine may told n x)
    (other : ∀ o, may o → o.changesAgent = false) (named : ∀ o, may o → ∀ id ∈ o.ids, fine id) :
    Unfolds a fine n x := by
  induction h with
  | @done _ v => exact .done v
  | @look _ k _ ih => exact .deed k .clock fun w few _ => (ih w.network.clock).mono few
  | @wait _ x milliseconds _ ih =>
    exact .deed (fun _ => x) (.wait milliseconds) fun _ few _ => ih.mono few
  | @hold _ x id fine_id _ _ ih =>
    exact .after_hold (fun _ same => Option.some.inj same ▸ fine_id) ih
  | @create _ fail f _ _ ih =>
    rw [Work.andThen_eq_goOn]
    refine .deed (goOn fail f) .create fun w few names => ?_
    rcases created : a.create w with ⟨e | id, u⟩
    · exact .done (fail e)
    · obtain ⟨-, fewer, fine_id⟩ := names.created created
      exact (ih id fine_id).mono (Nat.le_trans fewer few)
  | @ask _ _ o reading fail f allowed _ _ _ ih =>
    rw [Work.andThen_eq_goOn]
    refine .deed (goOn fail f) (.ask reading (other o allowed) (named o allowed)) fun w few names => ?_
    rcases came : HostState.call (o.ask reading a.config) w with ⟨e | v, u⟩
    · exact .done (fail e)
    · obtain ⟨-, fewer, r, fine_r, read⟩ := names.asked came
      exact ih r v _ fine_r read (Nat.lt_of_lt_of_le fewer few)

namespace PersistentAgent

open Unfolds

theorem release_eq (w : HostState) :
    a.release w = w.thread.elim w fun id =>
      { (HostState.call ((Operation.deleteThread id).ask .nothing a.config) w).2 with
        thread := none } := by
  rw [release]
  cases w.thread <;> rfl

theorem unfolds_release (v : β) : Unfolds a fine n fun w => (v, a.release w) := by
  simp only [release_eq]
  refine after_held (k := fun thread w => (v, thread.elim w fun id =>
    { (HostState.call ((Operation.deleteThread id).ask .nothing a.config) w).2 with
      thread := none })) fun thread named => ?_
  cases thread with
  | none => exact .done v
  | some id =>
    have deleted : Unfolds a fine n
        (HostState.call ((Operation.deleteThread id).ask .nothing a.config)) := by
      refine single (.ask .nothing rfl fun id' member => ?_)
      obtain rfl := List.mem_singleton.1 member
      exact named _ rfl
    exact deleted.bind (f := fun _ w => (v, { w with thread := none })) fun _ _ _ =>
      after_hold nofun (.done v)

theorem unfolds_afterStream (letGo detached : Bool) (v : β) :
    Unfolds a fine n fun w => (v, a.afterStream letGo detached w) := by
  cases left : detached && !letGo with
  | false =>
    simp only [afterStream, left, Bool.false_eq_true, if_false]
    exact unfolds_release v
  | true =>
    simp only [afterStream, left, if_true]
    refine after_hold (fun _ named => ?_) (.done v)
    cases named

def SentInThread (fine : String → Prop) (o : Operation) : Prop := o.Fills fine ∨ o.Runs fine

theorem SentInThread.other {o : Operation} (h : SentInThread fine o) : o.changesAgent = false := by
  cases o with
  | createAgent | deleteAgent => exact h.elim False.elim False.elim
  | _ => rfl

theorem SentInThread.named {o : Operation} (h : SentInThread fine o) : ∀ id ∈ o.ids, fine id := by
  cases o <;> simp_all [SentInThread, Operation.Fills, Operation.Runs, Operation.ids]

theorem unfolds_runInThread (messages : List ChatMessage) (o : RunOptions) :
    Unfolds a fine n (a.runInThread messages o) := by
  have steps : Steps a fine (SentInThread fine) _ n (a.runInThread messages o) :=
    steps_runInThread messages o (fun _ => .inl) fun _ => .inr
  exact steps.unfolds (fun _ => SentInThread.other) fun _ => SentInThread.named

theorem unfolds_streamInThread (messages : List ChatMessage) (o : RunOptions) (last : Option Nat) :
    Unfolds a fine n (a.streamInThread messages o last) := by
  have steps : Steps a fine (SentInThread fine) _ n (a.streamInThread messages o last) :=
    steps_streamInThread messages o last (fun _ => .inl) fun _ => .inr
  exact steps.unfolds (fun _ => SentInThread.other) fun _ => SentInThread.named

theorem unfolds_operate (use : Use) (messages : List ChatMessage) (o : RunOptions) :
    Unfolds a fine n (a.operate use messages o) := by
  have inThread : Unfolds a fine n (a.operateInThread use messages o) := by
    match use with
    | .run => exact (unfolds_runInThread messages o).map fun v => (Outcome.response v.1, v.2)
    | .stream none _ =>
      exact (unfolds_streamInThread messages o none).map fun v => (Outcome.ofSeen v.1, v.2)
    | .stream (some 0) _ => exact .done (Outcome.updates [] none, false)
    | .stream (some (k + 1)) _ =>
      exact (unfolds_streamInThread messages o (some k)).map fun v => (Outcome.ofSeen v.1, v.2)
  rw [show a.operate use messages o = _ from funext (a.operate_eq use messages o)]
  exact inThread.bind (f := fun v w =>
    (v.1, a.afterStream (!use.keepsThread v.2 v.1) use.detached w)) fun v _ _ =>
      unfolds_afterStream _ use.detached v.1

/-- The agent is deleted behind the thread, unless some message did not get into that. -/
theorem runAndDelete_eq (messages : List ChatMessage) (o : RunOptions) (w : HostState) :
    a.runAndDelete messages o w =
      let x := a.runInThread messages o w
      (x.1.1, a.release (a.delete (if x.1.2 then a.release x.2 else x.2))) := by
  have opened := a.create_startThread messages fun agentId threadId =>
    (a.answer agentId threadId o).closing a.release
  rw [runAndDelete, runHolding, opened, Work.closing, Work.closing, Work.bind_run, runInThread,
    a.inThread_run messages .error fun ids => a.answer ids.1 ids.2 o]
  rcases a.prepare messages w with ⟨e | ids, u⟩
  · dsimp only
    rw [if_neg Bool.false_ne_true]
  · dsimp only [Work.closing]
    rw [if_pos rfl]

theorem unfolds_runAndDelete (messages : List ChatMessage) (o : RunOptions) :
    Unfolds a fine n (a.runAndDelete messages o) := by
  have delete_then (m : Nat) (v : Except AgentError AgentResponse) :
      Unfolds a fine m fun w => (v, a.release (a.delete w)) :=
    after_delete (x := fun w => (v, a.release w)) (unfolds_release v)
  rw [show a.runAndDelete messages o = _ from funext (a.runAndDelete_eq messages o)]
  refine (unfolds_runInThread messages o).bind (f := fun v w =>
    (v.1, a.release (a.delete (if v.2 then a.release w else w)))) fun v m _ => ?_
  cases v.2 with
  | false => exact delete_then m v.1
  | true =>
    exact (unfolds_release v.1).bind (f := fun v w => (v, a.release (a.delete w))) fun v m _ =>
      delete_then m v

end PersistentAgent

inductive AgentCall where
  | create
  | use (use : Use) (messages : List ChatMessage) (o : RunOptions)
  | delete
  | runAndDelete (messages : List ChatMessage) (o : RunOptions)

inductive CallResult where
  | id (r : Except AgentError String)
  | outcome (r : Outcome)
  | deleted

namespace PersistentAgent

def perform (a : PersistentAgent) (call : AgentCall) (w : HostState) : CallResult × HostState :=
  match call with
  | .create => (.id (a.create w).1, (a.create w).2)
  | .use use messages o => (.outcome (a.operate use messages o w).1, (a.operate use messages o w).2)
  | .delete => (.deleted, a.delete w)
  | .runAndDelete messages o =>
    (.outcome (.response (a.runAndDelete messages o w).1), (a.runAndDelete messages o w).2)

theorem unfolds_perform (call : AgentCall) : Unfolds a fine n (a.perform call) := by
  cases call with
  | create => exact (Unfolds.single .create).map CallResult.id
  | use use messages o => exact (unfolds_operate use messages o).map CallResult.outcome
  | delete => exact (Unfolds.single .delete).map fun _ => CallResult.deleted
  | runAndDelete messages o =>
    exact (unfolds_runAndDelete messages o).map fun r => CallResult.outcome (.response r)

end PersistentAgent
end ChatAgents
