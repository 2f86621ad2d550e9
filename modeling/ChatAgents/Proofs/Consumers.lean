import ChatAgents.Proofs.HostedRuns
set_option autoImplicit false

namespace ChatAgents

open Http (Feed)
open Hosting (Round Run)

/-- What a consumer has seen, and the world then: all, or the items up to number `n` of a run that
hands over so many. -/
def Progress.seen {ι σ ε α : Type} (last : Option Nat) (p : Progress ι σ ε α) :
    (List ι × Option (Except ε α)) × σ :=
  match last with
  | none => ((p.items, some p.result), p.world)
  | some n =>
    match p.delivered[n]? with
    | some x => ((p.items.take (n + 1), none), x.2)
    | none => ((p.items, some p.result), p.world)

theorem Progress.takeFrom_succ {ι σ ε α : Type} (start : σ) (n : Nat) (p : Progress ι σ ε α) :
    p.takeFrom start (n + 1) =
      ((p.seen (some n)).1.1, (p.seen (some n)).1.2, (p.seen (some n)).2) := by
  rw [takeFrom, seen]
  cases p.delivered[n]? <;> rfl

theorem Progress.seen_nil {ι σ ε α : Type} (last : Option Nat) (r : Except ε α) (w : σ) :
    (⟨[], r, w⟩ : Progress ι σ ε α).seen last = (([], some r), w) := by
  cases last <;> rfl

theorem Progress.seen_early {ι σ ε α : Type} {n : Nat} {items : List ι} (h : n < items.length)
    (w : σ) (p : Progress ι σ ε α) :
    (p.prepend (items.map fun i => (i, w))).seen (some n) = ((items.take (n + 1), none), w) := by
  have there : (p.prepend (items.map fun i => (i, w))).delivered[n]? = some (items[n], w) := by
    rw [prepend, List.getElem?_append_left (by rwa [List.length_map])]
    simp [h]
  have enough : n + 1 ≤ ((items.map fun i => (i, w)).map (·.1)).length := by
    rwa [List.length_map, List.length_map]
  rw [seen]
  simp only [there]
  rw [items_prepend, List.take_append_of_le_length enough]
  simp [Function.comp_def]

theorem Progress.seen_late {ι σ ε α : Type} {last : Option Nat} {items : List ι}
    (h : ∀ n, last = some n → items.length ≤ n) (w : σ) (p : Progress ι σ ε α) :
    (p.prepend (items.map fun i => (i, w))).seen last =
      ((items ++ (p.seen (last.map (· - items.length))).1.1,
          (p.seen (last.map (· - items.length))).1.2),
        (p.seen (last.map (· - items.length))).2) := by
  have all : (p.prepend (items.map fun i => (i, w))).items = items ++ p.items := by
    simp [Function.comp_def]
  cases last with
  | none =>
    rw [seen, all]
    rfl
  | some n =>
    obtain ⟨m, rfl⟩ : ∃ m, n = items.length + m := ⟨n - items.length, by
      have := h n rfl
      omega⟩
    have there : (p.prepend (items.map fun i => (i, w))).delivered[items.length + m]? =
        p.delivered[m]? := by
      rw [prepend, List.getElem?_append_right (by simp)]
      simp
    rw [seen, Option.map_some, Nat.add_sub_cancel_left, seen]
    simp only [there]
    cases p.delivered[m]? with
    | none => simp [all]
    | some x =>
      simp only [all, Nat.add_assoc]
      rw [List.take_length_add_append]

namespace PersistentAgent

variable (a : PersistentAgent) {w : HostState}

theorem seen_lift_bind {α β : Type} (x : Work HostState AgentError α)
    (f : α → Producer Update HostState AgentError β) (last : Option Nat) :
    (fun w => ((Producer.lift x >>= f) w).seen last) =
      x.andThen (fun e => ([], some (.error e))) fun v w => (f v w).seen last := by
  funext w
  rw [lift_bind_run, Work.andThen]
  rcases x w with ⟨_ | _, _⟩
  · exact Progress.seen_nil ..
  · rfl

def rounds (threadId : String) (answered : Bool) (feed : Feed) :
    Producer Update HostState AgentError Bool :=
  a.streamRounds threadId answered feed

def afterRound (threadId : String) (answered : Bool) (feed : Feed) :
    Producer Update HostState AgentError Bool :=
  match (Round.ofFeed feed).ending with
  | .finished => Producer.pure (answered || (Round.ofFeed feed).answered)
  | .failed e => Producer.fail (.remote e)
  | .action run => do
    let feed' ← Producer.lift (a.nextRound threadId run)
    a.rounds threadId (answered || (Round.ofFeed feed).answered) feed'

theorem rounds_run (threadId : String) (answered : Bool) (feed : Feed) (w : HostState) :
    a.rounds threadId answered feed w =
      (a.afterRound threadId answered feed w).prepend (a.roundDelivered feed w) := by
  rw [rounds, afterRound]
  cases ending : (Round.ofFeed feed).ending with
  | finished => simp [streamRounds_finished ending, Producer.pure, Progress.prepend]
  | failed e => simp [streamRounds_failed ending, Producer.fail, Progress.prepend]
  | action run =>
    dsimp only
    rw [streamRounds_action ending, lift_bind_run]
    rcases a.nextRound threadId run w with ⟨_ | _, _⟩
    · simp [Progress.prepend]
    · rfl

theorem seen_rounds_early {threadId : String} {answered : Bool} {feed : Feed} {k : Nat}
    (early : k < (a.roundUpdates (Round.ofFeed feed)).length) :
    (fun w => (a.rounds threadId answered feed w).seen (some k)) = fun w =>
      (((a.roundUpdates (Round.ofFeed feed)).take (k + 1), none), w) := by
  funext w
  rw [rounds_run]
  exact Progress.seen_early early w _

theorem seen_rounds_late {threadId : String} {answered : Bool} {feed : Feed} {last : Option Nat}
    (late : ∀ k, last = some k → (a.roundUpdates (Round.ofFeed feed)).length ≤ k) :
    (fun w => (a.rounds threadId answered feed w).seen last) = fun w =>
      let updates := a.roundUpdates (Round.ofFeed feed)
      let later := (a.afterRound threadId answered feed w).seen (last.map (· - updates.length))
      ((updates ++ later.1.1, later.1.2), later.2) := by
  funext w
  rw [rounds_run]
  exact Progress.seen_late late w _

/-- What the rounds of a run are to its consumer. -/
def verdict : Except AgentError Bool → Except AgentError Unit
  | .error e => .error e
  | .ok answered => if answered then .ok () else .error .missingFinalResponse

theorem release_release (w : HostState) :
    a.release (a.release w) = a.release w := by
  rw [release.eq_def a w]
  cases h : w.thread with
  | none => simp [release, h]
  | some id => rfl

theorem afterStream_letGo (detached : Bool) (w : HostState) :
    a.afterStream true detached w = a.release w := by
  rw [afterStream, Bool.not_true, Bool.and_false, if_neg Bool.false_ne_true]

/-- A run whose consumer sees it succeed has released its thread then. -/
theorem seen_conclude (last : Option Nat) (p : Progress Update HostState AgentError Bool)
    {letGo : Bool} (detached : Bool)
    (concluded : ∀ answered, (p.seen last).1.2 = some (.ok answered) → letGo = true) :
    ((a.conclude p).seen last).1 = ((p.seen last).1.1, (p.seen last).1.2.map verdict) ∧
      a.afterStream letGo detached ((a.conclude p).seen last).2 =
        a.afterStream letGo detached (p.seen last).2 := by
  have whole (h : p.seen last = ((p.items, some p.result), p.world)) :
      ((a.conclude p).items, some (a.conclude p).result) = (p.items, some (verdict p.result)) ∧
        a.afterStream letGo detached (a.conclude p).world =
          a.afterStream letGo detached p.world := by
    rw [items_conclude, conclude]
    cases result : p.result with
    | error e => exact ⟨rfl, rfl⟩
    | ok answered =>
      obtain rfl := concluded answered (by rw [h, result])
      rw [afterStream_letGo, afterStream_letGo]
      exact ⟨rfl, a.release_release p.world⟩
  cases last with
  | none => exact whole rfl
  | some n =>
    cases later : p.delivered[n]? with
    | none =>
      have seen : p.seen (some n) = ((p.items, some p.result), p.world) := by
        simp only [Progress.seen, later]
      have same : (a.conclude p).seen (some n) =
          (((a.conclude p).items, some (a.conclude p).result), (a.conclude p).world) := by
        simp only [Progress.seen, delivered_conclude, later]
      rw [same, seen]
      exact whole seen
    | some x =>
      simp [Progress.seen, delivered_conclude, items_conclude, later]

end PersistentAgent
end ChatAgents
