import ChatAgents.Proofs.Consumers
import ChatAgents.Proofs.RoundStops
set_option autoImplicit false

namespace ChatAgents

open Http (Answer Exchange Feed Network)
open Hosting (Operation Round RoundRead Run)

namespace PersistentAgent

variable (a : PersistentAgent) (threadId : String)

def submission (run : Run) : Operation :=
  .submitOutputs threadId run.id (a.registry.outputs run.required) true

/-- A round that stopped for tool calls, the exchange in which their outputs were sent, and the next
round that it brought. -/
structure Turn where
  round : RoundRead
  run : Run
  exchange : Exchange
  next : Feed

structure Turn.GoesOn (t : Turn) (answer : Option Answer) : Prop where
  stopped : t.round.ending = .action t.run
  submitted : ((a.submission threadId t.run).draft a.config).Brings answer t.exchange t.next

/-- The rounds of a stream from a feed on: each is the one that the turn before brought, and the
answers to the submissions come in order. -/
structure Unfolds (feed : Feed) (n : Network) (turns : List Turn) (last : RoundRead) : Prop where
  linked : turns.map (fun t => t.round.feed) ++ [last.feed] = feed :: turns.map Turn.next
  goes : ∀ k (t : Turn), turns[k]? = some t → t.GoesOn a threadId (n.answerAfter k)

def allRounds (turns : List Turn) (last : RoundRead) : List RoundRead :=
  turns.map Turn.round ++ [last]

theorem allRounds_cons (t : Turn) (turns : List Turn) (last : RoundRead) :
    allRounds (t :: turns) last = t.round :: allRounds turns last := rfl

/-- What the last round of a stream leads to, and the exchanges after it; `answered` says that there
was a message of the assistant. -/
inductive Concludes (last : RoundRead) (answered : Prop) (answer : Option Answer) :
    Except AgentError Unit → List Exchange → Prop
  | answered (finished : last.ending = .finished) (said : answered) :
      Concludes last answered answer (.ok ()) []
  | silent (finished : last.ending = .finished) (unsaid : ¬ answered) :
      Concludes last answered answer (.error .missingFinalResponse) []
  | failed {err : RemoteError} (failed : last.ending = .failed err) :
      Concludes last answered answer (.error (.remote err)) []
  | unsubmitted {run : Run} {err : RemoteError} {l : List Exchange}
      (stopped : last.ending = .action run)
      (fails : ((a.submission threadId run).draft a.config).Fails answer err l) :
      Concludes last answered answer (.error (.remote err)) l

def toldIn (r : RoundRead) : List Update :=
  r.told.flatten ++
    match r.ending with
    | .action run => (a.registry.exchanges run.required).flatMap ToolExchange.updates
    | .finished | .failed _ => []

theorem roundUpdates_eq (r : RoundRead) : a.roundUpdates (Round.ofFeed r.feed) = a.toldIn r := by
  rw [r.round_eq, roundUpdates, toldIn]
  cases r.ending with
  | action run => rfl
  | finished | failed _ => exact (List.append_nil _).symm

variable {a threadId}

theorem Concludes.length_le_one {last : RoundRead} {answered : Prop} {answer : Option Answer}
    {result : Except AgentError Unit} {final : List Exchange}
    (h : a.Concludes threadId last answered answer result final) : final.length ≤ 1 := by
  cases h with
  | unsubmitted _ fails => exact fails.length_le_one
  | _ => exact Nat.zero_le 1

theorem Unfolds.last {n : Network} {last : RoundRead} :
    a.Unfolds threadId last.feed n [] last where
  linked := rfl
  goes k t at_k := by cases at_k

theorem Unfolds.step {n n' : Network} {t : Turn} {turns : List Turn} {last : RoundRead}
    (first : t.GoesOn a threadId (n.answerAfter 0))
    (answers : ∀ k, n'.answerAfter k = n.answerAfter (k + 1))
    (rest : a.Unfolds threadId t.next n' turns last) :
    a.Unfolds threadId t.round.feed n (t :: turns) last where
  linked := by rw [List.map_cons, List.cons_append, rest.linked, List.map_cons]
  goes := forall_places_cons first fun k t' at_k => answers k ▸ rest.goes k t' at_k

theorem Unfolds.last_mem {feed : Feed} {n : Network} {turns : List Turn} {last : RoundRead}
    (h : a.Unfolds threadId feed n turns last) :
    last.feed = feed ∨ ∃ t ∈ turns, last.feed = t.next := by
  have inside : last.feed ∈ feed :: turns.map Turn.next := h.linked ▸ List.mem_concat_self
  rcases List.mem_cons.1 inside with first | later
  · exact .inl first
  · obtain ⟨t, ht, same⟩ := List.mem_map.1 later
    exact .inr ⟨t, ht, same.symm⟩

theorem Unfolds.goesOn_of_mem {feed : Feed} {n : Network} {turns : List Turn} {last : RoundRead}
    (h : a.Unfolds threadId feed n turns last) {t : Turn} (ht : t ∈ turns) :
    ∃ answer, t.GoesOn a threadId answer := by
  obtain ⟨k, at_k⟩ := List.mem_iff_getElem?.1 ht
  exact ⟨_, h.goes k t at_k⟩

theorem nextRound_cases (a : PersistentAgent) (threadId : String) (run : Run) (w : HostState) :
    (∃ e feed n', a.nextRound threadId run w = (.ok feed, { w with network := n' }) ∧
      ((a.submission threadId run).draft a.config).Brings (w.network.answerAfter 0) e feed ∧
      n'.log = w.network.log ++ [e] ∧
      ∀ k, n'.answerAfter k = w.network.answerAfter (k + 1)) ∨
    ∃ err l n', a.nextRound threadId run w = (.error (.remote err), { w with network := n' }) ∧
      ((a.submission threadId run).draft a.config).Fails (w.network.answerAfter 0) err l ∧
      n'.log = w.network.log ++ l := by
  have run_eq : a.nextRound threadId run w = HostState.call
      (Http.sendForEvents ((a.submission threadId run).draft a.config)) w := rfl
  rw [run_eq, HostState.call_run]
  rcases Http.sendForEvents_cases ((a.submission threadId run).draft a.config) w.network with
    ⟨e, feed, n', sent, brings, log, answers⟩ | ⟨err, l, n', sent, fails, log⟩
  · rw [sent]
    exact .inl ⟨e, feed, n', rfl, brings, log, answers⟩
  · rw [sent]
    exact .inr ⟨err, l, n', rfl, fails, log⟩

/-- The rounds of a stream unfold from a feed on, and say what is handed over and sent, and what
comes of it; `before` says that there was a message of the assistant already. -/
def Streams (a : PersistentAgent) (threadId : String) (before : Prop) (feed : Feed) (n : Network)
    (p : Progress Update HostState AgentError Bool) : Prop :=
  ∃ turns last final, a.Unfolds threadId feed n turns last ∧
    a.Concludes threadId last (before ∨ ∃ r ∈ allRounds turns last, r.Answers)
      (n.answerAfter turns.length) (verdict p.result) final ∧
    p.items = (allRounds turns last).flatMap a.toldIn ∧
    p.world.network.log = n.log ++ turns.map Turn.exchange ++ final

variable {before : Prop} {r : RoundRead} {n n' : Network} {w w' : HostState}

theorem items_roundDelivered (a : PersistentAgent) (r : RoundRead) (w : HostState) :
    (a.roundDelivered r.feed w).map (·.1) = a.toldIn r :=
  (a.map_roundDelivered r.feed w).trans (a.roundUpdates_eq r)

theorem Streams.ended {result : Except AgentError Bool} {final : List Exchange}
    (concludes :
      a.Concludes threadId r (before ∨ r.Answers) (n.answerAfter 0) (verdict result) final)
    (log : w'.network.log = n.log ++ final) :
    a.Streams threadId before r.feed n ⟨a.roundDelivered r.feed w, result, w'⟩ := by
  refine ⟨[], r, final, .last, ?_, ?_, ?_⟩
  · have alone : (∃ x ∈ allRounds [] r, x.Answers) = r.Answers := by simp [allRounds]
    rw [alone]
    exact concludes
  · rw [Progress.items, a.items_roundDelivered r w]
    exact (List.flatMap_singleton ..).symm
  · rw [log, List.map_nil, List.append_nil]

theorem Streams.step {run : Run} {e : Exchange} {feed : Feed}
    {p : Progress Update HostState AgentError Bool} (stopped : r.ending = .action run)
    (brings : ((a.submission threadId run).draft a.config).Brings (n.answerAfter 0) e feed)
    (log : n'.log = n.log ++ [e]) (answers : ∀ k, n'.answerAfter k = n.answerAfter (k + 1))
    (rest : a.Streams threadId (before ∨ r.Answers) feed n' p) :
    a.Streams threadId before r.feed n (p.prepend (a.roundDelivered r.feed w)) := by
  obtain ⟨turns, last, final, unfolds, concludes, items, log'⟩ := rest
  let t : Turn := ⟨r, run, e, feed⟩
  have goes : t.GoesOn a threadId (n.answerAfter 0) := ⟨stopped, brings⟩
  refine ⟨t :: turns, last, final, .step goes answers unfolds, ?_, ?_, ?_⟩
  · have said : (before ∨ ∃ x ∈ allRounds (t :: turns) last, x.Answers) =
        ((before ∨ r.Answers) ∨ ∃ x ∈ allRounds turns last, x.Answers) := by
      simp only [t, allRounds_cons, List.mem_cons, exists_eq_or_imp, or_assoc]
    rw [said, List.length_cons, ← answers, Progress.result_prepend]
    exact concludes
  · rw [Progress.items_prepend, a.items_roundDelivered, items, allRounds_cons, List.flatMap_cons]
  · rw [Progress.world_prepend, log', log, List.map_cons, List.append_assoc n.log,
      List.singleton_append]

/-- The induction is on the replies still to come, of which each turn uses up one. -/
theorem streams_streamRounds (a : PersistentAgent) (threadId : String) (answered : Bool)
    (feed : Feed) (w : HostState) :
    a.Streams threadId (answered = true) feed w.network
      (a.streamRounds threadId answered feed w) := by
  -- on the replies still to come: the outputs of a round use up the one that brings the next
  induction left : w.remaining using Nat.strongRecOn generalizing answered feed w with
  | ind left_now ih =>
    obtain ⟨r, rfl⟩ := Hosting.exists_roundRead feed
    have ending : (Round.ofFeed r.feed).ending = r.ending := congrArg Round.ending r.round_eq
    have said :
        (answered || (Round.ofFeed r.feed).answered) = true ↔ answered = true ∨ r.Answers := by
      rw [r.round_eq, Bool.or_eq_true, r.any_tellsMessage]
    cases stop : r.ending with
    | finished =>
      rw [streamRounds_finished (ending.trans stop)]
      refine .ended ?_ (List.append_nil _).symm
      dsimp only [verdict]
      split <;> rename_i spoken
      · exact .answered stop (said.1 spoken)
      · exact .silent stop (mt said.2 spoken)
    | failed err =>
      rw [streamRounds_failed (ending.trans stop)]
      exact .ended (.failed stop) (List.append_nil _).symm
    | action run =>
      rw [streamRounds_action (ending.trans stop)]
      rcases a.nextRound_cases threadId run w with
        ⟨e, feed, n', next, brings, log, later⟩ | ⟨err, l, n', next, fails, log⟩
      · rw [next]
        have fewer : ({ w with network := n' } : HostState).remaining < left_now :=
          left ▸ remaining_nextRound_lt next
        have rest := ih _ fewer (answered || (Round.ofFeed r.feed).answered) feed _ rfl
        rw [said] at rest
        exact .step stop brings log later rest
      · rw [next]
        exact .ended (.unsubmitted stop fails) log

section

variable {last : RoundRead} {answered : Prop} {answer : Option Answer}
  {result : Except AgentError Unit} {final : List Exchange}

theorem Concludes.ok_iff (h : a.Concludes threadId last answered answer result final) :
    result = .ok () ↔ last.Finishes ∧ answered := by
  rw [← last.finished_iff]
  cases h with
  | answered finished said => exact iff_of_true rfl ⟨finished, said⟩
  | silent finished unsaid => exact iff_of_false nofun fun both => unsaid both.2
  | failed failed => exact iff_of_false nofun fun both => nomatch failed.symm.trans both.1
  | unsubmitted stopped => exact iff_of_false nofun fun both => nomatch stopped.symm.trans both.1

theorem Concludes.endedEarly_iff (h : a.Concludes threadId last answered answer result final)
    (unfaulted : last.feed.fault ≠ some .endedEarly) :
    result = .error (.remote .endedEarly) ↔ last.CutShort ∨ last.ReportsEarlyEnd := by
  rw [← last.endedEarly_iff unfaulted]
  cases h with
  | answered finished => exact iff_of_false nofun fun early => nomatch finished.symm.trans early
  | silent finished => exact iff_of_false nofun fun early => nomatch finished.symm.trans early
  | @failed err failed =>
    rw [failed]
    constructor
    · rintro ⟨⟩
      rfl
    · rintro ⟨⟩
      rfl
  | unsubmitted stopped fails =>
    refine iff_of_false (fun same => ?_) fun early => nomatch stopped.symm.trans early
    exact fails.ne_response _ (AgentError.remote.inj (Except.error.inj same))

end

theorem Unfolds.cutShort_iff {feed : Feed} {turns : List Turn} {last : RoundRead}
    (h : a.Unfolds threadId feed n turns last) :
    (∃ r ∈ allRounds turns last, r.CutShort) ↔ last.CutShort := by
  refine ⟨?_, fun short => ⟨last, List.mem_concat_self, short⟩⟩
  rintro ⟨r, member, short⟩
  rcases List.mem_append.1 member with before | at_end
  · obtain ⟨t, ht, rfl⟩ := List.mem_map.1 before
    obtain ⟨_, goes⟩ := h.goesOn_of_mem ht
    obtain ⟨events, whole, uncompleted⟩ := short
    exact nomatch (t.round.ending_unique (.cutShort events whole uncompleted)).trans goes.stopped
  · exact List.mem_singleton.1 at_end ▸ short

theorem Unfolds.unfaulted {feed : Feed} {turns : List Turn} {last : RoundRead}
    (h : a.Unfolds threadId feed n turns last) (first : feed.fault ≠ some .endedEarly) :
    last.feed.fault ≠ some .endedEarly := by
  rcases h.last_mem with same | ⟨t, ht, same⟩
  · rwa [same]
  · obtain ⟨_, goes⟩ := h.goesOn_of_mem ht
    rw [same]
    exact Http.Exchange.feed_unfaulted goes.submitted.came

theorem streamRounds_congr {feed feed' : Feed} (same : Round.ofFeed feed' = Round.ofFeed feed)
    (answered : Bool) (w : HostState) :
    a.streamRounds threadId answered feed' w = a.streamRounds threadId answered feed w := by
  have whole := a.rounds_run threadId answered feed' w
  rw [afterRound, roundDelivered, same] at whole
  exact whole.trans (a.rounds_run threadId answered feed w).symm

theorem result_conclude (a : PersistentAgent) (p : Progress Update HostState AgentError Bool) :
    (a.conclude p).result = verdict p.result := by
  rw [conclude]
  cases p.result <;> rfl

/-- A streamed run goes from round to round. Each is read up to the event that stops it, and nothing
behind that counts. One that stops for tool calls is followed by one request with their outputs,
whose answer is the next round. The run succeeds exactly if its last round is finished and some
round had a message of the assistant; it ends early exactly if the body of a round does, unless the
service says the same in an error of its own. -/
theorem runStreaming_ends_with_last_round (a : PersistentAgent) (messages : List ChatMessage)
    (o : RunOptions) (w : HostState) (detached : Bool) :
    let p := a.runStreaming messages o w
    (match a.openStream messages o w with
      | (.error err, u) => p = ⟨[], .error err, u⟩
      | (.ok (threadId, feed), u) =>
        ∃ turns last final cleanup,
          a.Unfolds threadId feed u.network turns last ∧
          (∀ r ∈ allRounds turns last, ∀ e ∈ r.passed, ∀ ending, ¬ Hosting.Stops e ending) ∧
          a.Concludes threadId last (∃ r ∈ allRounds turns last, r.Answers)
            (u.network.answerAfter turns.length) p.result final ∧ final.length ≤ 1 ∧
          p.items = (allRounds turns last).flatMap a.toldIn ∧
          (a.afterStream true detached p.world).network.log =
            u.network.log ++ (turns.map Turn.exchange ++ final ++ cleanup) ∧
          (cleanup = [] ∨ ∃ id e, cleanup = [e] ∧ Deletion a.config id e) ∧
          (p.result = .ok () ↔ last.Finishes ∧ ∃ r ∈ allRounds turns last, r.Answers) ∧
          (p.result = .error (.remote .endedEarly) ↔
            (∃ r ∈ allRounds turns last, r.CutShort) ∨ last.ReportsEarlyEnd)) ∧
    ∀ passed told e ending, List.Forall₂ Hosting.Passes passed told → Hosting.Stops e ending →
      ∀ rest rest' fault fault' threadId answered u,
        a.streamRounds threadId answered ⟨passed ++ e :: rest', fault'⟩ u =
          a.streamRounds threadId answered ⟨passed ++ e :: rest, fault⟩ u := by
  dsimp only
  refine ⟨?_,
    fun passed told e ending passes stops rest rest' fault fault' threadId answered u => ?_⟩
  · obtain ⟨_, _, _, -, -, -, came⟩ := a.openStream_log messages o w
    rw [runStreaming_run]
    rcases opened : a.openStream messages o w with ⟨err | ⟨threadId, feed⟩, u⟩
    · rfl
    · rw [opened] at came
      obtain ⟨-, first, -, brought⟩ := came
      obtain ⟨turns, last, final, unfolds, concludes, items, log⟩ :=
        a.streams_streamRounds threadId false feed u
      have said : (false = true ∨ ∃ r ∈ allRounds turns last, r.Answers) =
          ∃ r ∈ allRounds turns last, r.Answers := by simp
      rw [said] at concludes
      rw [List.append_assoc] at log
      obtain ⟨cleanup, released, deletes⟩ := a.log_cleanup log
      have unfaulted := unfolds.unfaulted (Http.Exchange.feed_unfaulted brought)
      dsimp only
      rw [result_conclude, items_conclude, afterStream_conclude]
      refine ⟨turns, last, final, cleanup, unfolds, fun r _ e passed => r.passed_not_stops passed,
        concludes, concludes.length_le_one, items, released, deletes, concludes.ok_iff, ?_⟩
      rw [unfolds.cutShort_iff]
      exact concludes.endedEarly_iff unfaulted
  · refine streamRounds_congr ?_ answered u
    rw [Hosting.ofFeed_of_stops passes stops, Hosting.ofFeed_of_stops passes stops]

end PersistentAgent
end ChatAgents
