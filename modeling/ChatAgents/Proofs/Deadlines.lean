import ChatAgents.Agent.Persistent.Polling
import ChatAgents.Proofs.Failures
set_option autoImplicit false

namespace ChatAgents

open Http (Answer Exchange Network Request)
open Hosting (Operation Run RunStatus)

namespace Http.Network

def answerAfter (n : Network) (k : Nat) : Option Answer :=
  match n.link with
  | .unreachable => none
  | .scripted replies => some (replies[k]?.elim exhausted Reply.answer)

theorem exchange_first (n : Network) (r : Request) :
    (n.exchange r).1 = (n.answerAfter 0).bind Answer.response? := by
  rcases n with ⟨_ | _ | ⟨reply, rest⟩, log, clock⟩ <;> rfl

theorem log_exchange (n : Network) (r : Request) :
    (n.exchange r).2.log = n.log ++ ((n.answerAfter 0).map fun answer => ⟨r, answer⟩).toList := by
  rcases n with ⟨_ | _ | ⟨reply, rest⟩, log, clock⟩
  · exact (List.append_nil log).symm
  · rfl
  · rfl

theorem answerAfter_exchange (n : Network) (r : Request) (k : Nat) :
    (n.exchange r).2.answerAfter k = n.answerAfter (k + 1) := by
  rcases n with ⟨_ | _ | ⟨reply, rest⟩, log, clock⟩ <;> rfl

theorem clock_le_exchange (n : Network) (r : Request) : n.clock ≤ (n.exchange r).2.clock := by
  rcases n with ⟨_ | _ | ⟨reply, rest⟩, log, clock⟩
  · exact Nat.le_refl clock
  · exact Nat.le_refl clock
  · exact Nat.le_add_right clock reply.delay

end Http.Network

namespace Hosting.Operation

variable {α : Type} {read : Json → Option α} {o : Operation} {c : Config} {answer : Option Answer}

/-- The request of an operation was sent, and the answer holds what was asked for. -/
structure Serves (read : Json → Option α) (o : Operation) (c : Config) (answer : Option Answer)
    (e : Exchange) (found : α) : Prop where
  built : (o.draft c).build = .ok e.request
  answered : answer = some e.answer
  holds : ∃ r, e.answer = .response r ∧ Http.isSuccess r.status = true ∧ r.read? read = some found

/-- The request of an operation came to nothing, after at most one exchange: it could not be put
together, nobody was there, the exchange failed, or the answer does not hold what was asked for. -/
inductive Misses (read : Json → Option α) (o : Operation) (c : Config) :
    Option Answer → RemoteError → List Exchange → Prop
  | unbuilt {answer : Option Answer} {fault : Http.CallFault}
      (unbuilt : (o.draft c).build = .error fault) :
      Misses read o c answer (.transport fault.message) []
  | unanswered {q : Request} (built : (o.draft c).build = .ok q) :
      Misses read o c none (.transport (Http.CallFault.unanswered q.url.text).message) []
  | failed {e : Exchange} {err : RemoteError} (built : (o.draft c).build = .ok e.request)
      (fails : e.Fails err) : Misses read o c (some e.answer) err [e]
  | unreadable {e : Exchange} {r : Http.Response} (built : (o.draft c).build = .ok e.request)
      (response : e.answer = .response r) (success : Http.isSuccess r.status = true)
      (unread : r.read? read = none) :
      Misses read o c (some e.answer) (.response Http.undecodable) [e]

theorem Misses.length_le_one {err : RemoteError} {l : List Exchange}
    (h : Misses read o c answer err l) : l.length ≤ 1 := by
  cases h <;> simp

theorem performFor_cases (read : Json → Option α) (o : Operation) (c : Config) (n : Network) :
    (∃ e found n', o.performFor read c n = (.ok found, n') ∧
      Serves read o c (n.answerAfter 0) e found ∧ n'.log = n.log ++ [e] ∧
      ∀ k, n'.answerAfter k = n.answerAfter (k + 1)) ∨
    ∃ err l n', o.performFor read c n = (.error err, n') ∧
      Misses read o c (n.answerAfter 0) err l ∧ n'.log = n.log ++ l := by
  cases built : (o.draft c).build with
  | error fault =>
    refine .inr ⟨_, [], n, ?_, .unbuilt built, (List.append_nil n.log).symm⟩
    rw [performFor, Http.sendFor_run, Http.send_unbuilt built]
    rfl
  | ok q =>
    have sent : o.performFor read c n =
        ((Http.outcome q ((n.answerAfter 0).bind Answer.response?)).bind (·.decode read),
          (n.exchange q).2) := by
      rw [performFor, Http.sendFor_run, Http.send_built built, n.exchange_first]
    have log := n.log_exchange q
    cases answer : n.answerAfter 0 with
    | none =>
      rw [answer] at sent log
      exact .inr ⟨_, [], _, sent, .unanswered built, log⟩
    | some answered =>
      rw [answer] at sent log
      cases answered with
      | closed => exact .inr ⟨_, [⟨q, .closed⟩], _, sent, .failed built (.closed q), log⟩
      | response r =>
        by_cases success : Http.isSuccess r.status = true
        · cases found : r.read? read with
          | none =>
            refine .inr ⟨_, _, _, ?_, .unreadable (e := ⟨q, .response r⟩) built rfl success found,
              log⟩
            rw [sent]
            simp [Answer.response?, Http.outcome, success, Except.bind, Http.Response.decode, found]
          | some v =>
            refine .inl ⟨⟨q, .response r⟩, v, _, ?_, ⟨built, rfl, r, rfl, success, found⟩, log,
              n.answerAfter_exchange q⟩
            rw [sent]
            simp [Answer.response?, Http.outcome, success, Except.bind, Http.Response.decode, found]
        · have refused : Http.isSuccess r.status = false := by simpa using success
          refine .inr ⟨_, [⟨q, .response r⟩], _, ?_,
            .failed built (Exchange.fails_response q refused), log⟩
          rw [sent]
          simp [Answer.response?, Http.outcome, refused, Except.bind]

theorem clock_le_performFor (read : Json → Option α) (o : Operation) (c : Config) (n : Network) :
    n.clock ≤ (o.performFor read c n).2.clock := by
  rw [performFor, Http.sendFor_run]
  cases built : (o.draft c).build with
  | error fault =>
    simp only [Http.send_unbuilt built, Nat.le_refl]
  | ok q =>
    rw [Http.send_built built]
    exact n.clock_le_exchange q

end Hosting.Operation

def Hosting.RunStatus.unfinished : List RunStatus :=
  [.queued, .inProgress, .requiresAction, .cancelling, .unknown]

def Hosting.RunStatus.failures : List RunStatus := [.failed, .cancelled, .expired, .incomplete]

theorem Hosting.RunStatus.cases (s : RunStatus) :
    s = .completed ∨ s ≠ .completed ∧ s.isFailure = true ∧ s ∈ failures ∨
      s ≠ .completed ∧ s.isFailure = false ∧ s ∈ unfinished := by
  cases s <;> decide

namespace PersistentAgent

variable (a : PersistentAgent) (threadId : String)

/-- The completed run, watched from a report on by a clock that shows `readings k` at the look after
`k` others. -/
def watchBy (readings : Nat → Nat) (run : Run) (n : Network) : Except RemoteError Run × Network :=
  if run.status = .completed then (.ok run, n)
  else if run.status.isFailure then (.error run.failure, n)
  else if a.config.runTimeout ≤ readings 0 then (.error a.timedOut, n)
  else
    match _h : a.nextReport threadId run n with
    | (.error e, n') => (.error e, n')
    | (.ok run', n') => watchBy (fun k => readings (k + 1)) run' n'
termination_by n.remaining
decreasing_by exact remaining_nextReport_lt _h

def elapsed (started : Nat) (run : Run) (n : Network) : Nat → Nat
  | 0 => n.clock - started
  | k + 1 =>
    match a.nextReport threadId run n with
    | (.error _, _) => n.clock - started
    | (.ok run', n') => elapsed started run' n' k

/-- A report on a run, the exchange that it caused, and the report that the exchange gave. -/
structure Look where
  run : Run
  exchange : Exchange
  reported : Run

structure Look.GoesOn (l : Look) (reading : Nat) (answer : Option Answer) : Prop where
  unfinished : l.run.status ∈ RunStatus.unfinished
  early : reading < a.config.runTimeout
  served : (a.followUp threadId l.run).Serves Hosting.readRun? a.config answer l.exchange l.reported

/-- What the last look at a run leads to, and the exchanges after it. Only an unfinished run can be
late. -/
inductive Settles (last : Run) (reading : Nat) (answer : Option Answer) :
    Except RemoteError Run → List Exchange → Prop
  | completed (status : last.status = .completed) : Settles last reading answer (.ok last) []
  | failed (status : last.status ∈ RunStatus.failures) :
    Settles last reading answer (.error (.runFailed last.status.name last.faultText)) []
  | late (status : last.status ∈ RunStatus.unfinished) (late : a.config.runTimeout ≤ reading) :
    Settles last reading answer (.error (.timeout (a.config.runTimeout / 1000))) []
  | broken {err : RemoteError} {l : List Exchange} (status : last.status ∈ RunStatus.unfinished)
      (early : reading < a.config.runTimeout)
      (missed : (a.followUp threadId last).Misses Hosting.readRun? a.config answer err l) :
    Settles last reading answer (.error err) l

/-- A watch is a row of looks that go on, each at the report that the one before it gave, and a last
look that settles it. -/
def Watches (readings : Nat → Nat) (run : Run) (n : Network)
    (outcome : Except RemoteError Run × Network) : Prop :=
  ∃ (looks : List Look) (last : Run) (final : List Exchange),
    looks.map Look.run ++ [last] = run :: looks.map Look.reported ∧
    (∀ k (l : Look), looks[k]? = some l → l.GoesOn a threadId (readings k) (n.answerAfter k)) ∧
    a.Settles threadId last (readings looks.length) (n.answerAfter looks.length) outcome.1 final ∧
    outcome.2.log = n.log ++ looks.map Look.exchange ++ final ∧ final.length ≤ 1

variable {a threadId} {readings : Nat → Nat} {run run' : Run} {n n' : Network}

theorem Settles.length_le_one {reading : Nat} {answer : Option Answer}
    {result : Except RemoteError Run} {final : List Exchange}
    (h : a.Settles threadId run reading answer result final) : final.length ≤ 1 := by
  cases h with
  | broken _ _ missed => exact missed.length_le_one
  | _ => exact Nat.zero_le 1

theorem Watches.settled {result : Except RemoteError Run} {final : List Exchange}
    (settles : a.Settles threadId run (readings 0) (n.answerAfter 0) result final)
    (log : n'.log = n.log ++ final) : a.Watches threadId readings run n (result, n') := by
  refine ⟨[], run, final, rfl, fun k l at_k => ?_, settles, ?_, settles.length_le_one⟩
  · rw [List.getElem?_nil] at at_k
    cases at_k
  · rw [List.map_nil, List.append_nil, log]

theorem Watches.step {outcome : Except RemoteError Run × Network} {e : Exchange}
    (goes : Look.GoesOn a threadId ⟨run, e, run'⟩ (readings 0) (n.answerAfter 0))
    (log : n'.log = n.log ++ [e]) (answers : ∀ k, n'.answerAfter k = n.answerAfter (k + 1))
    (rest : a.Watches threadId (fun k => readings (k + 1)) run' n' outcome) :
    a.Watches threadId readings run n outcome := by
  obtain ⟨looks, last, final, linked, going, settles, log', few⟩ := rest
  refine ⟨⟨run, e, run'⟩ :: looks, last, final, ?_, ?_, ?_, ?_, few⟩
  · rw [List.map_cons, List.cons_append, linked, List.map_cons]
  · intro k l at_k
    cases k with
    | zero =>
      obtain rfl := Option.some.inj at_k
      exact goes
    | succ k => exact answers k ▸ going k l at_k
  · exact answers looks.length ▸ settles
  · rw [log', log, List.map_cons, List.append_assoc n.log, List.singleton_append]

theorem nextReport_cases (a : PersistentAgent) (threadId : String) (run : Run) (n : Network) :
    (∃ e run' n', a.nextReport threadId run n = (.ok run', n') ∧
      (a.followUp threadId run).Serves Hosting.readRun? a.config (n.answerAfter 0) e run' ∧
      n'.log = n.log ++ [e] ∧ ∀ k, n'.answerAfter k = n.answerAfter (k + 1)) ∨
    ∃ err l n', a.nextReport threadId run n = (.error err, n') ∧
      (a.followUp threadId run).Misses Hosting.readRun? a.config (n.answerAfter 0) err l ∧
      n'.log = n.log ++ l := by
  rw [a.nextReport_eq threadId run n]
  exact Operation.performFor_cases _ _ _ (n.wait _)

/-- The induction is on the replies still to come, of which each request uses up one. -/
theorem watches_watchBy (readings : Nat → Nat) (run : Run) (n : Network) :
    a.Watches threadId readings run n (a.watchBy threadId readings run n) := by
  -- every look but the last takes a reply, so the readings need no end
  induction left : n.remaining using Nat.strongRecOn generalizing readings run n with
  | ind left_now ih =>
    rw [watchBy]
    obtain completed | ⟨unfinished, failure, listed⟩ | ⟨unfinished, unfailed, listed⟩ :=
      run.status.cases
    · rw [if_pos completed]
      exact .settled (.completed completed) (List.append_nil n.log).symm
    · rw [if_neg unfinished, if_pos failure]
      exact .settled (.failed listed) (List.append_nil n.log).symm
    · rw [if_neg unfinished, if_neg (by simp [unfailed])]
      by_cases late : a.config.runTimeout ≤ readings 0
      · rw [if_pos late]
        exact .settled (.late listed late) (List.append_nil n.log).symm
      · rw [if_neg late]
        have early := Nat.lt_of_not_le late
        obtain ⟨e, run', n', report, served, log, answers⟩ | ⟨err, l, n', report, missed, log⟩ :=
          a.nextReport_cases threadId run n
        · have fewer : n'.remaining < left_now := left ▸ remaining_nextReport_lt report
          split
          · next failed => cases report.symm.trans failed
          · next again =>
            cases report.symm.trans again
            exact .step ⟨listed, early, served⟩ log answers (ih _ fewer _ run' n' rfl)
        · split
          · next failed =>
            cases report.symm.trans failed
            exact .settled (.broken listed early missed) log
          · next again => cases report.symm.trans again

theorem clock_le_nextReport (a : PersistentAgent) (threadId : String) (run : Run) (n : Network) :
    n.clock ≤ (a.nextReport threadId run n).2.clock := by
  rw [nextReport_eq]
  exact Nat.le_trans (Nat.le_add_right n.clock _) (Operation.clock_le_performFor _ _ _ (n.wait _))

theorem elapsed_succ {started : Nat} (report : a.nextReport threadId run n = (.ok run', n'))
    (k : Nat) :
    a.elapsed threadId started run n (k + 1) = a.elapsed threadId started run' n' k := by
  rw [elapsed, report]

theorem elapsed_le_succ (a : PersistentAgent) (threadId : String) (started : Nat) (run : Run)
    (n : Network) (k : Nat) :
    a.elapsed threadId started run n k ≤ a.elapsed threadId started run n (k + 1) := by
  induction k generalizing run n with
  | zero =>
    have later := a.clock_le_nextReport threadId run n
    rcases report : a.nextReport threadId run n with ⟨err | run', n'⟩
    · simp only [elapsed, report, Nat.le_refl]
    · rw [elapsed_succ report, elapsed, elapsed]
      rw [report] at later
      exact Nat.sub_le_sub_right later started
  | succ k ih =>
    rcases report : a.nextReport threadId run n with ⟨err | run', n'⟩
    · simp only [elapsed, report, Nat.le_refl]
    · rw [elapsed_succ report, elapsed_succ report]
      exact ih run' n'

theorem watch_eq_watchBy (a : PersistentAgent) (threadId : String) (started : Nat) (run : Run)
    (n : Network) :
    a.watch threadId started run n =
      a.watchBy threadId (a.elapsed threadId started run n) run n := by
  induction left : n.remaining using Nat.strongRecOn generalizing run n with
  | ind left_now ih =>
    rw [watch, watchBy, elapsed]
    split
    · rfl
    · split
      · rfl
      · split
        · rfl
        · rcases report : a.nextReport threadId run n with ⟨err | run', n'⟩
          · rfl
          · show a.watch threadId started run' n' =
              a.watchBy threadId (fun k => a.elapsed threadId started run n (k + 1)) run' n'
            rw [funext (elapsed_succ report)]
            exact ih _ (left ▸ remaining_nextReport_lt report) _ _ rfl

/-- However the clock goes, a watch returns the first report on a completed run and the failure of
the first that tells one, late as they may be; the first look at an unfinished run past the deadline
ends it, and each look before that causes one request. Waiting for a run is a watch by the clock of
the network, which starts at nothing and never goes back. -/
theorem awaitRun_deadline (a : PersistentAgent) (threadId : String) (run : Run) (n : Network) :
    (∀ readings, a.Watches threadId readings run n (a.watchBy threadId readings run n)) ∧
    a.awaitRun threadId run n =
      a.watchBy threadId (a.elapsed threadId n.clock run n) run n ∧
    a.elapsed threadId n.clock run n 0 = 0 ∧
    ∀ k, a.elapsed threadId n.clock run n k ≤ a.elapsed threadId n.clock run n (k + 1) :=
  ⟨fun readings => watches_watchBy readings run n, a.watch_eq_watchBy threadId n.clock run n,
    Nat.sub_self n.clock, a.elapsed_le_succ threadId n.clock run n⟩

end PersistentAgent
end ChatAgents
