import ChatAgents.Proofs.Deadlines
import ChatAgents.Proofs.HostedUpdates
set_option autoImplicit false

namespace ChatAgents

theorem exists_front {α β : Type} {reads : α → β → Prop} {stops : α → Prop}
    (either : ∀ a, (∃ b, reads a b) ∨ stops a) (l : List α) :
    ∃ front found, List.Forall₂ reads front found ∧
      (l = front ∨ ∃ a rest, l = front ++ a :: rest ∧ stops a) := by
  induction l with
  | nil => exact ⟨[], [], .nil, .inl rfl⟩
  | cons a l ih =>
    rcases either a with ⟨b, read⟩ | stop
    · obtain ⟨front, found, all_read, whole | ⟨a', rest, split, stop⟩⟩ := ih
      · exact ⟨a :: front, b :: found, .cons read all_read, .inl (congrArg _ whole)⟩
      · exact ⟨a :: front, b :: found, .cons read all_read,
          .inr ⟨a', rest, congrArg _ split, stop⟩⟩
    · exact ⟨[], [], .nil, .inr ⟨a, l, rfl, stop⟩⟩

theorem forall_places_cons {α : Type} {holds : Nat → α → Prop} {a : α} {l : List α}
    (first : holds 0 a) (later : ∀ k b, l[k]? = some b → holds (k + 1) b) :
    ∀ k b, (a :: l)[k]? = some b → holds k b := by
  intro k b at_k
  cases k with
  | zero =>
    obtain rfl := Option.some.inj at_k
    exact first
  | succ k => exact later k b at_k

namespace Http

/-- A request came to nothing, after at most one exchange: it could not be put together, nobody was
there, or the exchange failed. -/
inductive Draft.Fails (d : Draft) : Option Answer → RemoteError → List Exchange → Prop
  | unbuilt {answer : Option Answer} {fault : CallFault} (unbuilt : d.build = .error fault) :
      Fails d answer (.transport fault.message) []
  | unanswered {q : Request} (built : d.build = .ok q) :
      Fails d none (.transport (CallFault.unanswered q.url.text).message) []
  | failed {e : Exchange} {err : RemoteError} (built : d.build = .ok e.request)
      (fails : e.Fails err) : Fails d (some e.answer) err [e]

theorem Draft.Fails.length_le_one {d : Draft} {answer : Option Answer} {err : RemoteError}
    {l : List Exchange} (h : d.Fails answer err l) : l.length ≤ 1 := by
  cases h <;> simp

theorem Draft.Fails.ne_response {d : Draft} {answer : Option Answer} {err : RemoteError}
    {l : List Exchange} (h : d.Fails answer err l) (text : String) : err ≠ .response text := by
  cases h with
  | unbuilt => nofun
  | unanswered => nofun
  | failed _ fails => cases fails <;> nofun

/-- A request was sent, and its answer brings events. -/
structure Draft.Brings (d : Draft) (answer : Option Answer) (e : Exchange) (feed : Feed) :
    Prop where
  built : d.build = .ok e.request
  answered : answer = some e.answer
  came : e.feed? = some feed

theorem sendForEvents_cases (d : Draft) (n : Network) :
    (∃ e feed n', sendForEvents d n = (.ok feed, n') ∧ d.Brings (n.answerAfter 0) e feed ∧
      n'.log = n.log ++ [e] ∧ ∀ k, n'.answerAfter k = n.answerAfter (k + 1)) ∨
    ∃ err l n', sendForEvents d n = (.error err, n') ∧ d.Fails (n.answerAfter 0) err l ∧
      n'.log = n.log ++ l := by
  rw [sendForEvents_run]
  cases built : d.build with
  | error fault =>
    rw [send_unbuilt built]
    exact .inr ⟨_, [], n, rfl, .unbuilt built, (List.append_nil n.log).symm⟩
  | ok q =>
    have log := n.log_exchange q
    rw [send_built built, n.exchange_first]
    cases answer : n.answerAfter 0 with
    | none =>
      rw [answer] at log
      exact .inr ⟨_, [], _, rfl, .unanswered built, log⟩
    | some answered =>
      rw [answer] at log
      cases answered with
      | closed => exact .inr ⟨_, [⟨q, .closed⟩], _, rfl, .failed built (.closed q), log⟩
      | response r =>
        rw [Option.bind_some, Answer.response?, outcome]
        cases success : isSuccess r.status with
        | true =>
          have came : (⟨q, .response r⟩ : Exchange).feed? = some r.feed := by
            simp [Exchange.feed?, Answer.response?, success]
          exact .inl ⟨_, _, _, rfl, ⟨built, rfl, came⟩, log, n.answerAfter_exchange q⟩
        | false =>
          exact .inr ⟨_, [⟨q, .response r⟩], _, rfl,
            .failed built (Exchange.fails_response q success), log⟩

theorem Exchange.succeeds_of_feed {e : Exchange} {feed : Feed} (h : e.feed? = some feed) :
    e.Succeeds := by
  obtain ⟨q, answer⟩ := e
  obtain ⟨r, given, came⟩ := Option.bind_eq_some_iff.1 h
  cases answer with
  | closed => cases given
  | response r' =>
    obtain rfl := Option.some.inj given
    split at came <;> rename_i success
    · exact ⟨r', rfl, success⟩
    · cases came

theorem Exchange.feed_unfaulted {e : Exchange} {feed : Feed} (h : e.feed? = some feed) :
    feed.fault ≠ some .endedEarly := by
  obtain ⟨r, -, came⟩ := Option.bind_eq_some_iff.1 h
  split at came
  · obtain rfl := Option.some.inj came
    rw [Response.feed]
    split
    · simp
    · exact fun same => absurd (RemoteError.response.inj (Option.some.inj same)) (by decide)
  · cases came

end Http
end ChatAgents
