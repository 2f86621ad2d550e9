import ChatAgents.Http.Network
set_option autoImplicit false

namespace ChatAgents.Http

/-- What a call makes of the response to its request. -/
def outcome (r : Request) : Option Response → Except RemoteError Response
  | none => .error (.transport (CallFault.unanswered r.url.text).message)
  | some response =>
    if isSuccess response.status then .ok response
    else .error (.status response.status (failureText response))

theorem send_unbuilt {d : Draft} {fault : CallFault} (h : d.build = .error fault) (n : Network) :
    send d n = (.error (.transport fault.message), n) := by
  simp [send, fetch, h]

theorem send_built {d : Draft} {r : Request} (h : d.build = .ok r) (n : Network) :
    send d n = (outcome r (n.exchange r).1, (n.exchange r).2) := by
  rcases hx : n.exchange r with ⟨_ | response, n'⟩
  · simp [send, fetch, h, hx, outcome]
  · by_cases ok : isSuccess response.status <;> simp [send, fetch, h, hx, outcome, ok]

theorem sendFor_run {α : Type} (read : Json → Option α) (d : Draft) (n : Network) :
    sendFor read d n = ((send d n).1.bind (·.decode read), (send d n).2) := by
  rw [sendFor, Work.bind_run]
  rcases send d n with ⟨_ | _, _⟩ <;> rfl

theorem sendForEvents_run (d : Draft) (n : Network) :
    sendForEvents d n = ((send d n).1.map Response.feed, (send d n).2) := by
  rw [sendForEvents, Work.bind_run]
  rcases send d n with ⟨_ | _, _⟩ <;> rfl

theorem build_withBody (d : Draft) (b : Json) (h : d.body.isSome = true) :
    { d with body := some b }.build = d.build.map fun r => { r with body := some b } := by
  obtain ⟨b', hb⟩ := Option.isSome_iff_exists.1 h
  unfold Draft.build
  cases Url.parse? d.address with
  | none => rfl
  | some url =>
    simp only [hb, Option.isSome_some, if_true]
    split
    · rfl
    · split
      · rfl
      · split <;> split <;> rfl

theorem method_body_of_build {d : Draft} {r : Request} (h : d.build = .ok r) :
    r.method = d.method ∧ r.body = d.body := by
  unfold Draft.build at h
  cases hurl : Url.parse? d.address with
  | none => simp [hurl] at h
  | some url =>
    simp only [hurl] at h
    split at h
    · simp at h
    · split at h
      · simp at h
      · generalize (d.fields.foldl _ _ : Url) = sent at h
        cases hsent : sent.isSendable with
        | false => simp [hsent] at h
        | true =>
          simp only [hsent, Bool.not_true, Bool.false_eq_true, if_false, Except.ok.injEq] at h
          subst h
          exact ⟨rfl, rfl⟩

theorem exchange_cons (reply : Reply) (rest : List Reply) (log : List Exchange) (clock : Nat)
    (r : Request) :
    Network.exchange ⟨.scripted (reply :: rest), log, clock⟩ r =
      (reply.answer.response?,
        ⟨.scripted rest, log ++ [⟨r, reply.answer⟩], clock + reply.delay⟩) := rfl

theorem exchange_nil (log : List Exchange) (clock : Nat) (r : Request) :
    Network.exchange ⟨.scripted [], log, clock⟩ r =
      (exhausted.response?, ⟨.scripted [], log ++ [⟨r, exhausted⟩], clock⟩) := rfl

/-- A peer writes the exchange down; where there is none, nothing happens. -/
theorem exchange_cases (n : Network) (r : Request) :
    (∃ answer, (n.exchange r).1 = answer.response? ∧ (n.exchange r).2.log = n.log ++ [⟨r, answer⟩]) ∨
      n.link = .unreachable ∧ n.exchange r = (none, n) := by
  rcases n with ⟨_ | _ | ⟨reply, rest⟩, log, clock⟩
  · exact .inr ⟨rfl, rfl⟩
  · exact .inl ⟨exhausted, rfl, rfl⟩
  · exact .inl ⟨reply.answer, rfl, rfl⟩

end ChatAgents.Http
