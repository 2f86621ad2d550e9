import ChatAgents.Http.Network
set_option autoImplicit false

namespace ChatAgents.Http

theorem remaining_exchange_lt {n n' : Network} {r : Request} {response : Response}
    (h : n.exchange r = (some response, n')) (ok : isSuccess response.status = true) :
    n'.remaining < n.remaining := by
  rcases n with ⟨link, log, clock⟩
  rcases link with _ | _ | ⟨reply, rest⟩
  · simp [Network.exchange] at h
  · obtain ⟨h, -⟩ : some _ = some response ∧ _ := by
      simpa [Network.exchange, exhausted, Answer.response?] using h
    cases h
    simp [isSuccess] at ok
  · simp only [Network.exchange, Prod.mk.injEq] at h
    simp [← h.2, Network.remaining]

theorem remaining_fetch_lt {n n' : Network} {d : Draft} {response : Response}
    (h : fetch d n = (.ok response, n')) (ok : isSuccess response.status = true) :
    n'.remaining < n.remaining := by
  unfold fetch at h
  split at h
  · simp at h
  · split at h
    · next heq =>
      simp only [Prod.mk.injEq, Except.ok.injEq] at h
      exact remaining_exchange_lt (by rw [heq, h.1, h.2]) ok
    · simp at h

theorem remaining_send_lt {n n' : Network} {d : Draft} {response : Response}
    (h : send d n = (.ok response, n')) : n'.remaining < n.remaining := by
  unfold send at h
  split at h
  · simp at h
  · next heq =>
    split at h
    · next ok =>
      simp only [Prod.mk.injEq, Except.ok.injEq] at h
      exact remaining_fetch_lt (by rw [heq, h.1, h.2]) (h.1 ▸ ok)
    · simp at h

theorem remaining_sendFor_lt {α : Type} {read : Json → Option α} {d : Draft} {n n' : Network}
    {a : α} (h : sendFor read d n = (.ok a, n')) : n'.remaining < n.remaining := by
  rw [sendFor, Work.bind_run] at h
  split at h
  · next heq =>
    simp only [Work.ofExcept, Prod.mk.injEq] at h
    exact h.2 ▸ remaining_send_lt heq
  · simp at h

theorem remaining_sendForEvents_lt {d : Draft} {n n' : Network} {feed : Feed}
    (h : sendForEvents d n = (.ok feed, n')) : n'.remaining < n.remaining := by
  rw [sendForEvents, Work.bind_run] at h
  split at h
  · next heq =>
    simp only [Work.pure_run, Prod.mk.injEq] at h
    exact h.2 ▸ remaining_send_lt heq
  · simp at h

end ChatAgents.Http
