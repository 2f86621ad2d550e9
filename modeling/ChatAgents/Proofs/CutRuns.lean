import ChatAgents.Proofs.CutRounds
import ChatAgents.Proofs.HostedSteps
set_option autoImplicit false

namespace ChatAgents

/-- From related worlds the second computation fails, or both give related results and leave related
worlds. -/
def Work.Follows {σ ε α β : Type} (worlds : σ → σ → Prop) (results : α → β → Prop)
    (x : Work σ ε α) (y : Work σ ε β) : Prop :=
  ∀ ⦃w w' : σ⦄, worlds w w' → (∃ e u', y w' = (.error e, u')) ∨
    ∃ v v' u u', x w = (.ok v, u) ∧ y w' = (.ok v', u') ∧ results v v' ∧ worlds u u'

namespace Work.Follows

variable {σ ε α β α' β' : Type} {worlds : σ → σ → Prop} {results : α → β → Prop}
  {results' : α' → β' → Prop}

theorem pure {v : α} {v' : β} (h : results v v') :
    Work.Follows (ε := ε) worlds results (Pure.pure v) (Pure.pure v') :=
  fun w w' related => .inr ⟨v, v', w, w', rfl, rfl, h, related⟩

theorem bind {x : Work σ ε α} {y : Work σ ε β} {f : α → Work σ ε α'} {g : β → Work σ ε β'}
    (first : Work.Follows worlds results x y)
    (then_ : ∀ v v', results v v' → Work.Follows worlds results' (f v) (g v')) :
    Work.Follows worlds results' (x >>= f) (y >>= g) := by
  intro w w' related
  rw [Work.bind_run, Work.bind_run]
  rcases first related with ⟨e, u', failed⟩ | ⟨v, v', u, u', got, got', same, next⟩
  · rw [failed]
    exact .inl ⟨e, u', rfl⟩
  · rw [got, got']
    exact then_ v v' same next

end Work.Follows

namespace Hosting

open Http (Draft Event Feed Network Reply Response)

def roundBody (events : List Event) : List UInt8 := Http.writeEvents (events ++ [closing])

/-- The same response, or one whose round breaks off. -/
inductive Breaks : Response → Response → Prop where
  | same (r : Response) : Breaks r r
  | cut {events : List Event} (reports : ∀ e ∈ events, Reports e) (order : MessagesFirst events)
    (status n : Nat) :
    Breaks ⟨status, roundBody events, true⟩ ⟨status, (roundBody events).take n, true⟩

inductive BreaksReply : Reply → Reply → Prop where
  | same (r : Reply) : BreaksReply r r
  | response {r r' : Response} (h : Breaks r r') (delay : Nat) :
    BreaksReply ⟨.response r, delay⟩ ⟨.response r', delay⟩

/-- Peers of which the second may let rounds break off. -/
structure PeersBreak (n n' : Network) : Prop where
  replies : ∃ replies replies', n.link = .scripted replies ∧ n'.link = .scripted replies' ∧
    List.Forall₂ BreaksReply replies replies'
  clock : n'.clock = n.clock

theorem Breaks.status_eq {r r' : Response} (h : Breaks r r') : r'.status = r.status := by
  cases h <;> rfl

theorem follows_send (d : Draft) :
    Work.Follows PeersBreak Breaks (Http.send d) (Http.send d) := by
  rintro ⟨_, log, _⟩ ⟨_, log', clock⟩ ⟨⟨replies, replies', rfl, rfl, related⟩, rfl⟩
  cases built : d.build with
  | error fault =>
    rw [Http.send_unbuilt built, Http.send_unbuilt built]
    exact .inl ⟨_, _, rfl⟩
  | ok q =>
    rw [Http.send_built built, Http.send_built built]
    cases related with
    | nil => exact .inl ⟨_, _, rfl⟩
    | @cons reply reply' rest rest' first more =>
      rw [Http.exchange_cons, Http.exchange_cons]
      have next : PeersBreak ⟨.scripted rest, log ++ [⟨q, reply.answer⟩], clock + reply.delay⟩
          ⟨.scripted rest', log' ++ [⟨q, reply'.answer⟩], clock + reply'.delay⟩ := by
        refine ⟨⟨rest, rest', rfl, rfl, more⟩, ?_⟩
        cases first <;> rfl
      cases first with
      | same =>
        dsimp only
        cases Http.outcome q reply.answer.response? with
        | error e => exact .inl ⟨e, _, rfl⟩
        | ok r => exact .inr ⟨r, r, _, _, rfl, rfl, .same r, next⟩
      | @response r r' breaks delay =>
        simp only [Http.Answer.response?, Http.outcome, breaks.status_eq]
        cases Http.isSuccess r.status with
        | false => exact .inl ⟨_, _, rfl⟩
        | true => exact .inr ⟨r, r', _, _, rfl, rfl, breaks, next⟩

theorem decodeLossy_of_decode? {bs : List UInt8} {cs : List Char}
    (h : Text.Utf8.decode? bs = some cs) : Text.Utf8.decodeLossy bs = cs := by
  rw [Text.Utf8.decode?] at h
  rw [Text.Utf8.decodeLossy]
  generalize Text.Utf8.decodeFrom .between bs = read at h
  induction read generalizing cs with
  | nil => exact Option.some.inj h
  | cons c read ih =>
    cases c with
    | none => simp [List.mapM_cons] at h
    | some c =>
      cases rest : read.mapM id with
      | none => simp [List.mapM_cons, rest] at h
      | some ds =>
        simp only [List.mapM_cons, rest, id, Option.bind_eq_bind, Option.bind_some,
          Option.pure_def, Option.some.injEq] at h
        rw [List.map_cons, ih rest, ← h]
        rfl

theorem document?_nameField_append (cs : List Char) :
    Json.document? Json.maxDepth (Http.Decoder.nameField ++ cs) = none := by
  have refused : Http.Decoder.nameField.foldlM (Json.Machine.step? Json.maxDepth)
      Json.Machine.start = none := rfl
  rw [Json.document?, Json.foldlM_step_append, refused]
  rfl

theorem document?_nameField_take {k : Nat} (lt : k < Http.Decoder.nameField.length) :
    Json.document? Json.maxDepth (Http.Decoder.nameField.take k) = none := by
  obtain rfl | rfl | rfl | rfl | rfl | rfl | rfl : k = 0 ∨ k = 1 ∨ k = 2 ∨ k = 3 ∨ k = 4 ∨
      k = 5 ∨ k = 6 := by
    change k < 7 at lt
    omega
  all_goals rfl

theorem roundBody_eq {events : List Event} (h : ∀ e ∈ events, Reports e) :
    ∃ text, roundBody events =
      (Http.Decoder.nameField ++ text).flatMap Text.Utf8.encodeChar := by
  have front : "event: ".toList = Http.Decoder.nameField := by decide
  have named {e : Event} {n : String} (name : e.name = some n) (rest : List Event) :
      ∃ text, Http.writeEvents (e :: rest) =
        (Http.Decoder.nameField ++ text).flatMap Text.Utf8.encodeChar := by
    refine ⟨n.toList ++ "\n".toList ++ "data: ".toList ++ e.data.toList ++ "\n\n".toList ++
      rest.flatMap (·.write.toList), ?_⟩
    simp only [Http.writeEvents, Text.Utf8.encode, Event.write, name, Option.elim_some,
      String.toList_append, front, List.flatMap_cons, List.flatMap_append, List.append_assoc,
      List.flatMap_assoc]
  cases events with
  | nil => exact named rfl []
  | cons e rest =>
    obtain ⟨n, name, -⟩ := (h e List.mem_cons_self).named
    exact named name (rest ++ [closing])

theorem read?_cut {α : Type} {events : List Event} (h : ∀ e ∈ events, Reports e)
    (status n : Nat) (read : Json → Option α) :
    Response.read? ⟨status, (roundBody events).take n, true⟩ read = none := by
  obtain ⟨text, body⟩ := roundBody_eq h
  rw [Response.read?, if_pos rfl, Option.bind_eq_none_iff]
  intro cs decoded
  have cut := Text.Utf8.cut_take (Http.Decoder.nameField ++ text) n
  rw [← body, decodeLossy_of_decode? decoded] at cut
  rcases cut.append_cases (by decide) with ⟨k, lt, rfl⟩ | ⟨y, rfl, -⟩
  · rw [Json.readText?, document?_nameField_take lt]
    rfl
  · rw [Json.readText?, document?_nameField_append]
    rfl

theorem follows_sendFor {α : Type} (read : Json → Option α) (d : Draft) :
    Work.Follows PeersBreak Eq (Http.sendFor read d) (Http.sendFor read d) := by
  refine (follows_send d).bind fun r r' breaks w w' related => ?_
  cases breaks with
  | same =>
    rw [Work.ofExcept, Work.ofExcept]
    cases r.decode read with
    | error e => exact .inl ⟨e, w', rfl⟩
    | ok v => exact .inr ⟨v, v, w, w', rfl, rfl, rfl, related⟩
  | @cut events reports _ status n =>
    rw [Work.ofExcept, Response.decode, read?_cut reports]
    exact .inl ⟨_, w', rfl⟩

def FeedBreaks (f f' : Feed) : Prop :=
  f' = f ∨ ∃ events seen, (∀ e ∈ events, Reports e) ∧ MessagesFirst events ∧
    Http.CutEvents (events ++ [closing]) seen ∧ f = ⟨events ++ [closing], none⟩ ∧ f' = ⟨seen, none⟩

theorem oneLine_round {events : List Event} (h : ∀ e ∈ events, Reports e) :
    ∀ e ∈ events ++ [closing], e.OneLine := by
  intro e he
  rcases List.mem_append.1 he with he | he
  · exact (h e he).oneLine
  · obtain rfl := List.mem_singleton.1 he
    refine ⟨?_, by decide⟩
    intro n name
    obtain rfl := Option.some.inj name
    decide

theorem Breaks.feed {r r' : Response} (h : Breaks r r') : FeedBreaks r.feed r'.feed := by
  cases h with
  | same => exact .inl rfl
  | @cut events reports order status n =>
    have lined := oneLine_round reports
    refine .inr ⟨events, _, reports, order, Http.cutEvents_decodeBody lined n, ?_, rfl⟩
    change Feed.mk (Http.decodeBody _) none = _
    rw [roundBody, Http.decodeBody_writeEvents lined]

theorem follows_sendForEvents (d : Draft) :
    Work.Follows PeersBreak FeedBreaks (Http.sendForEvents d) (Http.sendForEvents d) :=
  (follows_send d).bind fun _ _ breaks => .pure breaks.feed

theorem follows_ask {γ : Type} {o : Operation} {reading : Reading γ} (c : Config)
    (whole : reading.isEvents = false) :
    Work.Follows PeersBreak Eq (o.ask reading c) (o.ask reading c) := by
  cases reading with
  | nothing => exact (follows_send _).bind fun _ _ _ => .pure rfl
  | record read => exact follows_sendFor read _
  | events => cases whole

end Hosting

open Hosting (FeedBreaks Operation PeersBreak Round)

structure HostState.Breaks (w w' : HostState) : Prop where
  peers : PeersBreak w.network w'.network
  agentId : w'.agentId = w.agentId
  thread : w'.thread = w.thread

theorem HostState.follows_call {α β : Type} {results : α → β → Prop}
    {x : Http.Calls RemoteError α} {y : Http.Calls RemoteError β}
    (h : Work.Follows PeersBreak results x y) :
    Work.Follows HostState.Breaks results (HostState.call x) (HostState.call y) := by
  intro w w' related
  rw [HostState.call_run, HostState.call_run]
  rcases h related.peers with ⟨e, u', failed⟩ | ⟨v, v', u, u', got, got', same, next⟩
  · rw [failed]
    exact .inl ⟨.remote e, _, rfl⟩
  · rw [got, got']
    exact .inr ⟨v, v', _, _, rfl, rfl, same, next, related.agentId, related.thread⟩

theorem HostState.remote_of_call {α : Type} {x : Http.Calls RemoteError α} {w u : HostState}
    {e : AgentError} (h : HostState.call x w = (.error e, u)) : ∃ r, e.remote? = some r := by
  rw [call_run] at h
  obtain ⟨failed, -⟩ := Prod.mk.inj h
  rcases result : (x w.network).1 with r | v <;> rw [result] at failed
  · obtain rfl := Except.error.inj failed
    exact ⟨r, rfl⟩
  · cases failed

namespace PersistentAgent

theorem remote_of_create {a : PersistentAgent} {w u : HostState} {e : AgentError}
    (h : a.create w = (.error e, u)) : ∃ r, e.remote? = some r := by
  cases known : w.agentId with
  | some id =>
    rw [create_known known] at h
    cases h
  | none =>
    rw [create_unknown known] at h
    rcases called : HostState.call
      ((Operation.createAgent a.definition).performFor Hosting.readId? a.config) w with ⟨e' | _, _⟩
    · rw [called] at h
      obtain ⟨same, -⟩ := Prod.mk.inj h
      exact Except.error.inj same ▸ HostState.remote_of_call called
    · rw [called] at h
      cases h

variable (a : PersistentAgent)

theorem follows_create : Work.Follows HostState.Breaks Eq a.create a.create := by
  intro w w' related
  cases known : w.agentId with
  | some id =>
    rw [create_known known, create_known (related.agentId.trans known)]
    exact .inr ⟨id, id, w, w', rfl, rfl, rfl, related⟩
  | none =>
    rw [create_unknown known, create_unknown (related.agentId.trans known)]
    rcases HostState.follows_call (Hosting.follows_sendFor Hosting.readId?
      ((Operation.createAgent a.definition).draft a.config)) related with
      ⟨e, u', failed⟩ | ⟨id, _, u, u', got, got', rfl, next⟩
    · rw [Operation.performFor, failed]
      exact .inl ⟨e, u', rfl⟩
    · rw [Operation.performFor, got, got']
      exact .inr ⟨id, id, _, _, rfl, rfl, rfl, next.peers, rfl, next.thread⟩

end PersistentAgent

/-- Where nothing is streamed, a request fails, or the peers make no difference. -/
theorem Steps.follows {a : PersistentAgent} {fine : String → Prop} {β : Type}
    {told : β → Option RemoteError} {n : Nat} {x : HostState → β × HostState}
    (h : Steps a fine (fun o => o.streams = false) told n x) {w w' : HostState}
    (few : w.remaining ≤ n) (names : w.Names fine) (related : w.Breaks w') :
    told (x w').1 ≠ none ∨ ∃ v u u', x w = (v, u) ∧ x w' = (v, u') ∧ HostState.Breaks u u' := by
  have stopped {e : AgentError} {v : β} (remote : ∃ r, e.remote? = some r)
      (reports : told v = e.remote?) : told v ≠ none := by
    obtain ⟨r, remote⟩ := remote
    rw [reports, remote]
    exact Option.some_ne_none r
  refine Steps.from_world (P := fun x w => ∀ w', w.Breaks w' → told (x w').1 ≠ none ∨
    ∃ v u u', x w = (v, u) ∧ x w' = (v, u') ∧ HostState.Breaks u u')
    ?_ ?_ ?_ ?_ ?_ ?_ h few names w' related
  · exact fun v w _ w' related => .inr ⟨v, w, w', rfl, rfl, related⟩
  · intro k w later w' related
    dsimp only
    rw [related.peers.clock]
    exact later w' related
  · intro x milliseconds w later w' related
    exact later _ ⟨⟨related.peers.replies, congrArg (· + milliseconds) related.peers.clock⟩,
      related.agentId, related.thread⟩
  · exact fun x id w _ later w' related => later _ ⟨related.peers, related.agentId, rfl⟩
  · intro fail f w reports next w' related
    unfold Work.andThen
    rcases a.follows_create related with ⟨e, u', failed⟩ | ⟨id, _, u, u', got, got', rfl, worlds⟩
    · rw [failed]
      exact .inl (stopped (PersistentAgent.remote_of_create failed) (reports e))
    · rw [got, got']
      exact next id u got u' worlds
  · intro γ o reading fail f w plain whole reports next w' related
    unfold Work.andThen
    rcases HostState.follows_call (Hosting.follows_ask a.config (whole.trans plain)) related with
      ⟨e, u', failed⟩ | ⟨v, _, u, u', got, got', rfl, worlds⟩
    · rw [failed]
      exact .inl (stopped (HostState.remote_of_call failed) (reports e))
    · rw [got, got']
      exact next v u got u' worlds

namespace PersistentAgent

variable (a : PersistentAgent)

theorem follows_prepare (messages : List ChatMessage) :
    Work.Follows HostState.Breaks Eq (a.prepare messages) (a.prepare messages) := by
  intro w w' related
  have steps : Steps a (fun _ => True) (fun o => o.streams = false) _ w.remaining
      (a.prepare messages) := steps_prepare_only messages fun o fills => by
    cases o <;> first | rfl | exact fills.elim
  rcases steps.follows (Nat.le_refl _) w.names_any related with
    failed | ⟨e | ids, u, u', got, got', worlds⟩
  · rcases prepared : a.prepare messages w' with ⟨e | ids, u'⟩
    · exact .inl ⟨e, u', rfl⟩
    · rw [prepared] at failed
      exact absurd rfl failed
  · exact .inl ⟨e, u', got'⟩
  · exact .inr ⟨ids, ids, u, u', got, got', rfl, worlds⟩

theorem follows_openStream (messages : List ChatMessage) (o : RunOptions) :
    Work.Follows HostState.Breaks (fun v v' => v'.1 = v.1 ∧ FeedBreaks v.2 v'.2)
      (a.openStream messages o) (a.openStream messages o) := by
  rw [openStream_eq_prepare]
  refine (a.follows_prepare messages).bind fun ids _ same => ?_
  subst same
  exact (HostState.follows_call (Hosting.follows_sendForEvents _)).bind fun _ _ feeds =>
    .pure ⟨rfl, feeds⟩

variable {a}

theorem follows_nextRound (threadId : String) (run : Hosting.Run) :
    Work.Follows HostState.Breaks FeedBreaks (a.nextRound threadId run) (a.nextRound threadId run) :=
  HostState.follows_call (Hosting.follows_sendForEvents _)

theorem items_streamRounds_of_reports (threadId : String) (answered : Bool) {feed : Http.Feed}
    (w : HostState) (h : ∀ run, (Round.ofFeed feed).ending ≠ .action run) :
    (a.streamRounds threadId answered feed w).items = (Round.ofFeed feed).updates := by
  have told : a.roundUpdates (Round.ofFeed feed) = (Round.ofFeed feed).updates := by
    rw [roundUpdates]
    cases ending : (Round.ofFeed feed).ending with
    | action run => exact absurd ending (h run)
    | finished | failed _ => rfl
  cases ending : (Round.ofFeed feed).ending with
  | action run => exact absurd ending (h run)
  | finished =>
    rw [streamRounds_finished ending, Progress.items, map_roundDelivered, told]
  | failed e =>
    rw [streamRounds_failed ending, Progress.items, map_roundDelivered, told]

/-- Rounds of which some break off make the run fail, or tell the consumer the same. -/
theorem streamRounds_breaks (threadId : String) (answered answered' : Bool)
    {feed feed' : Http.Feed} {w w' : HostState} (related : w.Breaks w')
    (feeds : FeedBreaks feed feed') :
    (∃ e, (a.streamRounds threadId answered' feed' w').result = .error e) ∨
      (a.streamRounds threadId answered' feed' w').items.filter Update.speaks =
        (a.streamRounds threadId answered feed w).items.filter Update.speaks := by
  -- on the replies still to come: every further round uses up one of them
  induction left : w'.remaining using Nat.strongRecOn
    generalizing answered answered' feed feed' w w' with
  | ind left_now ih =>
    rcases feeds with rfl | ⟨events, seen, reports, order, cut, rfl, rfl⟩
    · cases ending : (Round.ofFeed feed').ending with
      | finished =>
        rw [streamRounds_finished ending, streamRounds_finished ending, Progress.items,
          Progress.items, map_roundDelivered, map_roundDelivered]
        exact .inr rfl
      | failed e =>
        rw [streamRounds_failed ending]
        exact .inl ⟨_, rfl⟩
      | action run =>
        rw [streamRounds_action ending, streamRounds_action ending]
        rcases follows_nextRound threadId run related with
          ⟨e, u', failed⟩ | ⟨next, next', u, u', got, got', feeds, worlds⟩
        · rw [failed]
          exact .inl ⟨e, rfl⟩
        · rw [got, got']
          dsimp only
          have fewer : u'.remaining < left_now := left ▸ remaining_nextRound_lt got'
          rcases ih _ fewer (answered || (Round.ofFeed feed').answered)
            (answered' || (Round.ofFeed feed').answered) worlds feeds rfl with failed | told
          · exact .inl failed
          · refine .inr ?_
            rw [Progress.items_prepend, Progress.items_prepend, map_roundDelivered,
              map_roundDelivered, List.filter_append, List.filter_append, told]
    · -- a round that breaks off asks for nothing, so that both runs end with it
      have whole := items_streamRounds_of_reports (a := a) threadId answered w
        (Round.ending_ne_action_of_reports reports)
      rcases Round.tells_of_cut_closing reports order cut with ⟨e, failed⟩ | ⟨finished, told⟩
      · rw [streamRounds_failed failed]
        exact .inl ⟨_, rfl⟩
      · have ends (run : Hosting.Run) : (Round.ofFeed ⟨seen, none⟩).ending ≠ .action run := by
          intro asks
          cases finished.symm.trans asks
        have part := items_streamRounds_of_reports (a := a) threadId answered' w' ends
        refine .inr ?_
        rw [part]
        exact told.trans (congrArg _ whole.symm)

theorem runStreaming_breaks (a : PersistentAgent) (messages : List ChatMessage) (o : RunOptions)
    {w w' : HostState} (related : w.Breaks w') :
    (∃ e, (a.runStreaming messages o w').result = .error e) ∨
      (a.runStreaming messages o w').items.filter Update.speaks =
        (a.runStreaming messages o w).items.filter Update.speaks := by
  rw [a.runStreaming_run messages o w, a.runStreaming_run messages o w']
  rcases a.follows_openStream messages o related with
    ⟨e, u', failed⟩ | ⟨⟨threadId, feed⟩, ⟨threadId', feed'⟩, u, u', got, got', ⟨same, feeds⟩, worlds⟩
  · rw [failed]
    exact .inl ⟨e, rfl⟩
  · obtain rfl : threadId' = threadId := same
    rw [got, got']
    dsimp only
    rw [a.items_conclude, a.items_conclude]
    rcases streamRounds_breaks threadId' false false worlds feeds with ⟨e, failed⟩ | told
    · exact .inl ⟨e, by rw [conclude, failed]⟩
    · exact .inr told

end PersistentAgent

namespace AgentResponse

def sansUsage (r : AgentResponse) : AgentResponse := { r with usage := none }

theorem applyAll_sansUsage (r : AgentResponse) (updates : List Update) :
    (r.applyAll updates).sansUsage = r.sansUsage.applyAll (updates.filter Update.speaks) := by
  induction updates generalizing r with
  | nil => rfl
  | cons u us ih =>
    rw [applyAll_cons, ih]
    cases u <;> rfl

theorem ofUpdates_of_speaks {us vs : List Update}
    (h : us.filter Update.speaks = vs.filter Update.speaks) :
    (ofUpdates us).sansUsage = (ofUpdates vs).sansUsage := by
  rw [ofUpdates, ofUpdates, applyAll_sansUsage, applyAll_sansUsage, h]

end AgentResponse

/-- A body that breaks off is never taken for a shorter answer. A stream of chunks fails, ends with a
fault or makes the answer of the whole body but for its usage; a run whose rounds break off fails or
has told the consumer the same texts and citations. -/
theorem cut_off_is_no_answer :
    (∀ (c : ChatCompletions.Config) (r : ModelRequest) (lines : List String)
      (bodies : List ChatCompletions.ChunkBody), List.Forall₂ ChatCompletions.Holds lines bodies →
      ChatCompletions.FinishesLast bodies →
      ∀ (status delay : Nat) (rest : List Http.Reply) (n : Nat),
        let body := Http.writeEvents (ChatCompletions.chunkEvents lines)
        let served := fun body =>
          (ChatCompletions.stream c r (ChatCompletions.peer status delay rest body)).1
        (∃ e, served (body.take n) = .error e) ∨
          ∃ s, served (body.take n) = .ok s ∧
            (s.fault ≠ none ∨
              ∃ whole, served body = .ok whole ∧ whole.fault = none ∧
                s.toCompletion.map Completion.sansUsage =
                  whole.toCompletion.map Completion.sansUsage)) ∧
      ∀ (a : PersistentAgent) (messages : List ChatMessage) (o : RunOptions)
        (agentId : Option String) (replies replies' : List Http.Reply),
        List.Forall₂ Hosting.BreaksReply replies replies' →
        let against := fun replies =>
          a.runStreaming messages o ⟨.connect (.scripted replies), agentId, none⟩
        (∃ e, (against replies').result = .error e) ∨
          (AgentResponse.ofUpdates (against replies').items).sansUsage =
            (AgentResponse.ofUpdates (against replies).items).sansUsage := by
  refine ⟨?_, ?_⟩
  · intro c r lines bodies holds order status delay rest n
    dsimp only
    rcases streamed : (ChatCompletions.stream c r (ChatCompletions.peer status delay rest
      ((Http.writeEvents (ChatCompletions.chunkEvents lines)).take n))).1 with e | s
    · exact .inl ⟨e, rfl⟩
    · refine .inr ⟨s, rfl, ?_⟩
      by_cases faultless : s.fault = none
      · exact .inr (ChatCompletions.stream_cut c r holds order status delay rest n streamed faultless)
      · exact .inl faultless
  · intro a messages o agentId replies replies' broken
    have related : HostState.Breaks ⟨.connect (.scripted replies), agentId, none⟩
        ⟨.connect (.scripted replies'), agentId, none⟩ :=
      ⟨⟨⟨replies, replies', rfl, rfl, broken⟩, rfl⟩, rfl, rfl⟩
    rcases a.runStreaming_breaks messages o related with failed | told
    · exact .inl failed
    · exact .inr (AgentResponse.ofUpdates_of_speaks told)

def greetingLines : List String :=
  ["\x7b\"choices\":[\x7b\"delta\":\x7b\"content\":\"Hi\"\x7d\x7d]\x7d",
    "\x7b\"choices\":[\x7b\"finish_reason\":\"stop\"\x7d]\x7d"]

def greetingBodies : List ChatCompletions.ChunkBody :=
  [⟨[⟨some ⟨some "Hi", [], []⟩, none⟩], none⟩, ⟨[⟨none, some "stop"⟩], none⟩]

set_option maxRecDepth 4096 in
theorem holds_greeting : List.Forall₂ ChatCompletions.Holds greetingLines greetingBodies := by
  refine .cons ⟨by decide +kernel, ?_, ?_⟩ (.cons ⟨by decide +kernel, ?_, ?_⟩ .nil)
  · exact ⟨_, rfl⟩
  · decide +kernel
  · exact ⟨_, rfl⟩
  · decide +kernel

theorem finishesLast_greeting : ChatCompletions.FinishesLast greetingBodies := by
  simp [ChatCompletions.FinishesLast, greetingBodies, ChatCompletions.ChunkBody.finishes]

def greetingRound : List Http.Event :=
  [⟨some "thread.message.delta",
      "\x7b\"delta\":\x7b\"content\":[\x7b\"type\":\"text\",\"text\":\x7b\"value\":\"Hi\"\x7d\x7d]\x7d\x7d"⟩,
    ⟨some "thread.run.completed", "\x7b\"id\":\"r\",\"status\":\"completed\"\x7d"⟩]

set_option maxRecDepth 4096 in
theorem reports_greeting : ∀ e ∈ greetingRound, Hosting.Reports e := by
  intro e he
  simp only [greetingRound, List.mem_cons, List.not_mem_nil, or_false] at he
  rcases he with rfl | rfl
  · refine ⟨⟨_, rfl, .inl ⟨"message.delta".toList, rfl⟩⟩, ⟨?_, by decide +kernel⟩, ⟨_, rfl⟩, by decide⟩
    rintro n name
    obtain rfl := Option.some.inj name
    decide +kernel
  · refine ⟨⟨_, rfl, .inl ⟨"run.completed".toList, rfl⟩⟩, ⟨?_, by decide +kernel⟩, ⟨_, rfl⟩, by decide⟩
    rintro n name
    obtain rfl := Option.some.inj name
    decide +kernel

theorem messagesFirst_greeting : Hosting.MessagesFirst greetingRound := by
  refine List.pairwise_cons.2 ⟨fun _ _ completed => ?_, List.pairwise_singleton _ _⟩
  exact absurd completed (by decide)

def greetingReplies (body : List UInt8) : List Http.Reply :=
  [⟨.response ⟨200, Text.Utf8.encode "\x7b\"id\":\"t\"\x7d", true⟩, 0⟩, ⟨.response ⟨200, body, true⟩, 0⟩]

theorem breaks_greeting (n : Nat) :
    List.Forall₂ Hosting.BreaksReply (greetingReplies (Hosting.roundBody greetingRound))
      (greetingReplies ((Hosting.roundBody greetingRound).take n)) :=
  .cons (.same _) (.cons
    (.response (.cut reports_greeting messagesFirst_greeting 200 n) 0) .nil)

theorem cut_off_greeting_is_no_answer :
    (List.Forall₂ ChatCompletions.Holds greetingLines greetingBodies ∧
      ChatCompletions.FinishesLast greetingBodies ∧
      let body := Http.writeEvents (ChatCompletions.chunkEvents greetingLines)
      let served := fun body => (ChatCompletions.stream (.openAi "key" "model")
        ⟨[], [], .none, ⟨none, none⟩⟩ (ChatCompletions.peer 200 0 [] body)).1
      (∃ e, served (body.take 60) = .error e) ∨
        ∃ s, served (body.take 60) = .ok s ∧
          (s.fault ≠ none ∨
            ∃ whole, served body = .ok whole ∧ whole.fault = none ∧
              s.toCompletion.map Completion.sansUsage =
                whole.toCompletion.map Completion.sansUsage)) ∧
      let replies := greetingReplies (Hosting.roundBody greetingRound)
      let replies' := greetingReplies ((Hosting.roundBody greetingRound).take 100)
      let a : PersistentAgent :=
        ⟨.new "https://host/project" "model" "token", "agent", none, "model", .empty, some "a"⟩
      let against := fun replies =>
        a.runStreaming [] .default ⟨.connect (.scripted replies), some "a", none⟩
      List.Forall₂ Hosting.BreaksReply replies replies' ∧
        ((∃ e, (against replies').result = .error e) ∨
          (AgentResponse.ofUpdates (against replies').items).sansUsage =
            (AgentResponse.ofUpdates (against replies).items).sansUsage) :=
  ⟨⟨holds_greeting, finishesLast_greeting,
      cut_off_is_no_answer.1 (.openAi "key" "model") ⟨[], [], .none, ⟨none, none⟩⟩ greetingLines
        greetingBodies holds_greeting finishesLast_greeting 200 0 [] 60⟩,
    breaks_greeting 100,
    cut_off_is_no_answer.2
      ⟨.new "https://host/project" "model" "token", "agent", none, "model", .empty, some "a"⟩ []
      .default (some "a") _ _ (breaks_greeting 100)⟩

end ChatAgents
