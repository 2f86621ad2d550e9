import ChatAgents.Proofs.EventFeeds
set_option autoImplicit false

namespace ChatAgents

open Http (Answer Event Exchange Feed Network)

namespace ChatCompletions

structure Bears (e : Event) (b : ChunkBody) : Prop where
  unnamed : e.name ≠ some "done"
  unmarked : e.data ≠ "[DONE]"
  data : Json.readText? readChunkBody? e.data.toList = some b

/-- How the events end that are read of these, with the fault that there is then. -/
inductive EndsAt (fault : Option RemoteError) (events read : List Event) (bodies : List ChunkBody) :
    Option RemoteError → Prop
  | done {e : Event} {rest : List Event} (split : events = read ++ e :: rest)
      (mark : e.name = some "done" ∨ e.data = "[DONE]") : EndsAt fault events read bodies none
  | unreadable {e : Event} {rest : List Event} (split : events = read ++ e :: rest)
      (unnamed : e.name ≠ some "done") (unmarked : e.data ≠ "[DONE]")
      (unread : Json.readText? readChunkBody? e.data.toList = none) :
      EndsAt fault events read bodies
        (some (.response ("invalid stream chunk: " ++ malformedJson)))
  | broken {err : RemoteError} (whole : events = read) (broken : fault = some err) :
      EndsAt fault events read bodies (some err)
  | finished (whole : events = read) (unbroken : fault = none)
      (reason : ∃ b ∈ bodies, ∃ choice ∈ b.choices, choice.finishReason ≠ none) :
      EndsAt fault events read bodies none
  | cutShort (whole : events = read) (unbroken : fault = none)
      (unfinished : ∀ b ∈ bodies, ∀ choice ∈ b.choices, choice.finishReason = none) :
      EndsAt fault events read bodies (some .endedEarly)

/-- The stream is complete: it reached the mark of the end, or its end after a reason to finish. -/
def Complete (fault : Option RemoteError) (events read : List Event) (bodies : List ChunkBody) :
    Prop :=
  (∃ e rest, events = read ++ e :: rest ∧ (e.name = some "done" ∨ e.data = "[DONE]")) ∨
    events = read ∧ fault = none ∧ ∃ b ∈ bodies, ∃ choice ∈ b.choices, choice.finishReason ≠ none

variable {fault ending : Option RemoteError} {events read : List Event} {bodies : List ChunkBody}

theorem finishes_iff (b : ChunkBody) :
    b.finishes = true ↔ ∃ choice ∈ b.choices, choice.finishReason ≠ none := by
  simp [ChunkBody.finishes, Option.isSome_iff_ne_none]

theorem chunkStream_bears (h : List.Forall₂ Bears read bodies) (fault : Option RemoteError)
    (finished : Bool) (rest : List Event) :
    chunkStream fault finished (read ++ rest) =
      (chunkStream fault (finished || bodies.any ChunkBody.finishes) rest).prepend
        (bodies.flatMap ChunkBody.toChunks) := by
  induction h generalizing finished with
  | nil => simp [ChunkStream.prepend]
  | @cons e b read bodies first _ ih =>
    rw [List.cons_append, chunkStream, Event.isDone_eq_false first.unnamed first.unmarked,
      if_neg Bool.false_ne_true, first.data]
    dsimp only
    rw [ih]
    simp [ChunkStream.prepend, Bool.or_assoc]

theorem any_finishes : bodies.any ChunkBody.finishes = true ↔
    ∃ b ∈ bodies, ∃ choice ∈ b.choices, choice.finishReason ≠ none := by
  simp only [List.any_eq_true, finishes_iff]

theorem EndsAt.chunkStream_eq (h : List.Forall₂ Bears read bodies)
    (ends : EndsAt fault events read bodies ending) :
    chunkStream fault false events = ⟨bodies.flatMap ChunkBody.toChunks, ending⟩ := by
  have whole (same : events = read) : events = read ++ [] := by rw [same, List.append_nil]
  cases ends with
  | done split mark =>
    rw [split, chunkStream_bears h, chunkStream, if_pos (Event.isDone_iff.2 mark)]
    simp [ChunkStream.prepend]
  | unreadable split unnamed unmarked unread =>
    rw [split, chunkStream_bears h, chunkStream, Event.isDone_eq_false unnamed unmarked,
      if_neg Bool.false_ne_true, unread]
    simp [ChunkStream.prepend]
  | broken same broken =>
    rw [whole same, chunkStream_bears h, broken]
    simp [chunkStream, ChunkStream.prepend]
  | finished same unbroken reason =>
    rw [whole same, chunkStream_bears h, unbroken, any_finishes.2 reason]
    simp [chunkStream, ChunkStream.prepend]
  | cutShort same unbroken unfinished =>
    have none_finishes : bodies.any ChunkBody.finishes = false := by
      rw [← Bool.not_eq_true, any_finishes]
      rintro ⟨b, hb, choice, hc, reason⟩
      exact reason (unfinished b hb choice hc)
    rw [whole same, chunkStream_bears h, unbroken, none_finishes]
    simp [chunkStream, ChunkStream.prepend]

theorem EndsAt.complete_iff (h : List.Forall₂ Bears read bodies)
    (ends : EndsAt fault events read bodies ending) :
    ending = none ↔ Complete fault events read bodies := by
  constructor
  · rintro rfl
    generalize none_left : (none : Option RemoteError) = left at ends
    cases ends with
    | done split mark => exact .inl ⟨_, _, split, mark⟩
    | unreadable => cases none_left
    | broken => cases none_left
    | finished same unbroken reason => exact .inr ⟨same, unbroken, reason⟩
    | cutShort => cases none_left
  · have stream := ends.chunkStream_eq h
    rintro (⟨e, rest, split, mark⟩ | ⟨same, unbroken, reason⟩)
    · have done : EndsAt fault events read bodies none := .done split mark
      rw [done.chunkStream_eq h] at stream
      exact (congrArg ChunkStream.fault stream).symm
    · have finished : EndsAt fault events read bodies none := .finished same unbroken reason
      rw [finished.chunkStream_eq h] at stream
      exact (congrArg ChunkStream.fault stream).symm

theorem bears_or_stops (e : Event) :
    (∃ b, Bears e b) ∨ e.isDone = true ∨ Json.readText? readChunkBody? e.data.toList = none := by
  by_cases done : e.isDone = true
  · exact .inr (.inl done)
  · cases data : Json.readText? readChunkBody? e.data.toList with
    | none => exact .inr (.inr rfl)
    | some b =>
      rw [Event.isDone_iff, not_or] at done
      exact .inl ⟨b, done.1, done.2, data⟩

theorem exists_endsAt (fault : Option RemoteError) (events : List Event) :
    ∃ read bodies ending, List.Forall₂ Bears read bodies ∧
      EndsAt fault events read bodies ending := by
  obtain ⟨read, bodies, bears, whole | ⟨e, rest, split, stop⟩⟩ := exists_front bears_or_stops events
  · cases broken : fault with
    | some err => exact ⟨read, bodies, _, bears, .broken whole rfl⟩
    | none =>
      by_cases reason : ∃ b ∈ bodies, ∃ choice ∈ b.choices, choice.finishReason ≠ none
      · exact ⟨read, bodies, _, bears, .finished whole rfl reason⟩
      · refine ⟨read, bodies, _, bears, .cutShort whole rfl fun b hb choice hc => ?_⟩
        exact by_contra fun finishes => reason ⟨b, hb, choice, hc, finishes⟩
  · by_cases done : e.name = some "done" ∨ e.data = "[DONE]"
    · exact ⟨read, bodies, _, bears, .done split done⟩
    · have unread := stop.resolve_left (mt Event.isDone_iff.1 done)
      rw [not_or] at done
      exact ⟨read, bodies, _, bears, .unreadable split done.1 done.2 unread⟩

def chunksOf (feed : Feed) : ChunkStream := chunkStream feed.fault false feed.events

theorem stream_cases (c : Config) (r : ModelRequest) (n : Network) :
    (∃ e feed n', stream c r n = (.ok (chunksOf feed), n') ∧
      (c.draft r true).Brings (n.answerAfter 0) e feed ∧ n'.log = n.log ++ [e] ∧
      ∀ k, n'.answerAfter k = n.answerAfter (k + 1)) ∨
    ∃ err l n', stream c r n = (.error err, n') ∧ (c.draft r true).Fails (n.answerAfter 0) err l ∧
      n'.log = n.log ++ l := by
  rw [stream, Work.bind_run]
  rcases Http.sendForEvents_cases (c.draft r true) n with
    ⟨e, feed, n', sent, brings, log, answers⟩ | ⟨err, l, n', sent, fails, log⟩
  · rw [sent]
    exact .inl ⟨e, feed, n', rfl, brings, log, answers⟩
  · rw [sent]
    exact .inr ⟨err, l, n', rfl, fails, log⟩

end ChatCompletions

namespace ChatAgent

open ChatCompletions (Config chunksOf)

/-- A turn whose answer ended well and asked for tools. -/
structure Turn where
  exchange : Exchange
  feed : Feed
  completion : Completion

structure Turn.GoesOn (t : Turn) (c : Config) (r : ModelRequest) (answer : Option Answer) :
    Prop where
  brings : (c.draft r true).Brings answer t.exchange t.feed
  completes : (chunksOf t.feed).toCompletion = .ok t.completion
  asks : t.completion.calls ≠ []

variable (a : ChatAgent Network) (c : Config) (o : RunOptions)

def exchangesIn (t : Turn) : List ToolExchange :=
  t.completion.calls.map fun call => ⟨call, a.registry.execute call⟩

/-- What is handed over in a turn: the pieces of its answer, and its calls with their results. -/
def toldIn (t : Turn) : List Update :=
  (chunksOf t.feed).chunks.filterMap updateOf? ++ (a.exchangesIn t).flatMap ToolExchange.updates

def historyBehind (history : List ModelMessage) : List Turn → List ModelMessage
  | [] => history
  | t :: turns =>
    historyBehind (history ++ t.completion.toMessage :: a.resultsOf t.completion.calls) turns

/-- How a run ends with its last request, or without one more, when so many were left: the chunks
that came of it, the result, and the exchanges that it took. -/
inductive Ends (r : ModelRequest) (answer : Option Answer) :
    Nat → List Chunk → Except AgentError Unit → List Exchange → Prop
  | answered {e : Exchange} {feed : Feed} {completion : Completion} {left : Nat}
      (brings : (c.draft r true).Brings answer e feed)
      (completes : (chunksOf feed).toCompletion = .ok completion) (quiet : completion.calls = []) :
      Ends r answer (left + 1) (chunksOf feed).chunks (.ok ()) [e]
  | failed {e : Exchange} {feed : Feed} {err : RemoteError} {left : Nat}
      (brings : (c.draft r true).Brings answer e feed)
      (fails : (chunksOf feed).toCompletion = .error err) :
      Ends r answer (left + 1) (chunksOf feed).chunks (.error (.remote err)) [e]
  | unanswered {err : RemoteError} {l : List Exchange} {left : Nat}
      (fails : (c.draft r true).Fails answer err l) :
      Ends r answer (left + 1) [] (.error (.remote err)) l
  | exhausted : Ends r answer 0 [] (.error (.maxIterations a.maxIterations)) []

/-- From a history on, with `n` requests left, a run is a row of turns and its end; this is what it
hands over, executes and sends. -/
def Unfolds (n : Nat) (history : List ModelMessage) (w : ChatWorld Network)
    (p : Progress Update (ChatWorld Network) AgentError Unit) (turns : List Turn)
    (pieces : List Chunk) (final : List Exchange) : Prop :=
  turns.length ≤ n ∧
    (∀ k (t : Turn), turns[k]? = some t →
      t.GoesOn c (a.request o (a.historyBehind history (turns.take k))) (w.service.answerAfter k)) ∧
    a.Ends c (a.request o (a.historyBehind history turns)) (w.service.answerAfter turns.length)
      (n - turns.length) pieces p.result final ∧
    p.items = turns.flatMap a.toldIn ++ pieces.filterMap updateOf? ∧
    p.world.executed = w.executed ++ turns.flatMap (·.completion.calls) ∧
    p.world.service.log = w.service.log ++ turns.map Turn.exchange ++ final

variable {a c o} {n : Nat} {history : List ModelMessage} {w : ChatWorld Network}
  {p : Progress Update (ChatWorld Network) AgentError Unit}

theorem Unfolds.ended {pieces : List Chunk} {final : List Exchange}
    (ends : a.Ends c (a.request o history) (w.service.answerAfter 0) n pieces p.result final)
    (items : p.items = pieces.filterMap updateOf?) (executed : p.world.executed = w.executed)
    (log : p.world.service.log = w.service.log ++ final) :
    a.Unfolds c o n history w p [] pieces final := by
  refine ⟨Nat.zero_le n, fun k t at_k => ?_, ends, items, ?_, ?_⟩
  · cases at_k
  · rw [executed, List.flatMap_nil, List.append_nil]
  · rw [log, List.map_nil, List.append_nil]

theorem Unfolds.step {t : Turn} {turns : List Turn} {pieces : List Chunk} {final : List Exchange}
    {w' : ChatWorld Network} {q : Progress Update (ChatWorld Network) AgentError Unit}
    (first : t.GoesOn c (a.request o history) (w.service.answerAfter 0))
    (answers : ∀ k, w'.service.answerAfter k = w.service.answerAfter (k + 1))
    (log : w'.service.log = w.service.log ++ [t.exchange])
    (executed : w'.executed = w.executed ++ t.completion.calls)
    (items : q.items = a.toldIn t ++ p.items) (result : q.result = p.result)
    (world : q.world = p.world)
    (rest : a.Unfolds c o n
      (history ++ t.completion.toMessage :: a.resultsOf t.completion.calls) w' p turns pieces
      final) :
    a.Unfolds c o (n + 1) history w q (t :: turns) pieces final := by
  obtain ⟨few, going, ends, items', executed', log'⟩ := rest
  refine ⟨Nat.succ_le_succ few, forall_places_cons first ?_, ?_, ?_, ?_, ?_⟩
  · exact fun k t' at_k => answers k ▸ going k t' at_k
  · rw [List.length_cons, Nat.succ_sub_succ, ← answers, result]
    exact ends
  · rw [items, items', List.flatMap_cons, List.append_assoc]
  · rw [world, executed', executed, List.flatMap_cons, List.append_assoc]
  · rw [world, log', log, List.map_cons, List.append_assoc w.service.log, List.singleton_append]

theorem streamTurn_cases (model : a.model = ChatCompletions.model c) (o : RunOptions)
    (history : List ModelMessage) (w : ChatWorld Network) :
    let turn := a.streamTurn o history w
    (∃ e feed net, (c.draft (a.request o history) true).Brings (w.service.answerAfter 0) e feed ∧
      turn.items = (chunksOf feed).chunks.filterMap updateOf? ∧
      turn.result = (chunksOf feed).toCompletion.mapError .remote ∧ turn.world = served w net ∧
      net.log = w.service.log ++ [e] ∧ ∀ k, net.answerAfter k = w.service.answerAfter (k + 1)) ∨
    ∃ err l net, (c.draft (a.request o history) true).Fails (w.service.answerAfter 0) err l ∧
      turn.items = [] ∧ turn.result = .error (.remote err) ∧ turn.world = served w net ∧
      net.log = w.service.log ++ l := by
  obtain ⟨items, result, world⟩ := a.streamTurn_run o history w
  have asked : a.model.stream (a.request o history) w.service =
      ChatCompletions.stream c (a.request o history) w.service := by
    rw [model]
    rfl
  rw [consultation, asked] at items result
  rw [asked] at world
  rcases ChatCompletions.stream_cases c (a.request o history) w.service with
    ⟨e, feed, net, sent, brings, log, answers⟩ | ⟨err, l, net, sent, fails, log⟩
  · rw [sent] at items result world
    exact .inl ⟨e, feed, net, brings, items, result, world, log, answers⟩
  · rw [sent] at items result world
    exact .inr ⟨err, l, net, fails, items, result, world, log⟩

theorem streamTurns_unfolds (model : a.model = ChatCompletions.model c) (n : Nat)
    (history : List ModelMessage) (w : ChatWorld Network) :
    ∃ turns pieces final,
      a.Unfolds c o n history w (a.streamTurns o n history w) turns pieces final := by
  -- only a turn that calls tools has others behind it; each of the other ways ends the row here
  induction n generalizing history w with
  | zero => exact ⟨[], [], [], .ended .exhausted rfl rfl (List.append_nil _).symm⟩
  | succ n ih =>
    have ends_here {net : Network} {pieces : List Chunk} {result : Except AgentError Unit}
        {final : List Exchange} (ended : (a.streamTurns o (n + 1) history w).result = result)
        (ends :
          a.Ends c (a.request o history) (w.service.answerAfter 0) (n + 1) pieces result final)
        (items : (a.streamTurns o (n + 1) history w).items = pieces.filterMap updateOf?)
        (world : (a.streamTurns o (n + 1) history w).world = served w net)
        (log : net.log = w.service.log ++ final) :
        ∃ turns pieces final, a.Unfolds c o (n + 1) history w (a.streamTurns o (n + 1) history w)
          turns pieces final :=
      ⟨[], pieces, final,
        .ended (ended ▸ ends) items (by rw [world]; rfl) (by rw [world]; exact log)⟩
    rcases streamTurn_cases model o history w with
      ⟨e, feed, net, brings, pieces, result, world, log, answers⟩ |
        ⟨err, l, net, fails, pieces, result, world, log⟩
    · cases received : (chunksOf feed).toCompletion with
      | error err =>
        rw [received] at result
        obtain ⟨ended, last⟩ := a.streamTurns_error (n := n) result
        refine ends_here ended (.failed brings received) ?_ (last.trans world) log
        exact (a.items_streamTurns_error result).trans pieces
      | ok completion =>
        rw [received] at result
        cases quiet : completion.calls.isEmpty with
        | true =>
          obtain ⟨items, ended, last⟩ := a.streamTurns_last (n := n) result quiet
          refine ends_here ended (.answered brings received (List.isEmpty_iff.1 quiet)) ?_
            (last.trans world) log
          exact items.trans pieces
        | false =>
          obtain ⟨items, ended, last⟩ := a.streamTurns_next (n := n) result quiet
          rw [world] at items ended last
          obtain ⟨turns, chunks, final, rest⟩ := ih
            (history ++ completion.toMessage :: a.resultsOf completion.calls)
            (afterCalls (served w net) completion.calls)
          let t : Turn := ⟨e, feed, completion⟩
          have goes : t.GoesOn c (a.request o history) (w.service.answerAfter 0) :=
            ⟨brings, received, List.isEmpty_eq_false_iff.1 quiet⟩
          refine ⟨t :: turns, chunks, final, .step goes answers log rfl ?_ ended last rest⟩
          rw [items, pieces, flatMap_callUpdates, ← List.append_assoc]
          rfl
    · obtain ⟨ended, last⟩ := a.streamTurns_error (n := n) result
      refine ends_here ended (.unanswered fails) ?_ (last.trans world) log
      exact (a.items_streamTurns_error result).trans pieces

theorem shaped_toldIn (turns : List Turn) :
    Shaped (turns.flatMap a.toldIn) (turns.flatMap a.exchangesIn) := by
  induction turns with
  | nil => exact .nil
  | cons t turns ih =>
    rw [List.flatMap_cons, List.flatMap_cons]
    exact ((Shaped.chunks _).append (.exchanges _)).append ih

theorem Turn.GoesOn.faultless {t : Turn} {r : ModelRequest} {answer : Option Answer}
    (h : t.GoesOn c r answer) : (chunksOf t.feed).fault = none := by
  have completes := h.completes
  rw [ChunkStream.toCompletion] at completes
  cases broken : (chunksOf t.feed).fault with
  | none => rfl
  | some err =>
    rw [broken] at completes
    cases completes

theorem Ends.of_fault {r : ModelRequest} {answer : Option Answer} {left : Nat} {pieces : List Chunk}
    {result : Except AgentError Unit} {final : List Exchange}
    (h : a.Ends c r answer left pieces result final) {e : Exchange} (he : e ∈ final) {feed : Feed}
    {err : RemoteError} (came : e.feed? = some feed) (broken : (chunksOf feed).fault = some err) :
    final = [e] ∧ result = .error (.remote err) ∧ pieces = (chunksOf feed).chunks := by
  have fails : (chunksOf feed).toCompletion = .error err := by rw [ChunkStream.toCompletion, broken]
  cases h with
  | answered brings completes =>
    obtain rfl := List.mem_singleton.1 he
    obtain rfl := Option.some.inj (came.symm.trans brings.came)
    cases fails.symm.trans completes
  | failed brings fails' =>
    obtain rfl := List.mem_singleton.1 he
    obtain rfl := Option.some.inj (came.symm.trans brings.came)
    obtain rfl := Except.error.inj (fails.symm.trans fails')
    exact ⟨rfl, rfl, rfl⟩
  | unanswered unsent =>
    cases unsent with
    | unbuilt => cases he
    | unanswered => cases he
    | failed built unserved =>
      obtain rfl := List.mem_singleton.1 he
      exact absurd (Http.Exchange.succeeds_of_feed came) unserved.not_succeeds
  | exhausted => cases he

theorem Unfolds.of_fault {turns : List Turn} {pieces : List Chunk} {final : List Exchange}
    (h : a.Unfolds c o n history w p turns pieces final) {e : Exchange}
    (he : e ∈ turns.map Turn.exchange ++ final) {feed : Feed} {err : RemoteError}
    (came : e.feed? = some feed) (broken : (chunksOf feed).fault = some err) :
    final = [e] ∧ p.result = .error (.remote err) ∧ pieces = (chunksOf feed).chunks := by
  obtain ⟨-, going, ends, -⟩ := h
  rcases List.mem_append.1 he with before | last
  · obtain ⟨t, ht, rfl⟩ := List.mem_map.1 before
    obtain ⟨k, at_k⟩ := List.mem_iff_getElem?.1 ht
    have goes := going k t at_k
    obtain rfl := Option.some.inj (came.symm.trans goes.brings.came)
    cases broken.symm.trans goes.faultless
  · exact ends.of_fault last came broken

end ChatAgent

open ChatCompletions (chunksOf)

/-- The chunks of an answer are those of its events up to the first that says that it is done, that
cannot be read, or that does not come; it ended well exactly if it is done, or came to its end after
a reason to finish. A turn that did not end well is the last of its run: its error is the last thing
handed over, its request the last one sent, and the calls that are handed over and executed are
those of the turns before. -/
theorem broken_turn_ends_run :
    (∀ (fault : Option RemoteError) (events : List Event), ∃ read bodies ending,
      List.Forall₂ ChatCompletions.Bears read bodies ∧
        ChatCompletions.EndsAt fault events read bodies ending ∧
        ChatCompletions.chunkStream fault false events =
          ⟨bodies.flatMap ChatCompletions.ChunkBody.toChunks, ending⟩ ∧
        (ending = none ↔ ChatCompletions.Complete fault events read bodies)) ∧
    ∀ (base : ChatAgent Network) (c : ChatCompletions.Config) (messages : List ChatMessage)
        (o : RunOptions) (n : Network),
      let a := { base with model := ChatCompletions.model c }
      let p := a.runStreaming messages o (.start n)
      ∃ turns pieces final,
        a.Unfolds c o a.maxIterations (a.initialHistory messages o) (.start n) p turns pieces
            final ∧
        ∀ e ∈ turns.map ChatAgent.Turn.exchange ++ final, ∀ feed err, e.feed? = some feed →
          (chunksOf feed).fault = some err →
            p.stream = p.items.map .ok ++ [.error (.remote err)] ∧
            p.items = turns.flatMap a.toldIn ++
              (chunksOf feed).chunks.filterMap ChatAgent.updateOf? ∧
            Shaped p.items (turns.flatMap a.exchangesIn) ∧
            p.world.executed = turns.flatMap (·.completion.calls) ∧
            p.world.service.log = n.log ++ turns.map ChatAgent.Turn.exchange ++ [e] := by
  refine ⟨fun fault events => ?_, fun base c messages o n => ?_⟩
  · obtain ⟨read, bodies, ending, bears, ends⟩ := ChatCompletions.exists_endsAt fault events
    exact ⟨read, bodies, ending, bears, ends, ends.chunkStream_eq bears, ends.complete_iff bears⟩
  · intro a p
    have model : a.model = ChatCompletions.model c := rfl
    obtain ⟨turns, pieces, final, unfolds⟩ := ChatAgent.streamTurns_unfolds (o := o) model
      a.maxIterations (a.initialHistory messages o) (.start n)
    refine ⟨turns, pieces, final, unfolds, fun e he feed err came broken => ?_⟩
    obtain ⟨rfl, result, rfl⟩ := unfolds.of_fault he came broken
    obtain ⟨-, -, -, items, executed, log⟩ := unfolds
    have shaped : Shaped p.items (turns.flatMap a.exchangesIn ++ []) := by
      rw [show p.items = _ from items]
      exact (ChatAgent.shaped_toldIn turns).append (.chunks _)
    refine ⟨?_, items, ?_, executed, log⟩
    · rw [Progress.stream, show p.result = _ from result]
    · rwa [List.append_nil] at shaped

end ChatAgents
