import ChatAgents.Agent.Chat
import ChatAgents.Proofs.Accumulation
import ChatAgents.Proofs.Characters
import ChatAgents.Report
set_option autoImplicit false

namespace ChatAgents

namespace Sink

/-- There is room for a text, and none of the next flushes, so many of them, fails. -/
structure Takes (s : Sink) (text : String) (flushes : Nat) : Prop where
  room : ∀ n, s.room = some n → (Text.Utf8.encode text).length ≤ n
  steady : ∀ k, s.failingFlush = some k → k ≤ s.flushes ∨ s.flushes + flushes < k

def after (s : Sink) (text : String) (flushes : Nat) : Sink :=
  { s with written := s.written ++ Text.Utf8.encode text, flushes := s.flushes + flushes }

theorem after_nothing (s : Sink) : s.after "" 0 = s := by
  simp [after, Text.Utf8.encode]

theorem after_after (s : Sink) (text more : String) (m n : Nat) :
    (s.after text m).after more n = s.after (text ++ more) (m + n) := by
  simp [after, Text.Utf8.encode_append, Nat.add_assoc]

namespace Takes

variable {s : Sink} {text more : String} {m n : Nat}

theorem front (h : s.Takes (text ++ more) (m + n)) : s.Takes text m where
  room k room := by
    have := h.room k room
    rw [Text.Utf8.encode_append, List.length_append] at this
    omega
  steady k failing := by
    have := h.steady k failing
    omega

theorem behind (h : s.Takes (text ++ more) (m + n)) : (s.after text m).Takes more n where
  room k room := by
    obtain ⟨capacity, limited, rfl⟩ := Option.map_eq_some_iff.1 room
    have := h.room _ (Option.map_eq_some_iff.2 ⟨capacity, limited, rfl⟩)
    rw [Text.Utf8.encode_append, List.length_append] at this
    simp only [after, List.length_append]
    omega
  steady k failing := by
    have : k ≤ s.flushes ∨ s.flushes + (m + n) < k := h.steady k failing
    simp only [after]
    omega

theorem unflushed (h : s.Takes text n) : s.Takes text 0 where
  room := h.room
  steady k failing := by
    have := h.steady k failing
    omega

end Takes

/-- Work that adds a text to every sink that takes it, with so many flushes, and gives a result. -/
def Prints {α : Type} (x : Work Sink SinkError α) (text : String) (flushes : Nat) (a : α) : Prop :=
  ∀ s : Sink, s.Takes text flushes → x s = (.ok a, s.after text flushes)

namespace Prints

variable {α β : Type} {x : Work Sink SinkError α} {text more : String} {m n : Nat} {a : α}

theorem pure (a : α) : Prints (Pure.pure a) "" 0 a := by
  intro s _
  rw [Work.pure_run, after_nothing]

theorem followed {y : Work Sink SinkError β} {b : β} (first : Prints x text m a)
    (next : Prints y more n b) : Prints (x >>= fun _ => y) (text ++ more) (m + n) b := by
  intro s takes
  rw [Work.bind_run, first s takes.front]
  dsimp only
  rw [next _ takes.behind, after_after]

theorem write (text : String) : Prints (Sink.write text) text 0 () := by
  intro s takes
  rw [Sink.write]
  cases room : s.room with
  | none => rfl
  | some n =>
    have fits := takes.room n room
    simp only [if_pos fits, List.take_of_length_le fits]
    rfl

theorem flush : Prints Sink.flush "" 1 () := by
  intro s takes
  have steady : s.failingFlush ≠ some (s.flushes + 1) := by
    intro failing
    have := takes.steady _ failing
    omega
  simp [Sink.flush, steady, after, Text.Utf8.encode]

theorem writeLine (text : String) : Prints (Sink.writeLine text) (text ++ "\n") 0 () :=
  (write text).followed (write "\n")

end Prints
end Sink

namespace Report

def citationLines (citations : List Citation) : String :=
  String.join (citations.map fun c => c.display ++ "\n")

def page (r : AgentResponse) : String := r.text ++ "\n" ++ citationLines r.citations

theorem prints_writeCitations (citations : List Citation) :
    Sink.Prints (writeCitations citations) (citationLines citations) 0 () := by
  induction citations with
  | nil => exact .pure ()
  | cons c rest ih =>
    rw [citationLines, List.map_cons, String.join_cons]
    exact (Sink.Prints.writeLine c.display).followed ih

theorem prints_writeResponse (r : AgentResponse) : Sink.Prints (writeResponse r) (page r) 0 () :=
  (Sink.Prints.writeLine r.text).followed (prints_writeCitations r.citations)

theorem prints_writeUpdate (u : Update) :
    Sink.Prints (writeUpdate u) (String.join u.text?.toList) u.text?.toList.length () := by
  cases u with
  | text s =>
    have written := (Sink.Prints.write s).followed Sink.Prints.flush
    simpa [writeUpdate, Update.text?] using written
  | citation _ | toolCall _ _ _ | toolResult _ _ _ _ | usage _ => exact .pure ()

theorem prints_writeEnd (r : AgentResponse) :
    Sink.Prints (writeEnd r) ("\n" ++ citationLines r.citations) 0 r := by
  have written := (Sink.Prints.write "\n").followed
    ((prints_writeCitations r.citations).followed (.pure r))
  simpa [writeEnd] using written

def ending (citations : List Citation) : Except AgentError Unit → String
  | .ok () => "\n" ++ citationLines citations
  | .error _ => ""

def remainder (result : Except AgentError Unit) (response : AgentResponse) (us : List Update) :
    String :=
  String.join (us.filterMap Update.text?) ++ ending (response.applyAll us).citations result

def flushes (us : List Update) : Nat := (us.filterMap Update.text?).length

theorem remainder_cons (result : Except AgentError Unit) (response : AgentResponse) (u : Update)
    (us : List Update) :
    remainder result response (u :: us) =
      String.join u.text?.toList ++ remainder result (response.apply u) us := by
  cases text : u.text? <;> simp [remainder, text, String.append_assoc]

theorem flushes_cons (u : Update) (us : List Update) :
    flushes (u :: us) = u.text?.toList.length + flushes us := by
  cases text : u.text? <;> simp [flushes, text, Nat.add_comm]

theorem writeUpdates_run {σ : Type} (result : Except AgentError Unit) (world : σ)
    (response : AgentResponse) (delivered : List (Update × σ)) {s : Sink}
    (takes : s.Takes (remainder result response (delivered.map (·.1)))
      (flushes (delivered.map (·.1)))) :
    writeUpdates result world response delivered s =
      (result.map fun _ => response.applyAll (delivered.map (·.1)),
        s.after (remainder result response (delivered.map (·.1))) (flushes (delivered.map (·.1))),
        world) := by
  -- `response` has gathered the citations of the updates before, which come out at the end
  induction delivered generalizing response s with
  | nil =>
    cases result with
    | error e => simp [writeUpdates, remainder, ending, flushes, Sink.after_nothing, Except.map]
    | ok _ =>
      have written := prints_writeEnd response s (by simpa [remainder, ending, flushes] using takes)
      simp [writeUpdates, written, remainder, ending, flushes, asAgentError, Except.map]
  | cons d rest ih =>
    obtain ⟨u, w⟩ := d
    rw [List.map_cons, remainder_cons, flushes_cons] at takes ⊢
    rw [writeUpdates, prints_writeUpdate u s takes.front]
    dsimp only
    rw [ih _ takes.behind, Sink.after_after, AgentResponse.applyAll_cons]

section Streams

variable {σ : Type} {p : Progress Update σ AgentError Unit}

theorem collect_eq (p : Progress Update σ AgentError Unit) :
    collect p = p.result.map fun _ => .ofUpdates p.items := by
  rw [collect]
  split <;> simp [*, Except.map]

def streamed (p : Progress Update σ AgentError Unit) : String := remainder p.result .empty p.items

theorem writeStream_run {s : Sink} (takes : s.Takes (streamed p) (flushes p.items)) :
    writeStream p s = (collect p, s.after (streamed p) (flushes p.items), p.world) := by
  rw [writeStream, writeUpdates_run _ _ _ _ takes, collect_eq]
  rfl

theorem streamed_of_ok {r : AgentResponse} (h : collect p = .ok r) : streamed p = page r := by
  rw [collect_eq] at h
  obtain ⟨_, result, rfl⟩ := map_eq_ok_iff.1 h
  rw [streamed, remainder, result]
  simp [page, ending, AgentResponse.ofUpdates, AgentResponse.applyAll_eq, AgentResponse.empty,
    String.append_assoc]

theorem streamed_of_error {e : AgentError} (h : collect p = .error e) :
    streamed p = String.join (p.items.filterMap Update.text?) := by
  rw [collect_eq] at h
  rw [streamed, remainder]
  cases result : p.result with
  | error e => simp [ending]
  | ok _ =>
    rw [result] at h
    cases h

end Streams

/-- A stream that is written out gives the response, or the error, that collecting it gives. If it
ends well, the sink holds what writing this response in one go leaves there; if it fails, the texts
that came before, with no line end and no citation. -/
theorem stream_comes_out_as_collected {σ : Type} (p : Progress Update σ AgentError Unit) (s : Sink)
    (takes : s.Takes (streamed p) (flushes p.items)) :
    (writeStream p s).1 = collect p ∧ (writeStream p s).2.2 = p.world ∧
      (∀ r, collect p = .ok r → (writeResponse r s).1 = .ok () ∧
        (writeStream p s).2.1.written = (writeResponse r s).2.written) ∧
      ∀ e, collect p = .error e → (writeStream p s).2.1.written =
        s.written ++ Text.Utf8.encode (String.join (p.items.filterMap Update.text?)) := by
  rw [writeStream_run takes]
  refine ⟨rfl, rfl, ?_, ?_⟩
  · intro r collected
    rw [streamed_of_ok collected] at takes ⊢
    rw [prints_writeResponse r s takes.unflushed]
    exact ⟨rfl, rfl⟩
  · intro e collected
    rw [streamed_of_error collected]
    rfl

def recommendation : Progress Update Unit AgentError Unit where
  delivered := [(.text "Clam ", ()), (.citation ⟨none, .url "u" none⟩, ()), (.text "Chowder", ())]
  result := .ok ()
  world := ()

def notepad : Sink := ⟨[], 0, some 17, some 3⟩

theorem notepad_takes :
    notepad.Takes (streamed recommendation) (flushes recommendation.items) where
  room := by
    intro n room
    obtain rfl := Option.some.inj room
    decide
  steady := by
    intro k failing
    obtain rfl := Option.some.inj failing
    decide

theorem recommendation_comes_out :
    notepad.Takes (streamed recommendation) (flushes recommendation.items) ∧
      (writeStream recommendation notepad).1 =
        .ok ⟨"Clam Chowder", [⟨none, .url "u" none⟩], none⟩ ∧
      (writeStream recommendation notepad).2.1.written =
        Text.Utf8.encode "Clam Chowder\n<u>\n" := by
  have adds_up : AgentResponse.ofUpdates recommendation.items =
      ⟨"Clam Chowder", [⟨none, .url "u" none⟩], none⟩ := by decide
  have collected : collect recommendation = .ok ⟨"Clam Chowder", [⟨none, .url "u" none⟩], none⟩ :=
    congrArg Except.ok adds_up
  obtain ⟨result, -, written, -⟩ :=
    stream_comes_out_as_collected recommendation notepad notepad_takes
  refine ⟨notepad_takes, result.trans collected, (written _ collected).2.trans ?_⟩
  decide

end Report
end ChatAgents
