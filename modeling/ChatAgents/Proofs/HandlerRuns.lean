import ChatAgents.Agent.Persistent.Basic
import Mathlib.Data.List.Forall2
set_option autoImplicit false

namespace ChatAgents

open Hosting (RequiredCall ToolOutput)

section

variable {m : Type → Type} [Monad m] (handle : Tool → Json → m (Except ToolError String))

def Tool.executeBy (t : Tool) (args : Json) : m (Except ToolError String) :=
  match checkArguments t.schema.json args with
  | .ok () => handle t args
  | .error fault => return .error (.invalidArguments t.name fault.message)

namespace Registry

variable (r : Registry)

def executeBy (call : ToolCall) : m ToolOutcome :=
  match r.find? call.name with
  | none => return .ofResult (.error (.notFound call.name))
  | some t => return .ofResult (← t.executeBy handle call.arguments)

def answerBy (c : RequiredCall) : m ToolExchange :=
  match parseArguments c.name c.arguments with
  | .ok arguments => do
    let call : ToolCall := ⟨c.id, c.name, arguments⟩
    return ⟨call, ← r.executeBy handle call⟩
  | .error e => return ⟨⟨c.id, c.name, .str c.arguments⟩, ⟨e.message, true⟩⟩

def exchangesBy (calls : List RequiredCall) : m (List ToolExchange) :=
  calls.mapM (r.answerBy handle)

end Registry

end

def Tool.handled {m : Type → Type} [Monad m] (t : Tool) (args : Json) :
    m (Except ToolError String) := pure (t.handler args)

section

variable {m : Type → Type} [Monad m]

theorem Tool.executeBy_handled (t : Tool) (args : Json) :
    t.executeBy Tool.handled args = (pure (t.execute args) : m _) := by
  rw [executeBy, execute]
  cases checkArguments t.schema.json args <;> rfl

namespace Registry

variable [LawfulMonad m] (r : Registry)

theorem executeBy_handled (call : ToolCall) :
    r.executeBy Tool.handled call = (pure (r.execute call) : m _) := by
  rw [executeBy, execute]
  cases r.find? call.name with
  | none => rfl
  | some t =>
    dsimp only
    rw [Tool.executeBy_handled, pure_bind]

theorem answerBy_handled (c : RequiredCall) :
    r.answerBy Tool.handled c = (pure (r.answer c) : m _) := by
  rw [answerBy, answer]
  cases parseArguments c.name c.arguments with
  | error e => rfl
  | ok arguments =>
    dsimp only
    rw [executeBy_handled, pure_bind]

theorem exchangesBy_handled (calls : List RequiredCall) :
    r.exchangesBy Tool.handled calls = (pure (r.exchanges calls) : m _) := by
  rw [exchangesBy, funext r.answerBy_handled, List.mapM_pure]
  rfl

end Registry

end

structure HandlerRun where
  tool : Tool
  arguments : Json

/-- Handlers of which each run is written down. -/
def Tool.recorded (t : Tool) (args : Json) : StateM (List HandlerRun) (Except ToolError String) :=
  fun log => (t.handler args, log ++ [⟨t, args⟩])

/-- What the arguments of a call are: a blank text stands for none, any other is read. -/
inductive Hosting.RequiredCall.Reads (c : RequiredCall) : Json → Prop
  | blank (blank : Text.isBlankText c.arguments = true) : Reads c .empty
  | text {args : Json} (written : Text.isBlankText c.arguments = false)
      (read : Json.parse? c.arguments = some args) : Reads c args

/-- What a required call gives: its output, and the runs of handlers. There is no run unless the
arguments can be read, the tool is there and its schema accepts them. -/
inductive Registry.Answers (r : Registry) (c : RequiredCall) : ToolOutput → List HandlerRun → Prop
  | handled {args : Json} {t : Tool} {text : String} (reads : c.Reads args)
      (found : r.find? c.name = some t) (valid : checkArguments t.schema.json args = .ok ())
      (succeeds : t.handler args = .ok text) : Answers r c ⟨c.id, text⟩ [⟨t, args⟩]
  | failed {args : Json} {t : Tool} {err : ToolError} (reads : c.Reads args)
      (found : r.find? c.name = some t) (valid : checkArguments t.schema.json args = .ok ())
      (fails : t.handler args = .error err) : Answers r c ⟨c.id, err.message⟩ [⟨t, args⟩]
  | rejected {args : Json} {t : Tool} {fault : ArgumentFault} (reads : c.Reads args)
      (found : r.find? c.name = some t)
      (invalid : checkArguments t.schema.json args = .error fault) :
      Answers r c ⟨c.id, (ToolError.invalidArguments t.name fault.message).message⟩ []
  | unknown {args : Json} (reads : c.Reads args) (missing : r.find? c.name = none) :
      Answers r c ⟨c.id, (ToolError.notFound c.name).message⟩ []
  | unreadable (unread : ∀ args, ¬ c.Reads args) :
      Answers r c ⟨c.id, (RemoteError.response ("tool call arguments for '" ++ c.name ++
        "' are not valid JSON: " ++ malformedJson)).message⟩ []

theorem Hosting.RequiredCall.reads_of_parse {c : RequiredCall} {args : Json}
    (h : parseArguments c.name c.arguments = .ok args) : c.Reads args := by
  rw [parseArguments] at h
  split at h <;> rename_i blank
  · obtain rfl := Except.ok.inj h
    exact .blank blank
  · split at h <;> rename_i read
    · obtain rfl := Except.ok.inj h
      exact .text (Bool.eq_false_iff.2 blank) read
    · cases h

theorem Hosting.RequiredCall.unread_of_parse {c : RequiredCall} {e : RemoteError}
    (h : parseArguments c.name c.arguments = .error e) :
    (∀ args, ¬ c.Reads args) ∧ e = .response ("tool call arguments for '" ++ c.name ++
      "' are not valid JSON: " ++ malformedJson) := by
  rw [parseArguments] at h
  split at h <;> rename_i written
  · cases h
  · split at h <;> rename_i unread
    · cases h
    · refine ⟨fun args reads => ?_, (Except.error.inj h).symm⟩
      cases reads with
      | blank blank => exact written blank
      | text _ read => cases unread.symm.trans read

namespace Registry

variable (r : Registry)

theorem execute_recorded (id name : String) (args : Json) (log : List HandlerRun) :
    ∃ runs, r.executeBy Tool.recorded ⟨id, name, args⟩ log =
        (r.execute ⟨id, name, args⟩, log ++ runs) ∧
      ∀ c : RequiredCall, c.name = name → c.Reads args →
        r.Answers c ⟨c.id, (r.execute ⟨id, name, args⟩).text⟩ runs := by
  rw [executeBy, execute]
  dsimp only
  cases found : r.find? name with
  | none =>
    refine ⟨[], by rw [List.append_nil]; rfl, ?_⟩
    rintro c rfl reads
    exact .unknown reads found
  | some t =>
    dsimp only
    rw [Tool.executeBy, Tool.execute]
    cases valid : checkArguments t.schema.json args with
    | error fault =>
      refine ⟨[], by rw [List.append_nil]; rfl, ?_⟩
      rintro c rfl reads
      exact .rejected reads found valid
    | ok =>
      refine ⟨[⟨t, args⟩], rfl, ?_⟩
      rintro c rfl reads
      cases result : t.handler args with
      | ok text => exact .handled reads found valid result
      | error err => exact .failed reads found valid result

theorem answer_recorded (c : RequiredCall) (log : List HandlerRun) :
    ∃ runs, r.answerBy Tool.recorded c log = (r.answer c, log ++ runs) ∧
      r.Answers c (r.answer c).output runs := by
  rw [answerBy, answer]
  cases parsed : parseArguments c.name c.arguments with
  | ok args =>
    obtain ⟨runs, executed, answers⟩ := r.execute_recorded c.id c.name args log
    refine ⟨runs, ?_, answers c rfl (Hosting.RequiredCall.reads_of_parse parsed)⟩
    exact congrArg (fun x : ToolOutcome × List HandlerRun =>
      ((⟨⟨c.id, c.name, args⟩, x.1⟩ : ToolExchange), x.2)) executed
  | error e =>
    obtain ⟨unread, rfl⟩ := Hosting.RequiredCall.unread_of_parse parsed
    exact ⟨[], by rw [List.append_nil]; rfl, .unreadable unread⟩

theorem exchangesBy_recorded_cons (c : RequiredCall) (calls : List RequiredCall)
    (log : List HandlerRun) :
    r.exchangesBy Tool.recorded (c :: calls) log =
      let (x, log') := r.answerBy Tool.recorded c log
      let (xs, log'') := r.exchangesBy Tool.recorded calls log'
      (x :: xs, log'') := by
  rw [exchangesBy, List.mapM_cons]
  rfl

theorem exchanges_recorded (calls : List RequiredCall) (log : List HandlerRun) :
    ∃ answers : List (ToolOutput × List HandlerRun),
      List.Forall₂ (fun c x => r.Answers c x.1 x.2) calls answers ∧
        r.outputs calls = answers.map Prod.fst ∧
        r.exchangesBy Tool.recorded calls log =
          (r.exchanges calls, log ++ answers.flatMap Prod.snd) := by
  induction calls generalizing log with
  | nil => exact ⟨[], .nil, rfl, by rw [List.flatMap_nil, List.append_nil]; rfl⟩
  | cons c rest ih =>
    obtain ⟨runs, answered, first⟩ := r.answer_recorded c log
    obtain ⟨answers, all, outputs, recorded⟩ := ih (log ++ runs)
    refine ⟨((r.answer c).output, runs) :: answers, .cons first all, ?_, ?_⟩
    · rw [List.map_cons, ← outputs]
      rfl
    · rw [exchangesBy_recorded_cons, answered]
      dsimp only
      rw [recorded, List.flatMap_cons, List.append_assoc]
      rfl

end Registry
end ChatAgents
