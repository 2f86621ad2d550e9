import ChatAgents.Agent.Producer
import ChatAgents.Agent.Basic
import ChatAgents.Text.Encoding
set_option autoImplicit false

namespace ChatAgents

/-- What output is written to. It may have room for so many bytes only, and one of its flushes,
counted from one, may fail. -/
structure Sink where
  written : List UInt8
  flushes : Nat
  capacity : Option Nat
  failingFlush : Option Nat
deriving DecidableEq

inductive SinkError where
  | full
  | flush
deriving DecidableEq

def SinkError.message : SinkError → String
  | .full => "disk full"
  | .flush => "flush failed"

namespace Sink

def unbounded : Sink := ⟨[], 0, none, none⟩

def room (s : Sink) : Option Nat := s.capacity.map (· - s.written.length)

def write (text : String) : Work Sink SinkError Unit := fun s =>
  let bytes := Text.Utf8.encode text
  match s.room with
  | none => (.ok (), { s with written := s.written ++ bytes })
  | some room =>
    (if bytes.length ≤ room then .ok () else .error .full,
      { s with written := s.written ++ bytes.take room })

def flush : Work Sink SinkError Unit := fun s =>
  (if s.failingFlush = some (s.flushes + 1) then .error .flush else .ok (),
    { s with flushes := s.flushes + 1 })

def writeLine (text : String) : Work Sink SinkError Unit := do
  write text
  write "\n"

end Sink

namespace Report

def writeCitations (citations : List Citation) : Work Sink SinkError Unit :=
  citations.forM fun c => Sink.writeLine c.display

def writeResponse (r : AgentResponse) : Work Sink SinkError Unit := do
  Sink.writeLine r.text
  writeCitations r.citations

def writeUpdate : Update → Work Sink SinkError Unit
  | .text s => do
    Sink.write s
    Sink.flush
  | _ => pure ()

def writeEnd (r : AgentResponse) : Work Sink SinkError AgentResponse := do
  Sink.write "\n"
  writeCitations r.citations
  return r

def asAgentError {α : Type} (r : Except SinkError α) : Except AgentError α :=
  r.mapError fun e => .output e.message

/-- Writes updates and then, if the stream has ended well, the end. The last component is the world
in which the stream was left: a failing sink leaves it at the update that could not be written. -/
def writeUpdates {σ : Type} (result : Except AgentError Unit) (world : σ)
    (response : AgentResponse) :
    List (Update × σ) → Sink → Except AgentError AgentResponse × Sink × σ
  | [], sink =>
    match result with
    | .error e => (.error e, sink, world)
    | .ok () =>
      let (written, sink) := writeEnd response sink
      (asAgentError written, sink, world)
  | (update, current) :: rest, sink =>
    match writeUpdate update sink with
    | (.error e, sink) => (.error (.output e.message), sink, current)
    | (.ok (), sink) => writeUpdates result world (response.apply update) rest sink

def writeStream {σ : Type} (p : Progress Update σ AgentError Unit) (sink : Sink) :
    Except AgentError AgentResponse × Sink × σ :=
  writeUpdates p.result p.world .empty p.delivered sink

end Report
end ChatAgents
