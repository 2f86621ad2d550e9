import ChatAgents.Agent.Chat
import ChatAgents.Http.Network
import ChatAgents.Program.Diagnostic
import ChatAgents.Report
import ChatAgents.Settings.EnvFile
set_option autoImplicit false

namespace ChatAgents.Program

open Http (Network)

structure Invocation where
  arguments : List String
  settings : Settings
  fileAt : String → Except FileError (List UInt8)

def Invocation.promptOr (i : Invocation) (default : String) : String :=
  let prompt := " ".intercalate i.arguments
  if Text.isBlankText prompt then default else prompt

structure Console where
  output : List UInt8
  notes : String
  network : Network

abbrev Task (α : Type) := Work Console Failure α

namespace Console

variable {α : Type}

def start (network : Network) : Console := ⟨[], "", network⟩

def print (text : String) : Task Unit :=
  Work.modify fun c => { c with output := c.output ++ Text.Utf8.encode text }

def note (line : String) : Task Unit :=
  Work.modify fun c => { c with notes := c.notes ++ line ++ "\n" }

def settled (x : Except SettingError α) : Task α := Work.ofExcept (x.mapError .setting)

def agentSettled (x : Except AgentError α) : Task α := Work.ofExcept (x.mapError .agent)

def chat (x : Work (ChatWorld Network) AgentError α) : Task α :=
  x.within (fun c => ChatWorld.start c.network) (fun c w => { c with network := w.service }) .agent

/-- Writes a stream that is in progress as it comes, and `trace` of its updates as notes. -/
def writeStream {σ : Type} (trace : Update → Option String) (p : Progress Update σ AgentError Unit)
    (c : Console) : Except AgentError AgentResponse × Console × σ :=
  let (result, sink, world) := Report.writeStream p Sink.unbounded
  let traces := (p.items.filterMap trace).map (· ++ "\n")
  (result,
    { c with output := c.output ++ sink.written, notes := c.notes ++ String.join traces }, world)

def chatStream (trace : Update → Option String)
    (stream : Producer Update (ChatWorld Network) AgentError Unit) : Task Unit := fun c =>
  let (result, console, world) := writeStream trace (stream (ChatWorld.start c.network)) c
  ((result.map fun _ => ()).mapError .agent, { console with network := world.service })

def writeResponse (r : AgentResponse) : Task Unit :=
  Work.modify fun c =>
    { c with output := c.output ++ (Report.writeResponse r Sink.unbounded).2.written }

end Console
end ChatAgents.Program
