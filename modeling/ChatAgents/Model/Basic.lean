import ChatAgents.Completion
import ChatAgents.Work
set_option autoImplicit false

namespace ChatAgents

structure ChunkStream where
  chunks : List Chunk
  fault : Option RemoteError

namespace ChunkStream

def ofCompletion (c : Completion) : ChunkStream := ⟨c.toChunks, none⟩

def prepend (s : ChunkStream) (chunks : List Chunk) : ChunkStream :=
  { s with chunks := chunks ++ s.chunks }

def toCompletion (s : ChunkStream) : Except RemoteError Completion :=
  match s.fault with
  | some e => .error e
  | none => Completion.ofChunks s.chunks

end ChunkStream

structure ChatModel (σ : Type) where
  complete : ModelRequest → Work σ RemoteError Completion
  stream : ModelRequest → Work σ RemoteError ChunkStream

/-- A service that cannot answer in pieces replays its whole answers. -/
def ChatModel.replaying {σ : Type} (complete : ModelRequest → Work σ RemoteError Completion) :
    ChatModel σ where
  complete
  stream := fun request => return .ofCompletion (← complete request)

inductive ScriptedTurn where
  | answer (c : Completion)
  | fail (e : RemoteError)
  | pieces (s : ChunkStream)

structure Script where
  turns : List ScriptedTurn
  requests : List ModelRequest

namespace Script

def next (request : ModelRequest) : Work Script RemoteError ScriptedTurn := fun s =>
  match s.turns with
  | [] => (.ok (.fail (.response "script exhausted")), ⟨[], s.requests ++ [request]⟩)
  | turn :: rest => (.ok turn, ⟨rest, s.requests ++ [request]⟩)

def complete (request : ModelRequest) : Work Script RemoteError Completion := do
  match ← next request with
  | .answer c => return c
  | .fail e => Work.fail e
  | .pieces s => Work.ofExcept s.toCompletion

def stream (request : ModelRequest) : Work Script RemoteError ChunkStream := do
  match ← next request with
  | .answer c => return .ofCompletion c
  | .fail e => Work.fail e
  | .pieces s => return s

def model : ChatModel Script := .replaying complete

def streamingModel : ChatModel Script := ⟨complete, stream⟩

end Script
end ChatAgents
