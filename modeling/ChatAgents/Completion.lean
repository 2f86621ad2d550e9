import ChatAgents.Error
import ChatAgents.Json.Parser
import ChatAgents.Json.Printer
import ChatAgents.Message
import ChatAgents.Text.Characters
set_option autoImplicit false

namespace ChatAgents

structure ToolCall where
  id : String
  name : String
  arguments : Json

structure ToolDefinition where
  name : String
  description : String
  parameters : Json

inductive ModelMessage where
  | system (text : String)
  | user (parts : List ContentPart)
  | assistant (content : Option String) (calls : List ToolCall)
  | toolResult (callId toolName content : String) (isError : Bool)

def toolResultText (content : String) (isError : Bool) : String :=
  if isError then "Error: " ++ content else content

def ModelMessage.ofChat (m : ChatMessage) : ModelMessage :=
  match m.role with
  | .user => .user m.parts
  | .assistant => .assistant (some m.text) []

inductive ToolChoice where
  | auto
  | none
deriving DecidableEq

def ToolChoice.name : ToolChoice → String
  | .auto => "auto"
  | .none => "none"

structure Sampling where
  temperature : Option Single
  maxTokens : Option UInt32
deriving DecidableEq

structure ModelRequest where
  messages : List ModelMessage
  tools : List ToolDefinition
  toolChoice : ToolChoice
  sampling : Sampling

structure Usage where
  input : UInt32
  output : UInt32
deriving DecidableEq, Inhabited

def addSaturating (a b : UInt32) : UInt32 :=
  UInt32.ofNat (min (a.toNat + b.toNat) (UInt32.size - 1))

namespace Usage

def zero : Usage := ⟨0, 0⟩

def add (u v : Usage) : Usage := ⟨addSaturating u.input v.input, addSaturating u.output v.output⟩

def addTo (total : Option Usage) (report : Usage) : Option Usage :=
  some ((total.getD zero).add report)

end Usage

theorem toNat_addSaturating (a b : UInt32) :
    (addSaturating a b).toNat = min (a.toNat + b.toNat) (UInt32.size - 1) := by
  simp only [addSaturating, UInt32.toNat_ofNat', UInt32.size]
  omega

structure Completion where
  text : Option String
  calls : List ToolCall
  citations : List Citation
  usage : Option Usage

/-- One piece of an answer. Fragments of a tool call with one index belong to one call. -/
inductive Chunk where
  | text (s : String)
  | call (index : Nat) (id name : Option String) (arguments : String)
  | citation (c : Citation)
  | usage (u : Usage)

def textChunks : Option String → List Chunk
  | some text => if text = "" then [] else [.text text]
  | none => []

def callChunks (start : Nat) : List ToolCall → List Chunk
  | [] => []
  | c :: rest =>
    .call start (some c.id) (some c.name) c.arguments.render :: callChunks (start + 1) rest

def usageChunks : Option Usage → List Chunk
  | some u => [.usage u]
  | none => []

def Completion.toChunks (c : Completion) : List Chunk :=
  textChunks c.text ++ callChunks 0 c.calls ++ c.citations.map .citation ++ usageChunks c.usage

def malformedJson : String := "malformed JSON"

/-- The arguments that a model wrote for a tool. Blank text stands for no arguments. -/
def parseArguments (tool raw : String) : Except RemoteError Json :=
  if Text.isBlankText raw then .ok .empty
  else
    match Json.parse? raw with
    | some v => .ok v
    | none =>
      .error (.response
        ("tool call arguments for '" ++ tool ++ "' are not valid JSON: " ++ malformedJson))

structure PartialCall where
  id : String
  name : String
  arguments : String
deriving DecidableEq

namespace PartialCall

def empty : PartialCall := ⟨"", "", ""⟩

def extend (c : PartialCall) (id name : Option String) (arguments : String) : PartialCall :=
  ⟨id.getD c.id, c.name ++ name.getD "", c.arguments ++ arguments⟩

def finish (c : PartialCall) : Except RemoteError ToolCall :=
  (parseArguments c.name c.arguments).map fun arguments => ⟨c.id, c.name, arguments⟩

end PartialCall

/-- Changes the call at an index in a list sorted by index; a new one starts empty. -/
def updateCall (index : Nat) (change : PartialCall → PartialCall) :
    List (Nat × PartialCall) → List (Nat × PartialCall)
  | [] => [(index, change .empty)]
  | (i, c) :: rest =>
    if index < i then (index, change .empty) :: (i, c) :: rest
    else if i < index then (i, c) :: updateCall index change rest
    else (i, change c) :: rest

structure Accumulator where
  text : String
  /-- The calls by index, in increasing order. -/
  calls : List (Nat × PartialCall)
  citations : List Citation
  usage : Option Usage

namespace Accumulator

def empty : Accumulator := ⟨"", [], [], none⟩

def push (a : Accumulator) : Chunk → Accumulator
  | .text s => { a with text := a.text ++ s }
  | .call index id name arguments =>
    { a with calls := updateCall index (·.extend id name arguments) a.calls }
  | .citation c => { a with citations := a.citations ++ [c] }
  | .usage u => { a with usage := Usage.addTo a.usage u }

def pushAll (a : Accumulator) (chunks : List Chunk) : Accumulator := chunks.foldl push a

/-- The whole answer, or the fault of the first call whose arguments cannot be read. -/
def finish (a : Accumulator) : Except RemoteError Completion :=
  (a.calls.mapM fun (c : Nat × PartialCall) => c.2.finish).map fun calls =>
    ⟨if a.text = "" then none else some a.text, calls, a.citations, a.usage⟩

end Accumulator

def Completion.ofChunks (chunks : List Chunk) : Except RemoteError Completion :=
  (Accumulator.empty.pushAll chunks).finish

end ChatAgents
