import ChatAgents.Completion
set_option autoImplicit false

namespace ChatAgents

structure RunOptions where
  temperature : Option Single
  maxTokens : Option UInt32
  /-- Added to the agent's instructions for this run only. -/
  additionalInstructions : Option String

namespace RunOptions

def default : RunOptions := ⟨none, none, none⟩

def sampling (o : RunOptions) : Sampling := ⟨o.temperature, o.maxTokens⟩

def instructions (o : RunOptions) (base : Option String) : Option String :=
  match ([base, o.additionalInstructions].filterMap id).filter (· ≠ "") with
  | [] => none
  | parts => some ("\n\n".intercalate parts)

end RunOptions

inductive Update where
  | text (s : String)
  | citation (c : Citation)
  | toolCall (tool : String) (args : Json) (callId : String)
  | toolResult (tool text callId : String) (isError : Bool)
  | usage (u : Usage)

structure AgentResponse where
  text : String
  citations : List Citation
  usage : Option Usage
deriving DecidableEq

namespace AgentResponse

def empty : AgentResponse := ⟨"", [], none⟩

def addUsage (r : AgentResponse) (u : Usage) : AgentResponse :=
  { r with usage := Usage.addTo r.usage u }

/-- Tool calls and their results are no part of the response. -/
def apply (r : AgentResponse) : Update → AgentResponse
  | .text s => { r with text := r.text ++ s }
  | .citation c => { r with citations := r.citations ++ [c] }
  | .usage u => r.addUsage u
  | .toolCall .. | .toolResult .. => r

def applyAll (r : AgentResponse) (us : List Update) : AgentResponse := us.foldl apply r

def ofUpdates (us : List Update) : AgentResponse := empty.applyAll us

def addCompletion (r : AgentResponse) (c : Completion) : AgentResponse where
  text := r.text ++ c.text.getD ""
  citations := r.citations ++ c.citations
  usage :=
    match c.usage with
    | some u => Usage.addTo r.usage u
    | none => r.usage

@[simp] theorem applyAll_nil (r : AgentResponse) : r.applyAll [] = r := rfl

@[simp] theorem applyAll_cons (r : AgentResponse) (u : Update) (us : List Update) :
    r.applyAll (u :: us) = (r.apply u).applyAll us := rfl

theorem applyAll_append (r : AgentResponse) (us vs : List Update) :
    r.applyAll (us ++ vs) = (r.applyAll us).applyAll vs := by
  simp [applyAll]

end AgentResponse

end ChatAgents
