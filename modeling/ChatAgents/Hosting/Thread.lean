import ChatAgents.Agent.Basic
import ChatAgents.Json.Fields
set_option autoImplicit false

namespace ChatAgents.Hosting

def partToJson? (p : ContentPart) : Option Json :=
  match p with
  | .text s => if s = "" then none else some (.obj [("type", .str "text"), ("text", .str s)])
  | _ => p.imageUrl?.map fun url =>
      .obj [("type", .str "image_url"), ("image_url", .obj [("url", .str url)])]

/-- The content of a message: its text, or its parts once there are images. A message that says
nothing has none. -/
def contentToJson? (m : ChatMessage) : Option Json :=
  if m.hasImages then some (.arr (m.parts.filterMap partToJson?))
  else if m.text = "" then none
  else some (.str m.text)

def messageToJson? (m : ChatMessage) : Option Json :=
  (contentToJson? m).map fun content => .obj [("role", .str m.role.name), ("content", content)]

structure CitedText where
  value : String
  citations : List Citation
deriving DecidableEq

structure ThreadMessage where
  role : String
  texts : List CitedText
deriving DecidableEq

def readWebPage? (v : Json) : Option CitationSource := do
  let members ← Json.fields? [⟨"url", false⟩, ⟨"title", false⟩] v
  return .url (← Json.required? Json.string? members "url")
    (← Json.nullable? Json.string? members "title")

def readFile? (v : Json) : Option CitationSource := do
  let members ← Json.fields? [⟨"file_id", false⟩, ⟨"quote", false⟩] v
  return .file (← Json.required? Json.string? members "file_id")
    (← Json.nullable? Json.string? members "quote")

def readCitation? (sourceName : String) (readSource : Json → Option CitationSource) (v : Json) :
    Option Citation := do
  let members ← Json.fields? [⟨"text", false⟩, ⟨sourceName, false⟩] v
  return ⟨← Json.nullable? Json.string? members "text",
    ← Json.required? readSource members sourceName⟩

/-- A citation, or `none` for an annotation of another kind. -/
def readAnnotation? (v : Json) : Option (Option Citation) := do
  let (tag, rest) ← Json.tagged? v
  match tag with
  | "url_citation" => (readCitation? "url_citation" readWebPage? rest).map some
  | "file_citation" => (readCitation? "file_citation" readFile? rest).map some
  | _ => return none

def readAnnotations? (v : Json) : Option (List Citation) :=
  (Json.readList? readAnnotation? v).map (·.filterMap id)

def readTexts? (readText : Json → Option CitedText) (v : Json) : Option (List CitedText) :=
  (Json.readList? readContent? v).map (·.filterMap id)
where
  readContent? (v : Json) : Option (Option CitedText) := do
    let (tag, rest) ← Json.tagged? v
    if tag = "text" then
      let members ← Json.fields? [⟨"text", false⟩] rest
      (Json.required? readText members "text").map some
    else return none

def readWholeText? (v : Json) : Option CitedText := do
  let members ← Json.fields? [⟨"value", true⟩, ⟨"annotations", true⟩] v
  return ⟨← Json.defaulted? "" Json.string? members "value",
    ← Json.defaulted? [] readAnnotations? members "annotations"⟩

def readTextPiece? (v : Json) : Option CitedText := do
  let members ← Json.fields? [⟨"value", false⟩, ⟨"annotations", false⟩] v
  return ⟨(← Json.nullable? Json.string? members "value").getD "",
    (← Json.nullable? readAnnotations? members "annotations").getD []⟩

def readThreadMessage? (v : Json) : Option ThreadMessage := do
  let members ← Json.fields? [⟨"role", false⟩, ⟨"content", true⟩] v
  return ⟨← Json.required? Json.string? members "role",
    ← Json.defaulted? [] (readTexts? readWholeText?) members "content"⟩

def readMessageList? (v : Json) : Option (List ThreadMessage) := do
  let members ← Json.fields? [⟨"data", true⟩] v
  Json.defaulted? [] (Json.readList? readThreadMessage?) members "data"

def readMessageDelta? (v : Json) : Option (List CitedText) := do
  let outer ← Json.fields? [⟨"delta", false⟩] v
  let delta ← Json.required? (Json.fields? [⟨"content", true⟩]) outer "delta"
  Json.defaulted? [] (readTexts? readTextPiece?) delta "content"

def CitedText.updates (t : CitedText) : List Update :=
  (if t.value = "" then [] else [.text t.value]) ++ t.citations.map .citation

def CitedText.addTo (r : AgentResponse) (t : CitedText) : AgentResponse :=
  { r with text := r.text ++ t.value, citations := r.citations ++ t.citations }

def answer? (messages : List ThreadMessage) : Option AgentResponse :=
  match messages.filter (·.role == "assistant") with
  | [] => none
  | answers => some ((answers.flatMap (·.texts)).foldl CitedText.addTo .empty)

end ChatAgents.Hosting
