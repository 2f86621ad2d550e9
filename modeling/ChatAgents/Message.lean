import ChatAgents.Text.Encoding
set_option autoImplicit false

namespace ChatAgents

inductive Role where
  | user
  | assistant
deriving DecidableEq

def Role.name : Role → String
  | .user => "user"
  | .assistant => "assistant"

inductive ContentPart where
  | text (s : String)
  /-- An image carried in the message itself. -/
  | image (mediaType : String) (data : List UInt8)
  | imageUrl (url : String)
deriving DecidableEq

namespace ContentPart

def text? : ContentPart → Option String
  | .text s => some s
  | _ => none

/-- The address of an image; one carried in the message becomes a data URL. -/
def imageUrl? : ContentPart → Option String
  | .text _ => none
  | .image mediaType data => some ("data:" ++ mediaType ++ ";base64," ++ Text.Base64.encode data)
  | .imageUrl url => some url

def isImage (p : ContentPart) : Bool := p.text?.isNone

end ContentPart

def joinText (parts : List ContentPart) : String := String.join (parts.filterMap ContentPart.text?)

structure ChatMessage where
  role : Role
  parts : List ContentPart
deriving DecidableEq

namespace ChatMessage

def user (text : String) : ChatMessage := ⟨.user, [.text text]⟩

def assistant (text : String) : ChatMessage := ⟨.assistant, [.text text]⟩

def withImage (m : ChatMessage) (mediaType : String) (data : List UInt8) : ChatMessage :=
  { m with parts := m.parts ++ [.image mediaType data] }

def withImageUrl (m : ChatMessage) (url : String) : ChatMessage :=
  { m with parts := m.parts ++ [.imageUrl url] }

def text (m : ChatMessage) : String := joinText m.parts

def hasImages (m : ChatMessage) : Bool := m.parts.any ContentPart.isImage

end ChatMessage

inductive CitationSource where
  | url (url : String) (title : Option String)
  | file (id : String) (quote : Option String)
deriving DecidableEq

structure Citation where
  /-- The span in the answer, if the service gives one. -/
  text : Option String
  source : CitationSource
deriving DecidableEq

def CitationSource.display : CitationSource → String
  | .url address (some title) => title ++ " <" ++ address ++ ">"
  | .url address none => "<" ++ address ++ ">"
  | .file id (some quote) => "file " ++ id ++ ": \"" ++ quote ++ "\""
  | .file id none => "file " ++ id

def Citation.display (c : Citation) : String :=
  match c.text with
  | some text => text ++ " " ++ c.source.display
  | none => c.source.display

end ChatAgents
