import ChatAgents.Error
import ChatAgents.Http.EventStream
import ChatAgents.Http.Url
import ChatAgents.Json.Fields
import ChatAgents.Json.Printer
import ChatAgents.Text.Encoding
import ChatAgents.Work
set_option autoImplicit false

/-!
# The network

The network is a value: the replies that the other side will give, the exchanges that took place,
and a clock. A call takes the next reply and writes down the exchange. A request that cannot be put
together is never sent, and with nobody on the other side none arrives.
-/

namespace ChatAgents.Http

/-- The registered phrases of the status codes other than success. -/
def statusPhrases : List (Nat × String) :=
  [(300, "Multiple Choices"), (301, "Moved Permanently"), (302, "Found"), (303, "See Other"),
   (304, "Not Modified"), (305, "Use Proxy"), (307, "Temporary Redirect"),
   (308, "Permanent Redirect"), (400, "Bad Request"),
   (401, "Unauthorized"), (402, "Payment Required"), (403, "Forbidden"), (404, "Not Found"),
   (405, "Method Not Allowed"), (406, "Not Acceptable"), (407, "Proxy Authentication Required"),
   (408, "Request Timeout"), (409, "Conflict"), (410, "Gone"), (411, "Length Required"),
   (412, "Precondition Failed"), (413, "Payload Too Large"), (414, "URI Too Long"),
   (415, "Unsupported Media Type"), (416, "Range Not Satisfiable"), (417, "Expectation Failed"),
   (418, "I'm a teapot"), (421, "Misdirected Request"), (422, "Unprocessable Entity"),
   (423, "Locked"), (424, "Failed Dependency"), (425, "Too Early"), (426, "Upgrade Required"),
   (428, "Precondition Required"), (429, "Too Many Requests"),
   (431, "Request Header Fields Too Large"), (451, "Unavailable For Legal Reasons"),
   (500, "Internal Server Error"), (501, "Not Implemented"), (502, "Bad Gateway"),
   (503, "Service Unavailable"), (504, "Gateway Timeout"), (505, "HTTP Version Not Supported"),
   (506, "Variant Also Negotiates"), (507, "Insufficient Storage"), (508, "Loop Detected"),
   (510, "Not Extended"), (511, "Network Authentication Required")]

def statusPhrase? (code : Nat) : Option String := statusPhrases.lookup code

def isSuccess (code : Nat) : Bool := 200 ≤ code && code ≤ 299

inductive Method where
  | get
  | post
  | delete
deriving DecidableEq

def Method.name : Method → String
  | .get => "GET"
  | .post => "POST"
  | .delete => "DELETE"

structure Request where
  method : Method
  url : Url
  headers : List (String × String)
  body : Option Json

structure Response where
  status : Nat
  body : List UInt8
  /-- The body arrived to its end. -/
  complete : Bool
deriving DecidableEq

inductive Answer where
  | closed
  | response (r : Response)
deriving DecidableEq

def Answer.response? : Answer → Option Response
  | .closed => none
  | .response r => some r

structure Reply where
  answer : Answer
  delay : Nat
deriving DecidableEq

/-- Who is on the other side: nobody, or a peer with its replies in order. -/
inductive Link where
  | unreachable
  | scripted (replies : List Reply)
deriving DecidableEq

/-- What a peer answers that has no reply left. -/
def exhausted : Answer :=
  .response
    ⟨500, Text.Utf8.encode "\x7b\"error\":\x7b\"message\":\"script exhausted\"\x7d\x7d", true⟩

structure Exchange where
  request : Request
  answer : Answer

structure Network where
  link : Link
  log : List Exchange
  /-- Milliseconds since the beginning. -/
  clock : Nat

namespace Network

def connect (link : Link) : Network := ⟨link, [], 0⟩

def remaining (n : Network) : Nat :=
  match n.link with
  | .unreachable => 0
  | .scripted replies => replies.length

/-- Sends a request; `none` if no response comes. -/
def exchange (n : Network) (r : Request) : Option Response × Network :=
  match n.link with
  | .unreachable => (none, n)
  | .scripted [] => (exhausted.response?, { n with log := n.log ++ [⟨r, exhausted⟩] })
  | .scripted (reply :: rest) =>
    (reply.answer.response?,
      ⟨.scripted rest, n.log ++ [⟨r, reply.answer⟩], n.clock + reply.delay⟩)

def wait (n : Network) (milliseconds : Nat) : Network := { n with clock := n.clock + milliseconds }

end Network

structure Draft where
  method : Method
  address : String
  fields : List (String × String)
  headers : List (String × String)
  body : Option Json

def isHeaderChar (c : Char) : Bool := c == '\t' || (0x20 ≤ c.toNat && c.toNat ≠ 0x7F)

def isHeaderValue (s : String) : Bool := s.toList.all isHeaderChar

inductive CallFault where
  | unbuildable
  /-- The address is one, but not of a server. -/
  | unsendable (address : String)
  | unanswered (address : String)

def CallFault.message : CallFault → String
  | .unbuildable => "builder error"
  | .unsendable address => "builder error for url (" ++ address ++ ")"
  | .unanswered address => "error sending request for url (" ++ address ++ ")"

def basicAuthorization (user : String) (password : Option String) : String × String :=
  ("authorization",
    "Basic " ++ Text.Base64.encode (Text.Utf8.encode (user ++ ":" ++ password.getD "")))

/-- Checks the parts of a request. A user and a password move from the address into a header. -/
def Draft.build (d : Draft) : Except CallFault Request :=
  match Url.parse? d.address with
  | none => .error .unbuildable
  | some url =>
    if !url.hasHost then .error (.unsendable url.text)
    else
      let credentials := url.credentials?
      let url := if credentials.isSome then url.anonymous else url
      let url := d.fields.foldl (fun u f => u.addField f.1 f.2) url
      if !d.headers.all (fun h => isHeaderValue h.2) then .error .unbuildable
      else if !url.isSendable then .error (.unsendable url.text)
      else
        .ok {
          method := d.method
          url
          headers :=
            (credentials.map fun c => basicAuthorization c.1 c.2).toList ++ d.headers ++
              if d.body.isSome then [("content-type", "application/json")] else []
          body := d.body }

abbrev Calls (ε α : Type) := Work Network ε α

def fetch (d : Draft) : Calls CallFault Response := fun n =>
  match d.build with
  | .error fault => (.error fault, n)
  | .ok request =>
    match n.exchange request with
    | (some response, n') => (.ok response, n')
    | (none, n') => (.error (.unanswered request.url.text), n')

structure ServiceError where
  message : Option String
  code : Option Json

def ServiceError.read? (v : Json) : Option ServiceError := do
  let outer ← Json.fields? [⟨"error", false⟩] v
  let inner ← Json.required? some outer "error"
  let members ← Json.fields? [⟨"message", false⟩, ⟨"code", false⟩] inner
  return ⟨← Json.nullable? Json.string? members "message",
    (← Json.nullable? some members "code").map Json.canonical⟩

def ServiceError.text (e : ServiceError) : String :=
  let message := e.message.getD "unknown service error"
  match e.code with
  | none => message
  | some (.str code) => code ++ ": " ++ message
  | some code => code.render ++ ": " ++ message

/-- The service's own words for a failure: those in the body, the body itself, or, without one, the
phrase of the status. A body that broke off counts as none. -/
def failureText (r : Response) : String :=
  let body := if r.complete then Text.Utf8.decodeLossy r.body else []
  match Json.readText? ServiceError.read? body with
  | some e => e.text
  | none =>
    if body = [] then (statusPhrase? r.status).getD "request failed" else String.ofList body

def send (d : Draft) : Calls RemoteError Response := fun n =>
  match fetch d n with
  | (.error fault, n') => (.error (.transport fault.message), n')
  | (.ok r, n') =>
    if isSuccess r.status then (.ok r, n') else (.error (.status r.status (failureText r)), n')

def undecodable : String := "error decoding response body"

def Response.read? {α : Type} (r : Response) (read : Json → Option α) : Option α :=
  if r.complete then (Text.Utf8.decode? r.body).bind (Json.readText? read) else none

def Response.decode {α : Type} (r : Response) (read : Json → Option α) : Except RemoteError α :=
  match r.read? read with
  | some a => .ok a
  | none => .error (.response undecodable)

def sendFor {α : Type} (read : Json → Option α) (d : Draft) : Calls RemoteError α := do
  let response ← send d
  Work.ofExcept (response.decode read)

structure Feed where
  events : List Event
  fault : Option RemoteError

def Response.feed (r : Response) : Feed :=
  if r.complete then ⟨decodeBody r.body, none⟩
  else ⟨decodeBroken r.body, some (.response undecodable)⟩

def sendForEvents (d : Draft) : Calls RemoteError Feed := do
  let response ← send d
  return response.feed

end ChatAgents.Http
