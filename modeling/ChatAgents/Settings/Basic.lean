import ChatAgents.Error
import ChatAgents.Text.Characters
set_option autoImplicit false

namespace ChatAgents

/-- Named values in the order they were given; of several with one name the last counts. -/
structure Settings where
  entries : List (String × String)

namespace Settings

def raw? (s : Settings) (key : String) : Option String :=
  (s.entries.reverse.find? (·.1 == key)).map (·.2)

def optional (s : Settings) (key : String) : Option String :=
  ((s.raw? key).map Text.trim).filter (· ≠ "")

def require (s : Settings) (key : String) : Except SettingError String :=
  match s.optional key with
  | some value => .ok value
  | none => .error (.missing key)

def orDefault (s : Settings) (key default : String) : String := (s.optional key).getD default

def requireAll (s : Settings) : List String → Except SettingError Unit
  | [] => .ok ()
  | key :: keys =>
    match s.require key with
    | .ok _ => s.requireAll keys
    | .error e => .error e

def hasHttpScheme (url : String) : Bool := "https://".isPrefixOf url || "http://".isPrefixOf url

def url (s : Settings) (key : String) : Except SettingError String :=
  match s.require key with
  | .error e => .error e
  | .ok value =>
    if hasHttpScheme value then .ok (Text.dropTrailingSlashes value)
    else .error (.invalid key ("expected an http(s) URL, got '" ++ value ++ "'"))

end Settings
end ChatAgents
