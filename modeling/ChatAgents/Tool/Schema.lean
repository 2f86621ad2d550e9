import ChatAgents.Error
import ChatAgents.Json.Basic
set_option autoImplicit false

namespace ChatAgents

def checkSchema (schema : Json) : Except SchemaError Unit :=
  match schema.members? with
  | none => .error .notObject
  | some _ =>
    if (schema.get? "type").bind Json.string? ≠ some "object" then .error .rootNotObject
    else
      match schema.get? "required" with
      | none => .ok ()
      | some required =>
        match required.items? with
        | none => .error .requiredNotStrings
        | some names =>
          if names.all (·.string?.isSome) then .ok () else .error .requiredNotStrings

structure Schema where
  json : Json
  accepted : checkSchema json = .ok ()

def Schema.ofJson (json : Json) : Except SchemaError Schema :=
  match h : checkSchema json with
  | .ok () => .ok ⟨json, h⟩
  | .error e => .error e

def Schema.any : Schema where
  json := .obj [("additionalProperties", .bool true), ("properties", .obj []),
    ("required", .arr []), ("type", .str "object")]
  accepted := rfl

inductive ArgumentFault where
  | notObject
  | schemaNotObject
  | missing (name : String)
  | unknown (key : String)
  | mistyped (key type : String)
deriving DecidableEq

def ArgumentFault.message : ArgumentFault → String
  | .notObject => "arguments must be a JSON object"
  | .schemaNotObject => "tool schema must be a JSON object"
  | .missing name => "missing required field: " ++ name
  | .unknown key => "unknown field: " ++ key
  | .mistyped key type => "field '" ++ key ++ "' must be of type " ++ type

def typeNames : List String :=
  ["string", "integer", "number", "boolean", "object", "array", "null"]

def Json.types : Json → List String
  | .null => ["null"]
  | .bool _ => ["boolean"]
  | .int _ => ["integer", "number"]
  | .float _ => ["number"]
  | .str _ => ["string"]
  | .arr _ => ["array"]
  | .obj _ => ["object"]

/-- The value is of a type that a schema names. A name that is no type is met by any value. -/
def Json.hasType (v : Json) (type : String) : Bool :=
  v.types.contains type || !typeNames.contains type

def hasMember (members : List (String × Json)) (key : String) : Bool := members.any (·.1 == key)

def firstMissing? (schema : Json) (args : List (String × Json)) : Option String :=
  (((schema.get? "required").bind Json.items?).getD []).findSome? fun entry =>
    entry.string?.filter fun name => !hasMember args name

def properties (schema : Json) : List (String × Json) :=
  ((schema.get? "properties").bind Json.members?).getD []

def firstUnknown? (schema : Json) (args : List (String × Json)) : Option String :=
  if (schema.get? "additionalProperties").bind Json.bool? = some false then
    (args.find? fun (key, _) => !hasMember (properties schema) key).map (·.1)
  else none

def firstMistyped? (schema : Json) (args : List (String × Json)) : Option (String × String) :=
  args.findSome? fun (key, value) => do
    let type ← (← (← (properties schema).lookup key).get? "type").string?
    if value.hasType type then none else some (key, type)

def checkArguments (schema args : Json) : Except ArgumentFault Unit :=
  match args.members? with
  | none => .error .notObject
  | some args =>
    if schema.members?.isNone then .error .schemaNotObject
    else
      match firstMissing? schema args with
      | some name => .error (.missing name)
      | none =>
        match firstUnknown? schema args with
        | some key => .error (.unknown key)
        | none =>
          match firstMistyped? schema args with
          | some (key, type) => .error (.mistyped key type)
          | none => .ok ()

end ChatAgents
