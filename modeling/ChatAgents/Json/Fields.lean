import ChatAgents.Json.Parser
set_option autoImplicit false

/-!
# Reading records

A record is read from the document as it stands: members that the record does not know are passed
over, a known member may stand there once only, and every type is strict. A reader answers `none`
for whatever is not of its type.
-/

namespace ChatAgents.Json

structure FieldName where
  name : String
  hasDefault : Bool

/-- The member called `name`: `none` if it is repeated, `some none` if it is missing. -/
def field? (members : List (String × Json)) (name : String) : Option (Option Json) :=
  match members.filter (·.1 == name) with
  | [] => some none
  | [(_, v)] => some (some v)
  | _ => none

/-- The members of a record. The short form is an array of the values in order, in which only
members with a default may be missing at the end. -/
def fields? (names : List FieldName) : Json → Option (List (String × Json))
  | .obj members => some members
  | .arr items =>
    if items.length ≤ names.length ∧ (names.drop items.length).all (·.hasDefault) then
      some ((names.map (·.name)).zip items)
    else none
  | _ => none

def required? {α : Type} (read : Json → Option α) (members : List (String × Json)) (name : String) :
    Option α := do
  read (← ← field? members name)

def nullable? {α : Type} (read : Json → Option α) (members : List (String × Json)) (name : String) :
    Option (Option α) := do
  match ← field? members name with
  | none | some .null => some none
  | some v => (read v).map some

/-- A member that has a value when it is missing, but may not be `null`. -/
def defaulted? {α : Type} (default : α) (read : Json → Option α) (members : List (String × Json))
    (name : String) : Option α := do
  match ← field? members name with
  | none => some default
  | some v => read v

def readList? {α : Type} (read : Json → Option α) (v : Json) : Option (List α) :=
  v.items?.bind (List.mapM read)

/-- The name of a case without data: a text, or an object whose one member is called that and is
`null`. -/
def caseName? : Json → Option String
  | .str name | .obj [(name, .null)] => some name
  | _ => none

def readNat? (max : Nat) : Json → Option Nat
  | .int n => if 0 ≤ n ∧ n ≤ max then some n.toNat else none
  | _ => none

def readWord? (v : Json) : Option UInt32 := (readNat? (UInt32.size - 1) v).map UInt32.ofNat

/-- The `type` of a tagged record, and its other members. The short form puts the type first. -/
def tagged? : Json → Option (String × Json)
  | .obj members => do
    let tag ← required? string? members "type"
    some (tag, .obj (members.filter (·.1 != "type")))
  | .arr (.str tag :: rest) => some (tag, .arr rest)
  | _ => none

def readText? {α : Type} (read : Json → Option α) (cs : List Char) : Option α :=
  (document? maxDepth cs).bind read

end ChatAgents.Json
