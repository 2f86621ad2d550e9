import ChatAgents.Numeric.Shortest
set_option autoImplicit false

/-!
# JSON values

A value as it stands in a document keeps the order of an object's members and their repetitions.
`canonical` gives the value that the document means: members sorted by key, the last of several
with one key.
-/

namespace ChatAgents

open Numeric (Binary Format)

inductive Json where
  | null
  | bool (b : Bool)
  /-- An integer literal of at most 64 bits. -/
  | int (n : Int)
  /-- Any other number, in double precision. -/
  | float (x : Binary)
  | str (s : String)
  | arr (items : List Json)
  | obj (members : List (String × Json))
deriving Inhabited

namespace Json

def insertMember (key : String) (value : Json) : List (String × Json) → List (String × Json)
  | [] => [(key, value)]
  | (k, v) :: rest =>
    if key < k then (key, value) :: (k, v) :: rest
    else if k < key then (k, v) :: insertMember key value rest
    else (key, value) :: rest

/-- Members sorted by key; of several with one key the last counts. -/
def sortMembers (members : List (String × Json)) : List (String × Json) :=
  members.foldl (fun sorted (k, v) => insertMember k v sorted) []

mutual
/-- The value a document means, with the members of every object sorted. -/
def canonical : Json → Json
  | .arr items => .arr (canonicalItems items)
  | .obj members => .obj (sortMembers (canonicalMembers members))
  | v => v

def canonicalItems : List Json → List Json
  | [] => []
  | v :: rest => v.canonical :: canonicalItems rest

def canonicalMembers : List (String × Json) → List (String × Json)
  | [] => []
  | (k, v) :: rest => (k, v.canonical) :: canonicalMembers rest
end

def members? : Json → Option (List (String × Json))
  | .obj members => some members
  | _ => none

def items? : Json → Option (List Json)
  | .arr items => some items
  | _ => none

def string? : Json → Option String
  | .str s => some s
  | _ => none

def bool? : Json → Option Bool
  | .bool b => some b
  | _ => none

def get? (v : Json) (key : String) : Option Json :=
  v.members?.bind fun members => (members.find? (·.1 == key)).map (·.2)

def record (members : List (String × Option Json)) : Json :=
  .obj (members.filterMap fun (k, v?) => v?.map fun v => (k, v))

def empty : Json := .obj []

def ofNat (n : Nat) : Json := .int n

def optional {α : Type} (write : α → Json) : Option α → Json
  | some a => write a
  | none => .null

def list {α : Type} (write : α → Json) (xs : List α) : Json := .arr (xs.map write)

end Json
end ChatAgents
