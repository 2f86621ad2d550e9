import ChatAgents.Text.Characters
import ChatAgents.Tool.Basic
set_option autoImplicit false

namespace ChatAgents.Menu

def specials : List (String × String) :=
  [("Soup", "Clam Chowder"), ("Salad", "Cobb Salad"), ("Drink", "Chai Tea")]

def prices : List (String × String) :=
  [("clam chowder", "$9.99"), ("cobb salad", "$9.99"), ("chai tea", "$9.99"),
   ("house salad", "$7.49"), ("tomato soup", "$5.99")]

def specialsText : String :=
  "\n".intercalate (specials.map fun (course, item) => "Special " ++ course ++ ": " ++ item)

def price? (item : String) : Option String :=
  (prices.find? fun (name, _) => Text.equalsFolded (Text.trim item) name).map (·.2)

def specialsSchema : Schema where
  json := .obj [("additionalProperties", .bool false), ("properties", .obj []),
    ("required", .arr []), ("type", .str "object")]
  accepted := rfl

def priceSchema : Schema where
  json := .obj [("additionalProperties", .bool false),
    ("properties", .obj [("menuItem",
      .obj [("description", .str "The name of the menu item."), ("type", .str "string")])]),
    ("required", .arr [.str "menuItem"]), ("type", .str "object")]
  accepted := rfl

def getSpecials : Tool where
  name := "GetSpecials"
  description := "Provides a list of specials from the menu."
  schema := specialsSchema
  handler := fun _ => .ok specialsText

def getItemPrice : Tool where
  name := "GetItemPrice"
  description := "Provides the price of the requested menu item."
  schema := priceSchema
  handler := fun args =>
    match (args.get? "menuItem").bind Json.string? with
    | none => .error (.execution "menuItem missing")
    | some item =>
      match price? item with
      | some price => .ok price
      | none => .error (.execution ("'" ++ item ++ "' is not on the menu"))

def tools : List Tool := [getSpecials, getItemPrice]

end ChatAgents.Menu
