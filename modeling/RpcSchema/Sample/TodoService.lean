import RpcSchema.Wire.Service

/-!
A service for the small to-do schema, to try requests on.
-/

namespace RpcSchema.Wire

/-- A to-do list. A number that was given away is not given again. -/
structure TodoList where
  lastId : Nat := 0
  items : List (Nat × String) := []

namespace TodoList

def add (todo : TodoList) (text : String) : TodoList where
  lastId := todo.lastId + 1
  items := todo.items ++ [(todo.lastId + 1, text)]

/-- The item of a number, and the list without it. -/
def remove? (todo : TodoList) (id : Int) : Option ((Nat × String) × TodoList) :=
  (todo.items.find? fun item => (item.1 : Int) == id).map fun item =>
    (item, { todo with items := todo.items.filter fun other => other.1 != item.1 })

def itemValue (item : Nat × String) : Json.Value :=
  .object [("id", .integer item.1), ("text", .string item.2)]

def textInput : Payload String := .record [.of "item" .string fun text _ => text] ""

def textRules : Rules String where
  fault? text := if text.isEmpty then some ⟨"item", "is required"⟩ else none

/-- Adds an item, unless the caller may only read. -/
def addItem : Endpoint TodoList where
  name := "add_item"
  Inputs := String
  read := Request.readChecked textInput textRules
  run request text todo :=
    if request.bearerToken? = some "readonly" then
      (.error ⟨403, "forbidden", "Read-only token"⟩, todo)
    else (.ok .empty, todo.add text)

def getItems : Endpoint TodoList where
  name := "get_items"
  Inputs := Unit
  read _ := .ok ()
  run _ _ todo :=
    (.ok (.outputs (some (.object [("items", .array (todo.items.map itemValue))]))), todo)

def idInput : Payload Int := .record [.of "id" .integer fun id _ => id] 0

def removeItem : Endpoint TodoList where
  name := "remove_item"
  Inputs := Int
  read := Request.read idInput
  run _ id todo :=
    match todo.remove? id with
    | some (item, todo) => (.ok (.outputs (some (.object [("item", itemValue item)]))), todo)
    | none => (.error ⟨404, "not_found", "item not found"⟩, todo)

def service (isHealthy : Bool) : Service TodoList where
  isHealthy _ := isHealthy
  endpoints := [addItem, getItems, removeItem]

end TodoList

end RpcSchema.Wire
