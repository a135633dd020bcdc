import RpcSchema.Schema.Basic

/-!
A small schema to try generators on.
-/

namespace RpcSchema

open Json

/-- A to-do list: references, arrays, required and read-only fields, a group and examples. -/
def Schema.todo : Schema where
  name := "todo"
  version := "1.0.0"
  description := "A to-do list API."
  groups := [
    { name := "items"
      description := "Methods for managing to-do items."
      summary := "Item management" }]
  methods := [
    { name := "add_item"
      description := "adds an item to the list."
      group := "items"
      inputs := [
        { name := "item"
          description := "the item to add."
          required := true
          type := .primitive .string }]
      examples := [
        { name := "Add an item"
          description := "Adds a single item."
          input := some (.object [("item", .string "Buy milk")]) }] },
    { name := "get_items"
      description := "returns all items in the list."
      group := "items"
      outputs := [
        { name := "items"
          description := "the list of to-do items."
          type := .primitive .array
          items := some (.reference (.toType "item")) }] },
    { name := "remove_item"
      description := "removes an item from the to-do list."
      group := "items"
      inputs := [
        { name := "id"
          description := "the id of the item to remove."
          type := .primitive .integer }]
      outputs := [
        { name := "item"
          description := "the item removed."
          type := .reference (.toType "item") }] }]
  types := [
    ("item",
      { name := "item"
        description := "is a to-do item."
        properties := [
          { name := "created_at"
            description := "the time the to-do item was created."
            type := .primitive .timestamp },
          { name := "id"
            description := "the id of the item."
            readonly := true
            type := .primitive .integer },
          { name := "text"
            description := "the to-do item text."
            required := true
            type := .primitive .string }]
        examples := [
          { description := "A pending item."
            value := .object [("id", .integer 1), ("text", .string "Buy milk")] }] })]

end RpcSchema
