import RpcSchema.Wire.Reading

/-!
Inputs of a recursive type, and inputs with a field of every kind, to try reading on.
-/

namespace RpcSchema.Wire

open Decimal Json

/-- A pet with friends of its own. -/
structure Pet where
  name : String := ""
  species : String := ""
  friends : List Pet := []

namespace Pet

mutual
def payload : Value → Option Pet
  | .object members => ofMembers members {}
  | .array [] => some {}
  | .array [name] => do
    return { name := ← Payload.string name }
  | .array [name, species] => do
    return { name := ← Payload.string name, species := ← Payload.string species }
  | .array [name, species, friends] => do
    return {
      name := ← Payload.string name
      species := ← Payload.string species
      friends := ← friendsOf friends }
  | _ => none

def ofMembers : List (String × Value) → Pet → Option Pet
  | [], pet => some pet
  | (key, value) :: rest, pet => do
    let pet ←
      match key with
      | "name" => (Payload.string value).map fun name => { pet with name := name }
      | "species" => (Payload.string value).map fun species => { pet with species := species }
      | "friends" => (friendsOf value).map fun friends => { pet with friends := friends }
      | _ => some pet
    ofMembers rest pet

def friendsOf : Value → Option (List Pet)
  | .array items => petsOf items
  | _ => none

def petsOf : List Value → Option (List Pet)
  | [] => some []
  | item :: rest => do
    return (← payload item) :: (← petsOf rest)
end

mutual
/-- A pet without a species is a ferret, and so are its friends. -/
def withDefaults : Pet → Pet
  | ⟨name, species, friends⟩ =>
    ⟨name, if species.isEmpty then "ferret" else species, allWithDefaults friends⟩

def allWithDefaults : List Pet → List Pet
  | [] => []
  | pet :: rest => pet.withDefaults :: allWithDefaults rest
end

mutual
/-- The first rule that a pet breaks: its own rules first, then those of its friends in order. -/
def fault? : Pet → Option FieldFault
  | ⟨name, species, friends⟩ =>
    if name.isEmpty then some ⟨"name", "is required"⟩
    else if species != "ferret" && species != "cat" then
      some ⟨"species", "must be one of: \"ferret\", \"cat\""⟩
    else friendFault? 0 friends

def friendFault? (index : Nat) : List Pet → Option FieldFault
  | [] => none
  | pet :: rest =>
    match pet.fault? with
    | some fault => some (fault.atElement index)
    | none => friendFault? (index + 1) rest
end

def rules : Rules Pet where
  withDefaults := withDefaults
  fault? := fault?

end Pet

/-- A record with a field of every kind. -/
structure Assortment where
  string : String := ""
  boolean : Bool := false
  integer : Int := 0
  float : Binary64 := ⟨0⟩
  array : List String := []
  object : Value := .object []
  optional : Option String := none

def Assortment.payload : Payload Assortment :=
  .record
    [.of "string" .string fun value record => { record with string := value },
      .of "boolean" .bool fun value record => { record with boolean := value },
      .of "integer" .integer fun value record => { record with integer := value },
      .of "float" .float fun value record => { record with float := value },
      .of "array" (.list .string) fun value record => { record with array := value },
      .of "object" .object fun value record => { record with object := value },
      .of "optional" (.optional .string) fun value record => { record with optional := value }]
    {}

end RpcSchema.Wire
