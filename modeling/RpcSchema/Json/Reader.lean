import RpcSchema.Json.Literal
import RpcSchema.Json.Node

/-!
Reading a text into its tree.
-/

namespace RpcSchema.Json

/-- A tree, and what follows it unless the text broke off inside. -/
abbrev Reading (α : Type) := α × Option Cursor

/-- One of the three words. -/
def readWordNode (value : Option Bool) (letters : List Char) (cursor : Cursor) : Reading Node :=
  match readWord letters cursor with
  | .ok after => (.word value after.position, some after)
  | .error fault => (.broken fault fault, none)

def readNumberNode (cursor : Cursor) : Reading Node :=
  match readNumber cursor with
  | .closed value after => (.number value after.position, some after)
  | .open taken passed => (.broken taken passed, none)

def readStringNode (cursor : Cursor) : Reading Node :=
  match readString cursor with
  | .closed text after => (.string text after.position, some after)
  | .open taken passed => (.broken taken passed, none)

mutual
/-- Reads the value a cursor stands before. -/
def readNode : Nat → Cursor → Reading Node
  | 0, cursor => (.absent cursor.place, none)
  | fuel + 1, cursor =>
    match cursor.rest with
    | [] => (.absent cursor.place, none)
    | c :: rest =>
      let inner : Cursor := ⟨rest, cursor.position.right 1⟩
      if c = 'n' then readWordNode none ['u', 'l', 'l'] inner
      else if c = 't' then readWordNode (some true) ['r', 'u', 'e'] inner
      else if c = 'f' then readWordNode (some false) ['a', 'l', 's', 'e'] inner
      else if c = '"' then readStringNode inner
      else if c = '-' || (digitValue c).isSome then readNumberNode cursor
      else if c = '[' then
        let (elements, after) := readFirstElement fuel inner.skipGap
        (.array cursor.place elements, after)
      else if c = '\x7b' then
        let (members, after) := readFirstMember fuel inner.skipGap
        (.object cursor.place members, after)
      else (.absent cursor.place, none)

/-- Reads what follows an opening bracket. -/
def readFirstElement : Nat → Cursor → Reading Elements
  | 0, cursor => (.cut cursor.place, none)
  | fuel + 1, cursor =>
    match cursor.rest with
    | [] => (.cut cursor.place, none)
    | ']' :: rest => (.close cursor.place, some ⟨rest, cursor.position.right 1⟩)
    | _ => readElements fuel cursor

/-- Reads an element and what follows it. -/
def readElements : Nat → Cursor → Reading Elements
  | 0, cursor => (.cut cursor.place, none)
  | fuel + 1, cursor =>
    match readNode fuel cursor with
    | (head, none) => (.next cursor.place head (.cut cursor.skipComma.place), none)
    | (head, some after) =>
      let follow := after.skipGap
      match follow.rest with
      | ']' :: rest =>
        (.next cursor.place head (.close follow.place),
          some ⟨rest, follow.position.right 1⟩)
      | ',' :: rest =>
        let (tail, after) :=
          readElements fuel (Cursor.skipGap ⟨rest, follow.position.right 1⟩)
        (.next cursor.place head tail, after)
      | _ => (.next cursor.place head (.cut follow.place), none)

/-- Reads what follows an opening brace. -/
def readFirstMember : Nat → Cursor → Reading Members
  | 0, cursor => (.cut cursor.place, none)
  | fuel + 1, cursor =>
    match cursor.rest with
    | '\x7d' :: rest => (.close cursor.place, some ⟨rest, cursor.position.right 1⟩)
    | _ => readMembers fuel true cursor

/-- Reads a member and what follows it. -/
def readMembers : Nat → Bool → Cursor → Reading Members
  | 0, _, cursor => (.cut cursor.place, none)
  | fuel + 1, first, cursor =>
    match cursor.rest with
    | '"' :: rest =>
      match readString ⟨rest, cursor.position.right 1⟩ with
      | .open taken passed => (.broken taken passed, none)
      | .closed key after =>
        let colon := after.skipGap
        match colon.rest with
        | ':' :: rest =>
          match readNode fuel (Cursor.skipGap ⟨rest, colon.position.right 1⟩) with
          | (value, none) => (.next key colon.place value colon.place (.cut colon.place), none)
          | (value, some after) =>
            let follow := after.skipGap
            match follow.rest with
            | '\x7d' :: rest =>
              (.next key colon.place value follow.place (.close follow.place),
                some ⟨rest, follow.position.right 1⟩)
            | ',' :: rest =>
              let (tail, after) :=
                readMembers fuel false (Cursor.skipGap ⟨rest, follow.position.right 1⟩)
              (.next key colon.place value follow.place tail, after)
            | _ => (.next key colon.place value follow.place (.cut follow.place), none)
        | _ => (.bare key colon.place, none)
    | _ => (.keyless first cursor.place, none)
end

/-- Reads a whole text. A bracket takes three steps, to its value, its first element and the value
of that, and nothing takes more of them for a character. -/
def Document.ofText (text : String) : Document :=
  let cursor := (Cursor.ofText text).skipGap
  let (root, after) := readNode (3 * cursor.rest.length + 1) cursor
  ⟨root, after.map fun cursor => cursor.skipGap.place⟩

end RpcSchema.Json
