/-!
Requests that a generated server answers.

The rule of this module is which part of a request counts: the path without what stands around it,
and of several headers with one name the first.
-/

namespace RpcSchema.Wire

/-- A request over HTTP. -/
structure Request where
  /-- The request method; its case counts. -/
  verb : String := "POST"
  /-- The address, as a path or with a scheme and host in front of it. -/
  target : String := "/"
  /-- Names and values in the order they were sent. -/
  headers : List (String × String) := []
  body : ByteArray := .empty

/-- What stands behind the first `://` of an address, if there is one. -/
def behindScheme? : List Char → Option (List Char)
  | ':' :: '/' :: '/' :: rest => some rest
  | _ :: rest => behindScheme? rest
  | [] => none

/-- Whether a character ends the path of an address. -/
def endsPath (c : Char) : Bool := c == '?' || c == '#'

/-- Whether a character ends the host of an address. -/
def endsHost (c : Char) : Bool := c == '/' || endsPath c

/-- The path that an address starts with. -/
def leadingPath (address : List Char) : List Char := address.takeWhile fun c => !endsPath c

/-- The path of an address. One with a scheme has a path even when none is written; a bare host has
none. -/
def pathChars (address : List Char) : List Char :=
  match address with
  | '/' :: _ => leadingPath address
  | ['*'] => ['*']
  | _ =>
    match behindScheme? address with
    | some rest =>
      match leadingPath (rest.dropWhile fun c => !endsHost c) with
      | [] => ['/']
      | path => path
    | none => []

/-- Whether a header value can be read as text: visible ASCII characters, spaces and tabs. -/
def isReadable (value : String) : Bool :=
  value.toList.all fun c => (0x20 ≤ c.toNat && c.toNat < 0x7f) || c == '\t'

namespace Request

def path (request : Request) : String := String.ofList (pathChars request.target.toList)

/-- The first header of a name, given in lower case; absent when it cannot be read. -/
def header? (request : Request) (name : String) : Option String :=
  match request.headers.find? fun header => header.1.toLower == name with
  | some (_, value) => if isReadable value then some value else none
  | none => none

/-- The token of the `Authorization` header, when it is a bearer token. -/
def bearerToken? (request : Request) : Option String := do
  let value ← request.header? "authorization"
  match value.toList with
  | 'B' :: 'e' :: 'a' :: 'r' :: 'e' :: 'r' :: ' ' :: token => some (String.ofList token)
  | _ => none

end Request

example : pathChars "/a?b#c".toList = "/a".toList := by decide
example : pathChars "http://host?q".toList = "/".toList := by decide

end RpcSchema.Wire
