/-
Module: ChatRobots.Http.Response
Purpose: Requests to the server and its responses.
Main exports: Request, Response, Body
-/
import ChatRobots.Json.Basic
import ChatRobots.Text.Utf8

namespace ChatRobots.Http

/-!
A request is a method, a target with an optional query, a content type if there is one, and bytes.
A response has a status and a body; what the body is decides the content type.  A response to the
wrong method tells which methods are allowed.
-/

/-- A request to the server. -/
structure Request where
  method : String
  path : String
  query : String
  contentType : Option String
  body : List UInt8

namespace Request

/-- A request whose target is path and query in one text; a fragment is no part of either. -/
def ofTarget (method target : String) (contentType : Option String) (body : List UInt8) :
    Request :=
  let target := target.toList.takeWhile (· != '#')
  ⟨method, String.ofList (target.takeWhile (· != '?')),
    String.ofList ((target.dropWhile (· != '?')).drop 1), contentType, body⟩

end Request

inductive Body where
  | empty
  | text (content : String)
  | json (value : Json)

namespace Body

def contentType? : Body → Option String
  | .empty => none
  | .text _ => some "text/plain; charset=utf-8"
  | .json _ => some "application/json"

def render : Body → String
  | .empty => ""
  | .text content => content
  | .json value => value.render

end Body

/-- A response of the server. -/
structure Response where
  status : Nat
  body : Body
  /-- The methods that are allowed, when the request used another one. -/
  allow : Option String := none
  /-- The body is described and not sent. -/
  headOnly : Bool := false

namespace Response

/-- A response with a text. -/
def plain (status : Nat) (content : String) : Response :=
  { status := status, body := .text content }

/-- A response with data. -/
def data (status : Nat) (value : Json) : Response :=
  { status := status, body := .json value }

/-- The response to a target that the server does not have. -/
def notFound : Response :=
  { status := 404, body := .empty }

/-- The response to a method that a target does not have. -/
def wrongMethod (allow : String) : Response :=
  { status := 405, body := .empty, allow := some allow }

/-- The response without its body. -/
def withoutBody (response : Response) : Response :=
  { response with headOnly := true }

/-- The body that is sent. -/
def sentBody (response : Response) : Body :=
  if response.headOnly then .empty else response.body

end Response

end ChatRobots.Http
