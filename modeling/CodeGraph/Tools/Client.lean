import CodeGraph.Json.Reader
import CodeGraph.Json.Text
import CodeGraph.Text.Blank

namespace CodeGraph

/-- A server of tools, and the time in seconds that a call may take. -/
structure ToolClient where
  server : String
  timeout : Json := .float 10.0

/-- A request to a server. -/
structure HttpPost where
  url : String
  body : Json
  timeout : Json

/-- How a request ended: it was not answered, for a reason, or answered with a status and a text. -/
inductive HttpReply where
  | unanswered (reason : String)
  | answered (status : Int) (phrase : String) (body : String)
deriving Repr

namespace ToolClient

/-- The address to which calls are sent. -/
def endpoint (client : ToolClient) : String :=
  String.ofList (Text.dropRightWhile (· == '/') client.server.toList) ++ "/tools/call"

/-- The request for a call. -/
def post (client : ToolClient) (name : String) (parameters : Json) : HttpPost :=
  { url := client.endpoint
    body := .obj [("name", .str name), ("arguments", parameters)]
    timeout := client.timeout }

/-- What a status code means for a request, if it is an error. -/
def statusFault? (status : Int) (phrase url : String) : Option String :=
  if 400 ≤ status ∧ status < 500 then some s!"{status} Client Error: {phrase} for url: {url}"
  else if 500 ≤ status ∧ status < 600 then some s!"{status} Server Error: {phrase} for url: {url}"
  else none

/-- The result of a call in an answer. A result that is no object is put into one. -/
def resultOf (name : String) : Json → Except String Json
  | .obj members =>
    match (Members.get? members "error").filter Json.isTruthy with
    | some error => .error s!"Tool {name} failed: {error.text}"
    | none =>
      match Members.get? members "result" with
      | none => .ok (.obj members)
      | some (.obj result) => .ok (.obj result)
      | some result => .ok (.obj [("result", result)])
  | value => .error s!"Tool {name} returned {value.typeName}, expected object"

/-- The result of a call, for how its request ended. -/
def result (client : ToolClient) (name : String) : HttpReply → Except String Json
  | .unanswered reason => .error s!"Tool {name} failed: {reason}"
  | .answered status phrase body =>
    match statusFault? status phrase client.endpoint with
    | some fault => .error s!"Tool {name} failed: {fault}"
    | none =>
      match Json.parse body with
      | .error e => .error s!"Tool {name} failed: {e.message}"
      | .ok value => resultOf name value

end ToolClient

end CodeGraph
