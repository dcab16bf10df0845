import CodeGraph.Json.Access
import CodeGraph.Json.Reader
import CodeGraph.Lookup

namespace CodeGraph.Replay

/-- The bytes of a hexadecimal text. -/
def hexBytes : List Char → List UInt8
  | high :: low :: rest =>
    UInt8.ofNat (16 * (Json.hexValue? high).getD 0 + (Json.hexValue? low).getD 0) :: hexBytes rest
  | _ => []

def bytes (s : String) : List UInt8 :=
  s.toUTF8.toList

/-- How a recorded command ended: its output, or an object that tells more. A command that is not
recorded failed. -/
def gitReply (recorded : Json) (command : String) : GitReply :=
  match recorded.get? command with
  | none => .exited 128 [] (bytes "fatal: unscripted")
  | some (.str output) => .exited 0 (bytes output) []
  | some reply =>
    if (reply.get? "timeout").isSome then .timedOut
    else
      match reply.get? "os_error" with
      | some reason => .notStarted reason.text
      | none =>
        let output := ((reply.textAt? "hex").map fun hex => hexBytes hex.toList).getD
          (bytes (reply.textAt "stdout"))
        .exited (reply.intAt "code" 0) output (bytes (reply.textAt "stderr"))

/-- What a call is about: a file, an entity or a question, the first of them that is not empty. -/
def topic (parameters : Json) : String :=
  let texts := [((parameters.field "filters").field "filePath"), parameters.field "entityId",
    parameters.field "query"].filterMap Json.asText?
  (texts.find? (· != "")).getD "*"

/-- The recorded answer of a tool, by what the call is about. -/
def toolReply (recorded : Json) (name : String) (parameters : Json) : ToolReply :=
  let answers := recorded.field name
  let answer := ((answers.get? (topic parameters)).or (answers.get? "*")).getD (.obj [])
  match answer.get? "__raise__", answer.get? "__timeout__" with
  | some reason, _ => .error reason.text
  | none, some _ => .error ""
  | none, none => .ok answer

/-- What answers lookups from records. -/
def source (git tools : Json) : LookupSource where
  git arguments := gitReply git (" ".intercalate arguments)
  tool := toolReply tools

/-- The commands that were given. -/
def commands (log : LookupLog) : Json :=
  Json.strings (log.commands.map fun arguments => " ".intercalate arguments)

/-- The calls that were made, with their parameters. -/
def calls (log : LookupLog) : Json :=
  .arr (log.calls.map fun call => .arr [.str call.1, call.2])

end CodeGraph.Replay
