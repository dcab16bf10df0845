import CodeGraph.Json.Value
import CodeGraph.Program

namespace CodeGraph

/-- A command for git, or a call of a tool. -/
inductive LookupRequest where
  | git (arguments : List String)
  | tool (name : String) (parameters : Json)

/-- How a git command ended. -/
inductive GitReply where
  /-- No process can be given the command, as with a zero character in an argument or in the directory. -/
  | refused (reason : String)
  | notStarted (reason : String)
  | timedOut
  | exited (code : Int) (output errors : List UInt8)
deriving Repr

/-- A tool fails with a reason or answers with a value. -/
abbrev ToolReply := Except String Json

def LookupRequest.Reply : LookupRequest → Type
  | .git _ => GitReply
  | .tool _ _ => ToolReply

/-- A computation that looks things up. -/
abbrev Lookup := Program LookupRequest LookupRequest.Reply

namespace Lookup

def git (arguments : List String) : Lookup GitReply :=
  .ask (.git arguments) .done

def tool (name : String) (parameters : Json) : Lookup ToolReply :=
  .ask (.tool name parameters) .done

end Lookup

/-- What answers lookups. -/
structure LookupSource where
  git : List String → GitReply
  tool : String → Json → ToolReply

/-- The lookups that were made, in their order. -/
structure LookupLog where
  commands : List (List String) := []
  calls : List (String × Json) := []

/-- Answers a lookup and adds it to the log. -/
def LookupSource.respond (source : LookupSource) :
    (request : LookupRequest) → LookupLog → request.Reply × LookupLog
  | .git arguments, log =>
    (source.git arguments, { log with commands := log.commands ++ [arguments] })
  | .tool name parameters, log =>
    (source.tool name parameters, { log with calls := log.calls ++ [(name, parameters)] })

end CodeGraph
