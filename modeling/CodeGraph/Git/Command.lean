import CodeGraph.Git.NameStatus
import CodeGraph.Lookup
import CodeGraph.Text.Utf8

namespace CodeGraph.Git

/-- Why a command has no output. -/
inductive Failure where
  | notStarted (reason : String)
  | timedOut (arguments : List String) (limit : String)
  | failed (arguments : List String) (code : Int) (errors : String)
deriving Repr, DecidableEq

def Failure.message : Failure → String
  | .notStarted reason => s!"Cannot run git: {reason}"
  | .timedOut arguments limit =>
    let command := " ".intercalate arguments
    s!"git {command} timed out after {limit}s"
  | .failed arguments code errors =>
    let command := " ".intercalate arguments
    s!"git {command} failed with code {code}: {errors}"

/-- Why no process can be given a command. -/
structure Refusal where
  message : String
deriving Repr, DecidableEq

/-- The output of a command, for how it ended. The limit is its time in seconds as it is written. A
refusal is no failure of the command, and is not handled like one. -/
def output (arguments : List String) (limit : String) :
    GitReply → Except Refusal (Except Failure String)
  | .refused reason => .error ⟨reason⟩
  | .notStarted reason => .ok (.error (.notStarted reason))
  | .timedOut => .ok (.error (.timedOut arguments limit))
  | .exited code out errors =>
    if code = 0 then .ok (.ok (Text.decodeUtf8 out))
    else .ok (.error (.failed arguments code (Text.trim (Text.decodeUtf8 errors))))

/-- A computation that runs commands, and breaks off where one is refused. -/
abbrev Command := ExceptT Refusal Lookup

/-- The output of a command. -/
def run (arguments : List String) (limit : String := "30.0") : Command (Except Failure String) :=
  ExceptT.mk do return output arguments limit (← Lookup.git arguments)

/-- The files that a comparison lists. There are none if it fails. -/
def changes (arguments : List String) : Command ChangedFiles := do
  match ← run (["diff", "--name-status"] ++ arguments) with
  | .ok text => return .ofNameStatus text
  | .error _ => return {}

/-- Files changed on a branch since it left another one. -/
def changedFiles (base target : String) : Command ChangedFiles :=
  changes [s!"{base}...{target}"]

/-- Files changed between two commits. -/
def changedFilesBetween (first last : String) : Command ChangedFiles :=
  changes [first, last]

/-- The lines of a text that are not blank, trimmed. -/
def filledLines (text : String) : List String :=
  (Text.lines text).map Text.trim |>.filter (· != "")

/-- The lines that a command writes. There are none if it fails. -/
def listed (arguments : List String) : Command (List String) := do
  match ← run arguments with
  | .ok text => return filledLines text
  | .error _ => return []

/-- Files staged for the next commit. -/
def stagedFiles : Command (List String) :=
  listed ["diff", "--cached", "--name-only"]

/-- Files changed by the last merge. -/
def mergedFiles : Command (List String) :=
  listed ["diff", "--name-only", "HEAD@\x7b1\x7d", "HEAD"]

/-- The branch that a listing of remote branches shows to be the main one. -/
def baseBranchOf (branches : String) : String :=
  if Text.contains branches "origin/main" then "main"
  else if Text.contains branches "origin/master" then "master"
  else "main"

/-- The main branch of the remote repository. -/
def baseBranch : Command String := do
  match ← run ["branch", "-r"] with
  | .ok branches => return baseBranchOf branches
  | .error _ => return "main"

/-- The trimmed output of a command, empty if it fails. -/
def word (arguments : List String) : Command String := do
  match ← run arguments with
  | .ok text => return Text.trim text
  | .error _ => return ""

def currentBranch : Command String :=
  word ["rev-parse", "--abbrev-ref", "HEAD"]

/-- The commit that a name stands for. -/
def resolve (name : String) : Command String :=
  word ["rev-parse", "--verify", "--quiet", name]

def headCommit : Command String :=
  resolve "HEAD"

end CodeGraph.Git
