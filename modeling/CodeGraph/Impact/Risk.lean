import CodeGraph.Impact.Report
import CodeGraph.Text.Search

namespace CodeGraph.Impact

/-- An entity used more often is widely used. -/
def highUsage : Int := 5
/-- An entity used more often is worth a review of its uses. -/
def criticalUsage : Int := 10
/-- A change of more files is large. -/
def largeChange : Nat := 20

/-- A level, the reasons for it, and the score behind it. -/
structure Risk where
  level : RiskLevel
  reasons : List String
  score : Nat
deriving Repr, DecidableEq

def levelOf (score : Nat) : RiskLevel :=
  if 10 ≤ score then .high else if 5 ≤ score then .medium else .low

/-- What a factor adds to the score and why, if it adds anything. -/
def factors (files : ChangedFiles) (entities : List AffectedEntity)
    (decisions : List AffectedDecision) : List (Nat × String) :=
  let deleted := files.deleted.length
  let modified := files.modified.length
  let used := (entities.filter fun e => highUsage < e.usages).length
  let invalidated := (decisions.filter (·.mightBeInvalidated)).length
  (if 0 < deleted then [(deleted * 2, s!"{deleted} file(s) deleted")] else []) ++
  (if 10 < modified then [(modified / 5, s!"{modified} files modified")] else []) ++
  (if 0 < used then [(used * 3, s!"{used} widely-used entities affected")] else []) ++
  (if 0 < invalidated then [(invalidated * 2, s!"{invalidated} decisions may be invalidated")]
    else [])

/-- The risk of a change. -/
def assess (files : ChangedFiles) (entities : List AffectedEntity)
    (decisions : List AffectedDecision) : Risk :=
  let found := factors files entities decisions
  let score := (found.map (·.1)).foldr (· + ·) 0
  { level := levelOf score, reasons := found.map (·.2), score }

/-- Extensions of files that hold code. -/
def codeExtensions : List String :=
  [".ts", ".js", ".tsx", ".jsx", ".py", ".java", ".go", ".rs"]

/-- Whether a path ends in the extension of a code file. A line feed may follow. -/
def isCodeFile (path : String) : Bool :=
  let reversed := path.toList.reverse
  let ends (reversed : List Char) : Bool :=
    codeExtensions.any fun extension => extension.toList.reverse.isPrefixOf reversed
  ends reversed || (reversed.head? == some '\n' && ends (reversed.drop 1))

/-- Whether a path is one of code that is no test. -/
def needsTests (path : String) : Bool :=
  isCodeFile path && !Text.contains path "test" && !Text.contains path "spec"

/-- What to look at in reviewing a change. -/
def suggestions (files : ChangedFiles) (entities : List AffectedEntity)
    (decisions : List AffectedDecision) : List String :=
  let critical := entities.filter fun e => criticalUsage < e.usages
  let names := ", ".intercalate ((critical.take 3).map (·.name))
  let deleted := (entities.filter fun e => e.change == .deleted).length
  let newCode := (files.added.filter needsTests).length
  let count := critical.length
  (if count = 0 then [] else [s!"Review usage of {names} ({count} widely-used entities)"]) ++
  (if deleted = 0 then [] else [s!"Verify {deleted} deleted entities are no longer referenced"]) ++
  (if decisions.any (·.mightBeInvalidated) then ["Review decisions that may no longer apply"]
    else []) ++
  (if largeChange < files.total then ["Consider splitting this large change into smaller PRs"]
    else []) ++
  (if newCode = 0 then [] else [s!"Add tests for {newCode} new code files"])

end CodeGraph.Impact
