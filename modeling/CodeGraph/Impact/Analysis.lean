import CodeGraph.Files.Path
import CodeGraph.Git.Command
import CodeGraph.Impact.Risk
import CodeGraph.Outcome
import CodeGraph.Tools.Client

namespace CodeGraph.Impact

/-- What is wrong with the shape of a tool's answer. -/
inductive Misshape where
  /-- A value that should be an object. -/
  | noMembers (type : String)
  /-- A value that should be a list. -/
  | notIterable (type : String)
  | notSearchable (type : String)
  | noLength (type : String)
  | noSlices (type : String)
  | notHashable (type : String)
  | invalid (reason : Invalid)
deriving Repr, DecidableEq

def Misshape.message : Misshape → String
  | .noMembers type => s!"'{type}' object has no attribute 'get'"
  | .notIterable type => s!"'{type}' object is not iterable"
  | .notSearchable type => s!"argument of type '{type}' is not iterable"
  | .noLength type => s!"object of type '{type}' has no len()"
  | .noSlices type =>
    if type == "dict" then "unhashable type: 'slice'"
    else s!"'{type}' object is not subscriptable"
  | .notHashable type => s!"unhashable type: '{type}'"
  | .invalid reason => reason.message

/-- Why there is no report. -/
inductive Fault where
  | refused (cause : Git.Refusal)
  | misshapen (cause : Misshape)
deriving Repr, DecidableEq

def Fault.message : Fault → String
  | .refused cause => cause.message
  | .misshapen cause => cause.message

/-- A computation that looks things up and may meet an answer of the wrong shape. -/
abbrev Analysis := ExceptT Misshape Lookup

namespace Analysis

/-- A call of a tool, with its failure as a value. -/
def call (name : String) (parameters : Members) : Analysis ToolReply :=
  ExceptT.lift (Lookup.tool name (.obj parameters))

/-- A record with checked fields. -/
def checked {α : Type} (schema : Schema α) (members : Members) : Analysis α :=
  match schema.validate (.obj members) with
  | .ok a => return a
  | .error reason => throw (.invalid reason)

end Analysis

/-- The member of an answer, null if it is missing. -/
def member (value : Json) (key : String) : Except Misshape Json :=
  match value with
  | .obj members => .ok ((Members.get? members key).getD .null)
  | value => .error (.noMembers value.typeName)

/-- The first of two values that counts as true, or the second. -/
def orElse (value fallback : Json) : Json :=
  if value.isTruthy then value else fallback

/-- The items of a value. An object has its keys, a text its characters, and what counts as false
none. -/
def itemsOf (value : Json) : Except Misshape (List Json) :=
  if !value.isTruthy then .ok []
  else match value with
    | .arr items => .ok items
    | .obj members => .ok (members.map fun m => .str m.1)
    | .str s => .ok (s.toList.map fun c => .str (String.ofList [c]))
    | value => .error (.notIterable value.typeName)

/-- How many items a value has, none if it counts as false. -/
def lengthOf (value : Json) : Except Misshape Nat :=
  if !value.isTruthy then .ok 0
  else match value with
    | .arr items => .ok items.length
    | .obj members => .ok members.length
    | .str s => .ok s.length
    | value => .error (.noLength value.typeName)

/-- The first items of a value. -/
def firstOf (count : Nat) (value : Json) : Except Misshape (List Json) :=
  if !value.isTruthy then .ok []
  else match value with
    | .arr items => .ok (items.take count)
    | .str s => .ok ((s.toList.take count).map fun c => .str (String.ofList [c]))
    | value => .error (.noSlices value.typeName)

/-- The most files whose entities are looked up. -/
def maxEntityFiles : Nat := 20
/-- The most file names for which decisions are looked up. -/
def maxDecisionNames : Nat := 10
/-- The most file names in a query for contexts. -/
def maxContextNames : Nat := 5
/-- The most contexts kept. -/
def maxContextItems : Nat := 5
/-- The characters of a decision that are kept. -/
def summaryLength : Nat := 100

/-- The outcome of lookups of which some failed. -/
def lookupOutcome {α : Type} (now : DateTime) (data : List α) (operation : String)
    (warnings : List String) (attempted : Nat) : Outcome (List α) :=
  let failed : Int := warnings.length
  if warnings.isEmpty then .success data operation now attempted
  else .partially data operation now warnings (attempted - failed) failed

/-- How often an entity is used, zero if that cannot be found out. -/
def usageCount (project : String) (id : Json) : Analysis Nat := do
  match ← Analysis.call "entity_references" [("projectId", .str project), ("entityId", id)] with
  | .error _ => return 0
  | .ok answer => lengthOf (← member answer "references")

/-- The entities among items of an answer for a file. Items without an id are passed over. -/
def entitiesOf (project filePath : String) (change : ChangeType) :
    List Json → Analysis (List AffectedEntity)
  | [] => return []
  | item :: rest => do
    let id ← member item "id"
    if !id.isTruthy then entitiesOf project filePath change rest
    else
      let name ← member item "name"
      let type ← member item "type"
      let path ← member item "filePath"
      let usages ← usageCount project id
      let entity ← Analysis.checked AffectedEntity.schema [
        ("entity_id", id), ("name", orElse name id), ("type", orElse type (.str "unknown")),
        ("file_path", orElse path (.str filePath)), ("change_type", .str change.name),
        ("usage_count", .int usages)]
      return entity :: (← entitiesOf project filePath change rest)

/-- The entities of files, and a warning for each file whose lookup failed. -/
def entitiesOfFiles (project : String) (deleted : List String) :
    List String → Analysis (List AffectedEntity × List String)
  | [] => return ([], [])
  | file :: rest => do
    match ← Analysis.call "entity_search" [("projectId", .str project),
      ("filters", .obj [("filePath", .str file)])] with
    | .error reason =>
      let (entities, warnings) ← entitiesOfFiles project deleted rest
      return (entities, s!"Entity lookup failed for {file}: {reason}" :: warnings)
    | .ok answer =>
      let change := if deleted.contains file then .deleted else .modified
      let found ← entitiesOf project file change (← itemsOf (← member answer "entities"))
      let (entities, warnings) ← entitiesOfFiles project deleted rest
      return (found ++ entities, warnings)

/-- The outcome of a lookup that is not made, because there is nothing to look up or no tool. -/
def nothing {α : Type} (now : DateTime) (operation : String) : Outcome (List α) :=
  .success [] operation now 0

/-- The entities defined in modified and deleted files. -/
def affectedEntities (now : DateTime) (hasTools : Bool) (project : String) (files : ChangedFiles) :
    Analysis (Outcome (List AffectedEntity)) := do
  if !hasTools then return nothing now "affected_entities"
  let looked := (files.modified ++ files.deleted).take maxEntityFiles
  let (entities, warnings) ← entitiesOfFiles project files.deleted looked
  return lookupOutcome now entities "affected_entities" warnings looked.length

/-- Whether a text holds a name. In a list the name has to be one of the items, in an object one of
the keys. -/
def mentions (text : Json) (name : String) : Except Misshape Bool :=
  match text with
  | .str s => .ok (Text.contains s name)
  | .arr items => .ok (items.any fun item => item.asText? == some name)
  | .obj members => .ok (members.any (·.1 == name))
  | value => .error (.notSearchable value.typeName)

/-- The first file whose name a text mentions. -/
def mentioned? (text : Json) : List String → Except Misshape (Option String)
  | [] => .ok none
  | file :: rest => do
    let name := Path.name file
    if name == "" then mentioned? text rest
    else if ← mentions text name then return some file
    else mentioned? text rest

/-- What is kept of the text of a decision. -/
def summaryOf (text : Json) : Except Misshape Json :=
  match text with
  | .str s => .ok (.str (Text.take summaryLength s))
  | .arr items => .ok (.arr (items.take summaryLength))
  | value => .error (.noSlices value.typeName)

/-- Whether an id is one of those seen. Ids that are lists or objects cannot be compared. -/
def isSeen (seen : List String) (id : Json) : Except Misshape Bool :=
  match id with
  | .arr _ | .obj _ => .error (.notHashable id.typeName)
  | .str s => .ok (seen.contains s)
  | _ => .ok false

/-- The decisions among items of an answer that mention a changed file and were not seen before. -/
def decisionsOf (files : ChangedFiles) (seen : List String) :
    List Json → Analysis (List AffectedDecision)
  | [] => return []
  | item :: rest => do
    let id ← member item "id"
    let text := orElse (← member item "decision") (.str "")
    if !id.isTruthy then decisionsOf files seen rest
    else if ← isSeen seen id then decisionsOf files seen rest
    else
      match ← mentioned? text files.all with
      | none => decisionsOf files seen rest
      | some file =>
        let decision ← Analysis.checked AffectedDecision.schema [
          ("decision_id", id), ("summary", ← summaryOf text), ("related_files", .arr [.str file]),
          ("might_be_invalidated", .bool (files.deleted.contains file))]
        return decision :: (← decisionsOf files (decision.id :: seen) rest)

/-- The decisions found for names, and a warning for each name whose search failed. -/
def decisionsForNames (project : String) (files : ChangedFiles) (seen : List String) :
    List String → Analysis (List AffectedDecision × List String)
  | [] => return ([], [])
  | name :: rest => do
    match ← Analysis.call "decision_search" [("projectId", .str project), ("query", .str name),
      ("limit", .int 5)] with
    | .error reason =>
      let (decisions, warnings) ← decisionsForNames project files seen rest
      return (decisions, s!"Decision search failed for {name}: {reason}" :: warnings)
    | .ok answer =>
      let found ← decisionsOf files seen (← itemsOf (← member answer "decisions"))
      let (decisions, warnings) ←
        decisionsForNames project files (found.reverse.map (·.id) ++ seen) rest
      return (found ++ decisions, warnings)

/-- The names of files, without those that have none. -/
def fileNames (files : List String) : List String :=
  (files.map Path.name).filter (· != "")

/-- The decisions whose texts mention changed files. -/
def affectedDecisions (now : DateTime) (hasTools : Bool) (project : String) (files : ChangedFiles) :
    Analysis (Outcome (List AffectedDecision)) := do
  if !hasTools then return nothing now "affected_decisions"
  let names := (fileNames files.all).take maxDecisionNames
  let (decisions, warnings) ← decisionsForNames project files [] names
  return lookupOutcome now decisions "affected_decisions" warnings names.length

/-- The contexts that items of an answer give. -/
def contextsOf : List Json → Analysis (List RelatedContext)
  | [] => return []
  | item :: rest => do
    let path ← member item "filePath"
    let context ← Analysis.checked RelatedContext.schema [
      ("title", orElse (← member item "name") (.str "Unknown")),
      ("summary", orElse (← member item "summary") (.str "")),
      ("relevance_score", orElse (← member item "relevanceScore") (.float 0.0)),
      ("file_paths", .arr (if path.isTruthy then [path] else []))]
    return context :: (← contextsOf rest)

/-- What helps in reviewing added and modified files. -/
def relatedContexts (now : DateTime) (hasTools : Bool) (project : String) (files : ChangedFiles) :
    Analysis (Outcome (List RelatedContext)) := do
  let operation := "related_contexts"
  let names := (fileNames (files.added ++ files.modified)).take maxContextNames
  if !hasTools || names.isEmpty then return nothing now operation
  else
    let query := "code related to " ++ ", ".intercalate names
    match ← Analysis.call "context_query" [("projectId", .str project), ("query", .str query),
      ("maxTokens", .int 2000)] with
    | .error reason => return .failure s!"Context query failed: {reason}" operation now (some [])
    | .ok answer =>
      let contexts ← contextsOf (← firstOf maxContextItems (← member answer "items"))
      return .success contexts operation now contexts.length

/-- What a change is between: two branches, or two commits of which both are given. -/
structure Range where
  project : String
  baseBranch : String
  targetBranch : String
  previousCommit : Option String := none
  currentCommit : Option String := none
deriving Repr

/-- The two commits, if both are given. -/
def Range.commits? (range : Range) : Option (String × String) :=
  match range.previousCommit.filter (· != ""), range.currentCommit.filter (· != "") with
  | some previous, some current => some (previous, current)
  | _, _ => none

/-- The files changed in a range. -/
def Range.changedFiles (range : Range) : Git.Command ChangedFiles :=
  match range.commits? with
  | some (previous, current) => Git.changedFilesBetween previous current
  | none => Git.changedFiles range.baseBranch range.targetBranch

/-- The report for changed files and what was found about them. -/
def report (now : DateTime) (range : Range) (files : ChangedFiles)
    (entities : List AffectedEntity) (decisions : List AffectedDecision)
    (contexts : List RelatedContext) (warnings : List String) : ImpactReport :=
  let risk := assess files entities decisions
  { generatedAt := now, baseBranch := range.baseBranch, targetBranch := range.targetBranch
    commitRange := range.commits?.map fun (previous, current) => s!"{previous}..{current}"
    files, entities, decisions, contexts, risk := risk.level, reasons := risk.reasons
    suggestions := suggestions files entities decisions, warnings }

/-- Reports on the files changed in a range. Without tools only the files are known. The lookups are
all made before an answer of the wrong shape breaks the analysis off. -/
def analyzeFiles (now : DateTime) (hasTools : Bool) (range : Range) (files : ChangedFiles) :
    Analysis ImpactReport := do
  let entities ← ExceptT.lift (affectedEntities now hasTools range.project files).run
  let decisions ← ExceptT.lift (affectedDecisions now hasTools range.project files).run
  let contexts ← ExceptT.lift (relatedContexts now hasTools range.project files).run
  let entities ← entities
  let decisions ← decisions
  let contexts ← contexts
  return report now range files (entities.data.getD []) (decisions.data.getD [])
    (contexts.data.getD []) (entities.messages ++ decisions.messages ++ contexts.messages)

/-- Reports on a range. -/
def analyze (now : DateTime) (hasTools : Bool) (range : Range) :
    ExceptT Fault Lookup ImpactReport := do
  let files ← range.changedFiles.adapt .refused
  (analyzeFiles now hasTools range files).adapt .misshapen

end CodeGraph.Impact
