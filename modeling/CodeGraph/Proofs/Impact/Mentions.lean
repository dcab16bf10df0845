import CodeGraph.Proofs.Impact.Decisions
import CodeGraph.Proofs.Programs
import CodeGraph.Proofs.Text.Searching

namespace CodeGraph.Impact

/-- A text names a file if the last part of its path occurs in it. -/
def Names (text file : String) : Prop :=
  Path.name file ≠ "" ∧ (Path.name file).toList <:+: text.toList

instance (text file : String) : Decidable (Names text file) :=
  inferInstanceAs (Decidable (_ ∧ _))

/-- An item that gives an id and the text of a decision. -/
def GivesDecision (item : Json) (id text : String) : Prop :=
  ∃ members, item = .obj members ∧ given? members "id" = some (.str id) ∧ given? members "decision" = some (.str text)

/-- The first file that a text names. -/
def NamesFirst (text : String) (files : List String) (file : String) : Prop :=
  ∃ before after, files = before ++ file :: after ∧ Names text file ∧ ∀ other ∈ before, ¬ Names text other

/-- The decision on a text that names a changed file. -/
def decisionNaming (files : ChangedFiles) (id text file : String) : AffectedDecision where
  id
  summary := Text.take summaryLength text
  relatedFiles := [file]
  mightBeInvalidated := files.deleted.contains file

/-- The decision that an item gives. -/
def decision? (files : ChangedFiles) : Json → Option AffectedDecision
  | .obj members =>
    match given? members "id", given? members "decision" with
    | some (.str id), some (.str text) =>
      (files.all.find? fun file => Names text file).map (decisionNaming files id text)
    | _, _ => none
  | _ => none

/-- Of decisions with one id the first, unless the id was seen before. -/
def unseen (seen : List String) : List AffectedDecision → List AffectedDecision
  | [] => []
  | decision :: rest =>
    if decision.id ∈ seen then unseen seen rest else decision :: unseen (decision.id :: seen) rest

/-- A decision as an item gives it: it is about the first changed file that the text names, and keeps the beginning of
the text. -/
structure TakenFrom (files : ChangedFiles) (item : Json) (text file : String) (decision : AffectedDecision) : Prop where
  gives : GivesDecision item decision.id text
  names : NamesFirst text files.all file
  about : decision.relatedFiles = [file]
  summary : decision.summary.toList = text.toList.take 100
  doubt : decision.mightBeInvalidated = files.deleted.contains file

/-- What is to be found in items: of all that give a decision with one id about a changed file, the first. -/
structure Finds (files : ChangedFiles) (items : List Json) (found : List AffectedDecision) : Prop where
  distinct : (found.map (·.id)).Nodup
  sound : ∀ decision ∈ found, ∃ before item after text file, items = before ++ item :: after ∧
    TakenFrom files item text file decision ∧ ∀ earlier ∈ before, ∀ other, GivesDecision earlier decision.id other →
      ∀ changed ∈ files.all, ¬ Names other changed
  complete : ∀ item ∈ items, ∀ id text, GivesDecision item id text →
    (∃ file ∈ files.all, Names text file) → id ∈ found.map (·.id)

/-- An object whose id and decision, as far as they are given, are texts. -/
def TellsTexts (item : Json) : Prop :=
  ∃ members, item = .obj members ∧ GivesTexts members ["id", "decision"]

/-- An answer that lists such objects. -/
def ListsTexts (answer : Json) : Prop :=
  ∃ members, answer = .obj members ∧ ∀ decisions ∈ given? members "decisions",
    ∃ items, decisions = .arr items ∧ ∀ item ∈ items, TellsTexts item

/-- All searches for decisions fail or answer so. -/
def SearchesFit (log : List LookupExchange) : Prop :=
  ∀ answer ∈ answers "decision_search" log, ListsTexts answer

section

variable {files : ChangedFiles} {seen : List String} {item answer : Json} {items : List Json} {members : Members}
  {text id file : String} {decision : AffectedDecision} {decisions more : List AffectedDecision}

theorem not_names_empty (file : String) : ¬ Names "" file := by
  rintro ⟨some, within⟩
  exact some (String.toList_eq_nil_iff.mp (List.infix_nil.mp within))

theorem mentioned?_text (text : String) (files : List String) :
    mentioned? (.str text) files = .ok (files.find? fun file => Names text file) := by
  induction files with
  | nil => rfl
  | cons file rest ih =>
    have found : Text.contains text (Path.name file) = true ↔ (Path.name file).toList <:+: text.toList :=
      Text.isSome_find?_iff
    have step : mentioned? (.str text) (file :: rest) = if Path.name file == "" then mentioned? (.str text) rest
        else if Text.contains text (Path.name file) then .ok (some file) else mentioned? (.str text) rest := by
      rfl
    rw [step, ih, List.find?_cons]
    by_cases nameless : Path.name file = ""
    · simp [nameless, Names]
    · by_cases within : (Path.name file).toList <:+: text.toList
      · simp [nameless, within, found.mpr within, Names]
      · simp [nameless, within, mt found.mp within, Names]

theorem decisionOn_text (files : ChangedFiles) (id text file : String) :
    decisionOn files (.str id) (.str text) file = .ok (decisionNaming files id text file) :=
  rfl

/-- What an object with an id gives depends on its text, and one without a text counts as empty. -/
theorem exists_text (files : ChangedFiles) (texts : GivesTexts members ["id", "decision"])
    (hasId : given? members "id" = some (.str id)) :
    ∃ text, orElse ((Members.get? members "decision").getD .null) (.str "") = .str text ∧
      decision? files (.obj members) =
        (files.all.find? fun file => Names text file).map (decisionNaming files id text) := by
  cases given : given? members "decision" with
  | none =>
    refine ⟨"", by rw [orElse, given?_eq_none_iff.mp given, if_neg Bool.false_ne_true], ?_⟩
    have nothing : (files.all.find? fun file => Names "" file) = none :=
      List.find?_eq_none.mpr fun file _ => by simp [not_names_empty]
    simp [decision?, hasId, given, nothing]
  | some value =>
    obtain ⟨text, rfl⟩ := texts "decision" (by simp) value given
    obtain ⟨truthy, same⟩ := given?_eq_some_iff.mp given
    exact ⟨text, by rw [same, orElse, if_pos truthy], by simp [decision?, hasId, given]⟩

/-- Items with texts are gone through to the end, and give the decisions that are new. -/
theorem decisionsOf_texts (texts : ∀ item ∈ items, TellsTexts item) :
    decisionsOf files seen items = pure (unseen seen (items.filterMap (decision? files))) := by
  induction items generalizing seen with
  | nil => rfl
  | cons item rest ih =>
    obtain ⟨⟨members, rfl, here⟩, later⟩ := List.forall_mem_cons.mp texts
    rw [List.filterMap_cons]
    cases given : given? members "id" with
    | none =>
      have nothing : decision? files (.obj members) = none := by simp [decision?, given]
      rw [decisionsOf_obj rfl, given?_eq_none_iff.mp given, Bool.not_false, if_pos rfl, nothing, ih later]
    | some value =>
      obtain ⟨id, rfl⟩ := here "id" (by simp) value given
      obtain ⟨truthy, same⟩ := given?_eq_some_iff.mp given
      obtain ⟨text, hasText, gives⟩ := exists_text files here given
      have looked : isSeen seen (.str id) = .ok (seen.contains id) := rfl
      rw [decisionsOf_obj hasText, same, truthy, Bool.not_true, if_neg Bool.false_ne_true, looked,
        Analysis.lift_ok_bind, gives, mentioned?_text, Analysis.lift_ok_bind]
      by_cases known : id ∈ seen
      · rw [if_pos (List.contains_iff_mem.mpr known), ih later]
        cases files.all.find? fun file => Names text file with
        | none => rfl
        | some file =>
          rw [Option.map_some, unseen, if_pos (show (decisionNaming files id text file).id ∈ seen from known)]
      · rw [if_neg (mt List.contains_iff_mem.mp known)]
        cases files.all.find? fun file => Names text file with
        | none => exact ih later
        | some file =>
          dsimp only
          rw [decisionOn_text, Analysis.lift_ok_bind, ih later, Option.map_some, unseen,
            if_neg (show (decisionNaming files id text file).id ∉ seen from known)]
          rfl

theorem unseen_append (decisions more : List AffectedDecision) : unseen seen (decisions ++ more) =
    unseen seen decisions ++ unseen ((unseen seen decisions).reverse.map (·.id) ++ seen) more := by
  induction decisions generalizing seen with
  | nil => rfl
  | cons decision rest ih =>
    rw [List.cons_append, unseen, unseen]
    split
    · exact ih
    · rw [ih, List.cons_append, List.reverse_cons, List.map_append, List.append_assoc]
      rfl

theorem unseen_ids (seen : List String) (decisions : List AffectedDecision) :
    ((unseen seen decisions).map (·.id)).Nodup ∧
      ∀ id, id ∈ (unseen seen decisions).map (·.id) ↔ id ∈ decisions.map (·.id) ∧ id ∉ seen := by
  induction decisions generalizing seen with
  | nil => simp [unseen]
  | cons decision rest ih =>
    rw [unseen]
    split
    · rename_i known
      obtain ⟨nodup, members⟩ := ih seen
      refine ⟨nodup, fun id => (members id).trans ?_⟩
      have other : id ∉ seen → id ≠ decision.id := fun new same => new (same ▸ known)
      rw [List.map_cons, List.mem_cons]
      tauto
    · rename_i new
      obtain ⟨nodup, members⟩ := ih (decision.id :: seen)
      refine ⟨List.nodup_cons.mpr ⟨fun again => ?_, nodup⟩, fun id => ?_⟩
      · exact ((members decision.id).mp again).2 List.mem_cons_self
      · rw [List.map_cons, List.map_cons, List.mem_cons, List.mem_cons, members, List.mem_cons]
        by_cases same : id = decision.id <;> simp [same, new]

/-- Of the decisions with its id, one that is new is the first. -/
theorem unseen_first (member : decision ∈ unseen seen decisions) :
    ∃ before after, decisions = before ++ decision :: after ∧ decision.id ∉ before.map (·.id) := by
  induction decisions generalizing seen with
  | nil => cases member
  | cons head rest ih =>
    rw [unseen] at member
    have new (later : List String) (found : decision ∈ unseen later rest) : decision.id ∉ later :=
      (((unseen_ids later rest).2 decision.id).mp (List.mem_map_of_mem found)).2
    have further (later : List String) (found : decision ∈ unseen later rest) (other : decision.id ≠ head.id) :
        ∃ before after, head :: rest = before ++ decision :: after ∧ decision.id ∉ before.map (·.id) := by
      obtain ⟨before, after, rfl, first⟩ := ih found
      exact ⟨head :: before, after, rfl, by rw [List.map_cons, List.mem_cons]; exact not_or.mpr ⟨other, first⟩⟩
    split at member
    · rename_i known
      exact further seen member fun same => new seen member (same ▸ known)
    · rcases List.mem_cons.mp member with rfl | later
      · exact ⟨[], rest, rfl, List.not_mem_nil⟩
      · exact further _ later fun same => new _ later (same ▸ List.mem_cons_self)

theorem itemsOf_lists (lists : ListsTexts answer) : ∃ members, answer = .obj members ∧
    itemsOf ((Members.get? members "decisions").getD .null) = .ok (listedDecisions answer) ∧
    ∀ item ∈ listedDecisions answer, TellsTexts item := by
  obtain ⟨members, rfl, list⟩ := lists
  refine ⟨members, rfl, ?_⟩
  cases given : given? members "decisions" with
  | none => simp [itemsOf, listedDecisions, given, given?_eq_none_iff.mp given]
  | some value =>
    obtain ⟨items, rfl, texts⟩ := list value given
    obtain ⟨truthy, same⟩ := given?_eq_some_iff.mp given
    have listed : listedDecisions (.obj members) = items := by simp [listedDecisions, given, Json.asList?]
    rw [listed, same]
    exact ⟨by simp [itemsOf, truthy], texts⟩

/-- A query for the decisions that mention a name, with its reply. -/
def searched (project : String) (query : String × ToolReply) : LookupExchange :=
  ⟨.tool "decision_search" (.obj [("projectId", .str project), ("query", .str query.1), ("limit", .int 5)]), query.2⟩

/-- The warning of a query that failed. -/
def searchWarning? : String × ToolReply → Option String
  | (name, .error reason) => some s!"Decision search failed for {name}: {reason}"
  | (_, .ok _) => none

/-- The decisions that answers give. -/
def decisionsIn (files : ChangedFiles) (found : List Json) : List AffectedDecision :=
  (found.flatMap listedDecisions).filterMap (decision? files)

theorem decisionsIn_cons (answer : Json) (found : List Json) : decisionsIn files (answer :: found) =
    (listedDecisions answer).filterMap (decision? files) ++ decisionsIn files found := by
  rw [decisionsIn, List.flatMap_cons, List.filterMap_append, decisionsIn]

/-- Each name is asked for once, in their order, and what is found depends on the answers only. -/
theorem decisionsForNames_ensures (project : String) (names : List String) :
    (decisionsForNames project files seen names).run.Ensures fun log result =>
      SearchesFit log →
        ∃ queries : List (String × ToolReply), queries.map (·.1) = names ∧ log = queries.map (searched project) ∧
          result = .ok (unseen seen (decisionsIn files (answers "decision_search" log)),
            queries.filterMap searchWarning?) := by
  induction names generalizing seen with
  | nil => exact .pure fun _ => ⟨[], rfl, rfl, rfl⟩
  | cons name rest ih =>
    refine Analysis.ensures_call fun reply => ?_
    cases reply with
    | error reason =>
      refine Analysis.ensures_map _ ((@ih seen).weaken fun log result ensured fits => ?_)
      obtain ⟨queries, asked, logged, rfl⟩ := ensured fits
      exact ⟨(name, .error reason) :: queries, congrArg _ asked, congrArg _ logged, rfl⟩
    | ok answer =>
      by_cases lists : ListsTexts answer
      · obtain ⟨members, rfl, listed, texts⟩ := itemsOf_lists lists
        dsimp only [member]
        rw [Analysis.lift_ok_bind, listed, Analysis.lift_ok_bind, decisionsOf_texts texts]
        refine Analysis.ensures_map _ (ih.weaken fun log result ensured fits => ?_)
        obtain ⟨queries, asked, logged, rfl⟩ := ensured fun answer member => fits answer (List.mem_cons_of_mem _ member)
        refine ⟨(name, .ok (.obj members)) :: queries, congrArg _ asked, congrArg _ logged, ?_⟩
        change Except.ok (_ ++ _, _) =
          Except.ok (unseen seen (decisionsIn files (.obj members :: answers "decision_search" log)), _)
        rw [decisionsIn_cons, unseen_append]
        rfl
      · -- Such an answer may break the search off, but is in the log.
        refine (Program.ensures_true _).weaken fun log result _ fits => ?_
        exact absurd (fits answer List.mem_cons_self) lists

theorem lookupOutcome_data {α : Type} (now : DateTime) (data : List α) (operation : String) (warnings : List String)
    (attempted : Nat) : (lookupOutcome now data operation warnings attempted).data = some data := by
  unfold lookupOutcome
  dsimp only
  split <;> rfl

theorem lookupOutcome_warnings {α : Type} (now : DateTime) (data : List α) (operation : String)
    (warnings : List String) (attempted : Nat) :
    (lookupOutcome now data operation warnings attempted).warnings = warnings := by
  unfold lookupOutcome
  dsimp only
  split
  · rename_i none
    exact (List.isEmpty_iff.mp none).symm
  · rfl

theorem affectedDecisions_ensures (now : DateTime) (project : String) (files : ChangedFiles) :
    (affectedDecisions now true project files).run.Ensures fun log result =>
      SearchesFit log →
        ∃ outcome, ∃ queries : List (String × ToolReply), result = .ok outcome ∧
          outcome.data = some (unseen [] (decisionsIn files (answers "decision_search" log))) ∧
          outcome.warnings = queries.filterMap searchWarning? ∧ log = queries.map (searched project) ∧
          queries.map (·.1) = (fileNames files.all).take maxDecisionNames := by
  unfold affectedDecisions
  rw [if_neg (by decide)]
  refine Analysis.ensures_map _ ((decisionsForNames_ensures project _).weaken fun log result ensured fits => ?_)
  obtain ⟨queries, asked, logged, rfl⟩ := ensured fits
  exact ⟨_, queries, rfl, lookupOutcome_data .., lookupOutcome_warnings .., logged, asked⟩

theorem find?_names_iff {all : List String} :
    (all.find? fun file => Names text file) = some file ↔ NamesFirst text all file := by
  rw [List.find?_eq_some_iff_append]
  simp only [decide_eq_true_eq, Bool.not_eq_true', decide_eq_false_iff_not]
  constructor
  · rintro ⟨names, before, after, same, others⟩
    exact ⟨before, after, same, names, others⟩
  · rintro ⟨before, after, same, names, others⟩
    exact ⟨names, before, after, same, others⟩

theorem NamesFirst.mem {all : List String} (first : NamesFirst text all file) : file ∈ all ∧ Names text file := by
  obtain ⟨before, after, rfl, names, _⟩ := first
  exact ⟨List.mem_append_right _ List.mem_cons_self, names⟩

theorem exists_namesFirst {all : List String} (member : file ∈ all) (names : Names text file) :
    ∃ first, NamesFirst text all first := by
  have some : (all.find? fun file => Names text file).isSome = true :=
    List.find?_isSome.mpr ⟨file, member, by simpa using names⟩
  obtain ⟨first, found⟩ := Option.isSome_iff_exists.mp some
  exact ⟨first, find?_names_iff.mp found⟩

theorem decision?_takenFrom (gives : decision? files item = some decision) :
    ∃ text file, TakenFrom files item text file decision := by
  unfold decision? at gives
  split at gives
  · rename_i members
    split at gives
    · rename_i id text hasId hasText
      obtain ⟨file, found, rfl⟩ := Option.map_eq_some_iff.mp gives
      exact ⟨text, file, ⟨members, rfl, hasId, hasText⟩, find?_names_iff.mp found, rfl, String.toList_ofList, rfl⟩
    · cases gives
  · cases gives

/-- An item gives a decision if its text names a changed file. -/
theorem exists_decision? (gives : GivesDecision item id text) (names : ∃ file ∈ files.all, Names text file) :
    ∃ decision, decision? files item = some decision ∧ decision.id = id := by
  obtain ⟨members, rfl, hasId, hasText⟩ := gives
  obtain ⟨file, member, here⟩ := names
  obtain ⟨first, found⟩ := exists_namesFirst member here
  exact ⟨decisionNaming files id text first, by simp [decision?, hasId, hasText, find?_names_iff.mpr found], rfl⟩

theorem finds_unseen (files : ChangedFiles) (items : List Json) :
    Finds files items (unseen [] (items.filterMap (decision? files))) := by
  obtain ⟨distinct, ids⟩ := unseen_ids [] (items.filterMap (decision? files))
  refine ⟨distinct, fun decision member => ?_, fun item member id text gives names => ?_⟩
  · obtain ⟨sooner, later, split, first⟩ := unseen_first member
    obtain ⟨start, rest, rfl, rfl, others⟩ := List.filterMap_eq_append_iff.mp split
    obtain ⟨skipped, item, after, rfl, nothing, made, _⟩ := List.filterMap_eq_cons_iff.mp others
    obtain ⟨text, file, taken⟩ := decision?_takenFrom made
    refine ⟨start ++ skipped, item, after, text, file, (List.append_assoc ..).symm, taken, ?_⟩
    intro earlier before other gives file among names
    obtain ⟨same, found, sameId⟩ := exists_decision? gives ⟨file, among, names⟩
    rcases List.mem_append.mp before with atStart | between
    · exact first (sameId ▸ List.mem_map_of_mem (List.mem_filterMap.mpr ⟨earlier, atStart, found⟩))
    · simp [nothing earlier between] at found
  · obtain ⟨decision, found, rfl⟩ := exists_decision? gives names
    refine (ids decision.id).mpr ⟨?_, List.not_mem_nil⟩
    exact List.mem_map_of_mem (List.mem_filterMap.mpr ⟨item, member, found⟩)

end

/-- The items that tools list as decisions in a run, in their order. -/
def itemsListed (log : List LookupExchange) : List Json :=
  (answers "decision_search" log).flatMap listedDecisions

section

variable {σ : Type} (respond : (request : LookupRequest) → σ → request.Reply × σ) (state : σ) (now : DateTime)
  (project : String) (files : ChangedFiles)

/-- What a search for decisions looks up. -/
def decisionLog : List LookupExchange :=
  (affectedDecisions now true project files).run.exchanges respond state

/-- What a search for decisions comes to. -/
def decisionOutcome : Except Misshape (Outcome (List AffectedDecision)) :=
  ((affectedDecisions now true project files).run.run respond state).1

theorem decisionOutcome_eq
    (fits : SearchesFit (decisionLog respond state now project files)) :
    ∃ outcome, ∃ queries : List (String × ToolReply), decisionOutcome respond state now project files = .ok outcome ∧
      outcome.data = some (unseen [] ((itemsListed (decisionLog respond state now project files)).filterMap
        (decision? files))) ∧ outcome.warnings = queries.filterMap searchWarning? ∧
      decisionLog respond state now project files = queries.map (searched project) ∧
      queries.map (·.1) = (fileNames files.all).take maxDecisionNames :=
  (affectedDecisions_ensures now project files).exchanges respond state fits

/-- Of what the tools list, the first decision with each id about a changed file is found, and nothing else. Each of at
most ten names is asked for once. A search that fails gives a warning, and takes away nothing: what is found is the same
in any other run whose tools list the same. -/
theorem affectedDecisions_finds
    (fits : SearchesFit (decisionLog respond state now project files)) :
    ∃ outcome found, ∃ queries : List (String × ToolReply),
      decisionOutcome respond state now project files = .ok outcome ∧ outcome.data = some found ∧
      decisionLog respond state now project files = queries.map (searched project) ∧ queries.length ≤ 10 ∧
      queries.map (·.1) = (fileNames files.all).take 10 ∧ outcome.warnings = queries.filterMap searchWarning? ∧
      Finds files (itemsListed (decisionLog respond state now project files)) found ∧
      ∀ {τ : Type} (other : (request : LookupRequest) → τ → request.Reply × τ) (start : τ) (later : DateTime)
        (elsewhere : String),
        SearchesFit (decisionLog other start later elsewhere files) →
        itemsListed (decisionLog other start later elsewhere files) =
          itemsListed (decisionLog respond state now project files) →
        ∃ same, decisionOutcome other start later elsewhere files = .ok same ∧ same.data = some found := by
  obtain ⟨outcome, queries, made, data, warnings, logged, asked⟩ :=
    decisionOutcome_eq respond state now project files fits
  have few : queries.length ≤ 10 := by
    rw [← List.length_map (fun query => query.1), asked]
    exact List.length_take_le ..
  refine ⟨outcome, _, queries, made, data, logged, few, asked, warnings, finds_unseen .., ?_⟩
  intro τ other start later elsewhere otherFits sameItems
  obtain ⟨same, _, otherMade, otherData, _⟩ := decisionOutcome_eq other start later elsewhere files otherFits
  exact ⟨same, otherMade, by rw [otherData, sameItems]⟩

/-- An answer that lists decisions by their ids and texts. -/
def decisionAnswer (decisions : List (String × String)) : Json :=
  .obj [("decisions", .arr (decisions.map fun d => .obj [("id", .str d.1), ("decision", .str d.2)]))]

theorem decisionAnswer_lists (decisions : List (String × String)) : ListsTexts (decisionAnswer decisions) := by
  refine ⟨_, rfl, fun value given => ?_⟩
  obtain ⟨_, rfl⟩ := given?_eq_some_iff.mp given
  refine ⟨_, rfl, fun item member => ?_⟩
  obtain ⟨decision, _, rfl⟩ := List.mem_map.mp member
  refine ⟨_, rfl, fun key isKey value given => ?_⟩
  obtain ⟨_, rfl⟩ := given?_eq_some_iff.mp given
  rcases List.mem_pair.mp isKey with rfl | rfl
  · exact ⟨decision.1, rfl⟩
  · exact ⟨decision.2, rfl⟩

/-- Tools that find decisions by the name asked for. -/
def searching (found : String → Except String (List (String × String))) : LookupSource where
  git _ := .exited 0 [] []
  tool _ parameters :=
    match member parameters "query" with
    | .ok (.str name) => (found name).map decisionAnswer
    | _ => .error "no query"

/-- A search that fails or finds nothing for one name, and finds some decisions twice. -/
def splitting (fails : Bool) : LookupSource :=
  searching fun
    | "a.py" => if fails then .error "busy" else .ok []
    | "b.py" => .ok [("d1", "Split b.py from a.py"), ("d2", "Stay with Python")]
    | _ => .ok [("d1", "Drop c.py"), ("d3", "Let c.py call b.py"), ("d2", "Drop c.py")]

def splitFiles : ChangedFiles where
  modified := ["src/a.py", "src/b.py"]
  deleted := ["src/c.py"]

theorem splitting_answers (fails : Bool) :
    answers "decision_search" (decisionLog (splitting fails).respond {} default "proj" splitFiles) =
      ((if fails then [] else [[]]) ++ [[("d1", "Split b.py from a.py"), ("d2", "Stay with Python")],
        [("d1", "Drop c.py"), ("d3", "Let c.py call b.py"), ("d2", "Drop c.py")]]).map decisionAnswer := by
  cases fails <;> rfl

theorem splitting_fits (fails : Bool) :
    SearchesFit (decisionLog (splitting fails).respond {} default "proj" splitFiles) := by
  rw [SearchesFit, splitting_answers]
  intro answer member
  obtain ⟨decisions, _, rfl⟩ := List.mem_map.mp member
  exact decisionAnswer_lists decisions

/-- What is found without an answer for the first name is found with an empty one. A decision is found by the first of
its texts that names a file. -/
theorem affectedDecisions_finds_splitFiles :
    SearchesFit (decisionLog (splitting true).respond {} default "proj" splitFiles) ∧
    ∃ outcome found, decisionOutcome (splitting true).respond {} default "proj" splitFiles = .ok outcome ∧
      outcome.data = some found ∧
      found.map (fun d => (d.id, d.relatedFiles)) = [("d1", ["src/a.py"]), ("d3", ["src/b.py"]), ("d2", ["src/c.py"])] ∧
      outcome.warnings = ["Decision search failed for a.py: busy"] ∧
      ∃ same, decisionOutcome (splitting false).respond {} default "proj" splitFiles = .ok same ∧
        same.data = some found := by
  have fits := splitting_fits true
  obtain ⟨outcome, found, _, made, data, _, _, _, _, _, others⟩ := affectedDecisions_finds _ _ _ _ _ fits
  have computed : (decisionOutcome (splitting true).respond {} default "proj" splitFiles).map (fun outcome =>
      (outcome.data.map (·.map fun d => (d.id, d.relatedFiles)), outcome.warnings)) =
      .ok (some [("d1", ["src/a.py"]), ("d3", ["src/b.py"]), ("d2", ["src/c.py"])],
        ["Decision search failed for a.py: busy"]) := rfl
  rw [made, Except.map, Except.ok.injEq, Prod.mk.injEq, data] at computed
  refine ⟨fits, outcome, found, made, data, Option.some.inj computed.1, computed.2, ?_⟩
  refine others _ _ _ _ (splitting_fits false) ?_
  rw [itemsListed, itemsListed, splitting_answers, splitting_answers]
  rfl

/-- A found decision is doubted if and only if the first changed file that its text names was deleted. So the text of
one that is doubted names a deleted file, and one whose text names no other file than deleted ones is doubted. -/
theorem affectedDecisions_doubts
    (fits : SearchesFit (decisionLog respond state now project files)) :
    ∃ outcome found, decisionOutcome respond state now project files = .ok outcome ∧ outcome.data = some found ∧
      ∀ decision ∈ found, ∃ item ∈ itemsListed (decisionLog respond state now project files), ∃ text file,
        TakenFrom files item text file decision ∧
        (decision.mightBeInvalidated = true ↔ file ∈ files.deleted) ∧
        (decision.mightBeInvalidated = true → ∃ gone ∈ files.deleted, Names text gone) ∧
        ((∀ kept ∈ files.added ++ files.modified, Names text kept → kept ∈ files.deleted) →
          decision.mightBeInvalidated = true) := by
  obtain ⟨outcome, _, made, data, _⟩ := decisionOutcome_eq respond state now project files fits
  refine ⟨outcome, _, made, data, fun decision member => ?_⟩
  obtain ⟨before, item, after, text, file, listed, taken, _⟩ := (finds_unseen ..).sound decision member
  have doubt : decision.mightBeInvalidated = true ↔ file ∈ files.deleted := by
    rw [taken.doubt, List.contains_iff_mem]
  obtain ⟨among, names⟩ := taken.names.mem
  refine ⟨item, ?_, text, file, taken, doubt, fun doubted => ⟨file, doubt.mp doubted, names⟩, fun onlyGone => ?_⟩
  · rw [listed]
    exact List.mem_append_right _ List.mem_cons_self
  · rw [doubt]
    rcases List.mem_append.mp among with kept | gone
    · exact onlyGone file kept names
    · exact gone

/-- Of the decisions found for a split, only one that names no other than the deleted file is doubted. -/
theorem affectedDecisions_doubts_splitFiles :
    SearchesFit (decisionLog (splitting false).respond {} default "proj" splitFiles) ∧
    ∃ outcome found, decisionOutcome (splitting false).respond {} default "proj" splitFiles = .ok outcome ∧
      outcome.data = some found ∧
      found.map (fun d => (d.id, d.mightBeInvalidated)) = [("d1", false), ("d3", false), ("d2", true)] ∧
      ∀ decision ∈ found, decision.mightBeInvalidated = true →
        ∃ item ∈ itemsListed (decisionLog (splitting false).respond {} default "proj" splitFiles), ∃ text,
          GivesDecision item decision.id text ∧ Names text "src/c.py" := by
  have fits := splitting_fits false
  obtain ⟨outcome, found, made, data, each⟩ := affectedDecisions_doubts _ _ _ _ _ fits
  have computed : (decisionOutcome (splitting false).respond {} default "proj" splitFiles).map (fun outcome =>
      outcome.data.map (·.map fun d => (d.id, d.mightBeInvalidated))) =
      .ok (some [("d1", false), ("d3", false), ("d2", true)]) := rfl
  rw [made, Except.map, Except.ok.injEq, data] at computed
  refine ⟨fits, outcome, found, made, data, Option.some.inj computed, fun decision member doubted => ?_⟩
  obtain ⟨item, listed, text, file, taken, doubt, _⟩ := each decision member
  have gone : file = "src/c.py" := List.mem_singleton.mp (doubt.mp doubted)
  exact ⟨item, listed, text, taken.gives, gone ▸ taken.names.mem.2⟩

def replacedFiles : ChangedFiles where
  modified := ["src/auth.ts"]
  deleted := ["src/legacy.ts"]

/-- A search that always finds the decision to replace the deleted file by the modified one. -/
def replacing : LookupSource :=
  searching fun _ => .ok [("d1", "Replace legacy.ts by auth.ts")]

/-- A text can name a deleted file without being doubted: of the files that it names, only the first counts. -/
theorem replaced_not_doubted :
    SearchesFit (decisionLog replacing.respond {} default "proj" replacedFiles) ∧
    ∃ outcome decision, decisionOutcome replacing.respond {} default "proj" replacedFiles = .ok outcome ∧
      outcome.data = some [decision] ∧ decision.mightBeInvalidated = false ∧
      (∀ item ∈ itemsListed (decisionLog replacing.respond {} default "proj" replacedFiles),
        GivesDecision item decision.id "Replace legacy.ts by auth.ts") ∧
      ∃ gone ∈ replacedFiles.deleted, Names "Replace legacy.ts by auth.ts" gone := by
  have answered : answers "decision_search" (decisionLog replacing.respond {} default "proj" replacedFiles) =
      List.replicate 2 (decisionAnswer [("d1", "Replace legacy.ts by auth.ts")]) := rfl
  refine ⟨?_, _, _, rfl, rfl, rfl, ?_, "src/legacy.ts", List.mem_singleton_self _, by decide +kernel⟩
  · rw [SearchesFit, answered]
    simp [decisionAnswer_lists]
  · intro item listed
    rw [itemsListed, answered] at listed
    obtain ⟨answer, replicated, member⟩ := List.mem_flatMap.mp listed
    rw [List.eq_of_mem_replicate replicated] at member
    rw [List.mem_singleton.mp member]
    exact ⟨_, rfl, rfl, rfl⟩

end

end CodeGraph.Impact
