import CodeGraph.Proofs.Impact.Mentions

namespace CodeGraph.Impact

/-- The items that an answer lists as entities. -/
def listedEntities : Json → List Json
  | .obj members => ((given? members "entities").bind Json.asList?).getD []
  | _ => []

/-- The members and the id of an item with an id. -/
def named? : Json → Option (Members × String)
  | .obj members =>
    match given? members "id" with
    | some (.str id) => some (members, id)
    | _ => none
  | _ => none

/-- The text that an object gives under a key, or another one. -/
def textOr (members : Members) (key fallback : String) : String :=
  match given? members key with
  | some (.str s) => s
  | _ => fallback

/-- How many references are listed, none where they could not be asked for. -/
def referenceCount : ToolReply → Nat
  | .ok (.obj members) => (((given? members "references").bind Json.asList?).getD []).length
  | _ => 0

/-- An answer that lists references. -/
def ListsReferences (answer : Json) : Prop :=
  ∃ members, answer = .obj members ∧ ∀ references ∈ given? members "references", ∃ items, references = .arr items

/-- The entity that an item for a file gives. -/
def entityFrom (change : ChangeType) (file : String) (item : Members × String) (references : ToolReply) :
    AffectedEntity where
  id := item.2
  name := textOr item.1 "name" item.2
  type := textOr item.1 "type" "unknown"
  filePath := textOr item.1 "filePath" file
  change
  usages := referenceCount references

/-- The question for references to an entity, with its reply. -/
def referencesAsked (project : String) (item : Members × String) (reply : ToolReply) : LookupExchange :=
  ⟨.tool "entity_references" (.obj [("projectId", .str project), ("entityId", .str item.2)]), reply⟩

/-- A search for the entities of a file: its reply, and the replies to the questions for references to those that it
lists. -/
structure EntitySearch where
  file : String
  reply : ToolReply
  references : List ToolReply

namespace EntitySearch

/-- The items with an id that are found. -/
def items (search : EntitySearch) : List (Members × String) :=
  match search.reply with
  | .ok answer => (listedEntities answer).filterMap named?
  | .error _ => []

/-- References are asked for once for each item with an id. -/
def IsComplete (search : EntitySearch) : Prop :=
  search.references.length = search.items.length

instance (search : EntitySearch) : Decidable search.IsComplete :=
  inferInstanceAs (Decidable (_ = _))

/-- What is looked up in a search. -/
def exchanges (project : String) (search : EntitySearch) : List LookupExchange :=
  ⟨.tool "entity_search" (.obj [("projectId", .str project), ("filters", .obj [("filePath", .str search.file)])]),
    search.reply⟩ :: List.zipWith (referencesAsked project) search.items search.references

/-- The entities of a search. Those of a deleted file are deleted. -/
def entities (files : ChangedFiles) (search : EntitySearch) : List AffectedEntity :=
  let change := if search.file ∈ files.deleted then .deleted else .modified
  List.zipWith (entityFrom change search.file) search.items search.references

/-- The warning of a search that failed. -/
def warning? (search : EntitySearch) : Option String :=
  match search.reply with
  | .ok _ => none
  | .error reason => some s!"Entity lookup failed for {search.file}: {reason}"

/-- A search is the same in another run, except that it fails for one path. -/
inductive FailsFor (path : String) : EntitySearch → EntitySearch → Prop
  | fails (reply : ToolReply) (references : List ToolReply) (reason : String) :
      FailsFor path ⟨path, reply, references⟩ ⟨path, .error reason, []⟩
  | stays {search : EntitySearch} (other : search.file ≠ path) : FailsFor path search search

end EntitySearch

section

variable {project file : String} {files : ChangedFiles} {members : Members} {key fallback : String}
  {change : ChangeType} {log more : List LookupExchange} {answer : Json} {searches others : List EntitySearch}

theorem orElse_text (texts : ∀ value ∈ given? members key, IsText value) :
    orElse ((Members.get? members key).getD .null) (.str fallback) = .str (textOr members key fallback) := by
  cases given : given? members key with
  | none => rw [orElse, given?_eq_none_iff.mp given, if_neg Bool.false_ne_true, textOr, given]
  | some value =>
    obtain ⟨s, rfl⟩ := texts value given
    obtain ⟨truthy, same⟩ := given?_eq_some_iff.mp given
    rw [same, orElse, if_pos truthy, textOr, given]

theorem affectedEntity_eq (texts : GivesTexts members ["name", "type", "filePath"]) (id : String)
    (references : ToolReply) :
    AffectedEntity.schema.validate (.obj [
      ("entity_id", .str id), ("name", orElse ((Members.get? members "name").getD .null) (.str id)),
      ("type", orElse ((Members.get? members "type").getD .null) (.str "unknown")),
      ("file_path", orElse ((Members.get? members "filePath").getD .null) (.str file)),
      ("change_type", .str change.name), ("usage_count", .int (referenceCount references))]) =
      .ok (entityFrom change file (members, id) references) := by
  rw [orElse_text (texts "name" (by simp)), orElse_text (texts "type" (by simp)),
    orElse_text (texts "filePath" (by simp))]
  cases change <;> rfl

theorem lengthOf_references (lists : ListsReferences (.obj members)) :
    lengthOf ((Members.get? members "references").getD .null) = .ok (referenceCount (.ok (.obj members))) := by
  obtain ⟨_, ⟨⟩, list⟩ := lists
  cases given : given? members "references" with
  | none => simp [lengthOf, referenceCount, given, given?_eq_none_iff.mp given]
  | some value =>
    obtain ⟨items, rfl⟩ := list value given
    obtain ⟨truthy, same⟩ := given?_eq_some_iff.mp given
    simp [lengthOf, referenceCount, given, same, truthy, Json.asList?]

/-- All that is answered about references is a list of them. -/
def ReferencesListed (log : List LookupExchange) : Prop :=
  ∀ answer ∈ answers "entity_references" log, ListsReferences answer

/-- All that is answered about entities is of the right shape. -/
def EntitiesListed (log : List LookupExchange) : Prop :=
  (∀ answer ∈ answers "entity_search" log, ListsEntities answer) ∧ ReferencesListed log

theorem referencesListed_append :
    ReferencesListed (log ++ more) ↔ ReferencesListed log ∧ ReferencesListed more := by
  unfold ReferencesListed
  rw [answers_append, List.forall_mem_append]

/-- References are asked for once, and a failure counts as none. -/
theorem usageCount_ensures (item : Members × String) :
    (usageCount project (.str item.2)).run.Ensures fun log result => ∃ reply,
      log = [referencesAsked project item reply] ∧ (ReferencesListed log → result = .ok (referenceCount reply)) := by
  refine Analysis.ensures_call fun reply => ?_
  cases reply with
  | error reason => exact ⟨_, rfl, fun _ => rfl⟩
  | ok answer =>
    dsimp only
    rw [← Analysis.lift_bind]
    refine ⟨_, rfl, fun listed => ?_⟩
    have lists := listed answer List.mem_cons_self
    obtain ⟨members, rfl, _⟩ := id lists
    exact lengthOf_references lists

theorem entitiesOf_obj (rest : List Json) : entitiesOf project file change (.obj members :: rest) =
    if !((Members.get? members "id").getD .null).isTruthy then entitiesOf project file change rest
    else usageCount project ((Members.get? members "id").getD .null) >>= fun usages =>
      Analysis.checked AffectedEntity.schema [
        ("entity_id", (Members.get? members "id").getD .null),
        ("name", orElse ((Members.get? members "name").getD .null) ((Members.get? members "id").getD .null)),
        ("type", orElse ((Members.get? members "type").getD .null) (.str "unknown")),
        ("file_path", orElse ((Members.get? members "filePath").getD .null) (.str file)),
        ("change_type", .str change.name), ("usage_count", .int usages)] >>= fun entity =>
      entitiesOf project file change rest >>= fun more => pure (entity :: more) :=
  rfl

/-- Items are gone through in their order, and each with an id gives an entity. -/
theorem entitiesOf_ensures (items : List Json) (tell : ∀ item ∈ items, TellsEntity item) :
    (entitiesOf project file change items).run.Ensures fun log result => ReferencesListed log →
      ∃ replies : List ToolReply, replies.length = (items.filterMap named?).length ∧
        log = List.zipWith (referencesAsked project) (items.filterMap named?) replies ∧
        result = .ok (List.zipWith (entityFrom change file) (items.filterMap named?) replies) := by
  induction items with
  | nil => exact .pure fun _ => ⟨[], rfl, rfl, rfl⟩
  | cons item rest ih =>
    obtain ⟨⟨members, rfl, told⟩, later⟩ := List.forall_mem_cons.mp tell
    rw [entitiesOf_obj]
    cases given : given? members "id" with
    | none =>
      have nameless : named? (.obj members) = none := by simp [named?, given]
      rw [given?_eq_none_iff.mp given, Bool.not_false, if_pos rfl, List.filterMap_cons_none nameless]
      exact ih later
    | some value =>
      obtain ⟨⟨id, rfl⟩, texts⟩ := told value given
      obtain ⟨truthy, same⟩ := given?_eq_some_iff.mp given
      have named : named? (.obj members) = some (members, id) := by simp [named?, given]
      rw [same, truthy, Bool.not_true, if_neg Bool.false_ne_true, List.filterMap_cons_some named]
      refine Analysis.ensures_bind ((usageCount_ensures (members, id)).weaken ?_)
      rintro asked counted ⟨reply, rfl, count⟩
      by_cases listed : ReferencesListed [referencesAsked project (members, id) reply]
      · rw [count listed]
        dsimp only
        rw [Analysis.checked_eq, affectedEntity_eq texts id reply, mapError_ok, Analysis.lift_ok_bind]
        refine Analysis.ensures_map _ ((ih later).weaken fun log result ensured fits => ?_)
        obtain ⟨replies, length, rfl, rfl⟩ := ensured (referencesListed_append.mp fits).2
        exact ⟨reply :: replies, congrArg (· + 1) length, rfl, rfl⟩
      · -- Such an answer may break the analysis off, but is in the log.
        cases counted with
        | error misshape => exact fun fits => absurd fits listed
        | ok usages =>
          refine (Program.ensures_true _).weaken fun log result _ fits => ?_
          exact absurd (referencesListed_append.mp fits).1 listed

theorem itemsOf_entities (lists : ListsEntities answer) : ∃ members, answer = .obj members ∧
    itemsOf ((Members.get? members "entities").getD .null) = .ok (listedEntities answer) ∧
    ∀ item ∈ listedEntities answer, TellsEntity item := by
  obtain ⟨members, rfl, list⟩ := lists
  refine ⟨members, rfl, ?_⟩
  cases given : given? members "entities" with
  | none => simp [itemsOf, listedEntities, given, given?_eq_none_iff.mp given]
  | some value =>
    obtain ⟨items, rfl, tell⟩ := list value given
    obtain ⟨truthy, same⟩ := given?_eq_some_iff.mp given
    have listed : listedEntities (.obj members) = items := by simp [listedEntities, given, Json.asList?]
    rw [listed, same]
    exact ⟨by simp [itemsOf, truthy], tell⟩

theorem entitiesListed_append :
    EntitiesListed (log ++ more) ↔ EntitiesListed log ∧ EntitiesListed more := by
  unfold EntitiesListed
  rw [answers_append, List.forall_mem_append, referencesListed_append, and_and_and_comm]

/-- Each file is searched for once, in their order. -/
theorem entitiesOfFiles_ensures (project : String) (files : ChangedFiles) (looked : List String) :
    (entitiesOfFiles project files.deleted looked).run.Ensures fun log result => EntitiesListed log →
      ∃ searches : List EntitySearch, searches.map (·.file) = looked ∧ (∀ s ∈ searches, s.IsComplete) ∧
        log = searches.flatMap (·.exchanges project) ∧
        result = .ok (searches.flatMap (·.entities files), searches.filterMap (·.warning?)) := by
  induction looked with
  | nil => exact .pure fun _ => ⟨[], rfl, nofun, rfl, rfl⟩
  | cons file rest ih =>
    refine Analysis.ensures_call fun reply => ?_
    cases reply with
    | error reason =>
      refine Analysis.ensures_map _ (ih.weaken fun log result ensured fits => ?_)
      obtain ⟨searches, rfl, complete, rfl, rfl⟩ := ensured fits
      exact ⟨⟨file, .error reason, []⟩ :: searches, rfl, List.forall_mem_cons.mpr ⟨rfl, complete⟩, rfl, rfl⟩
    | ok answer =>
      by_cases lists : ListsEntities answer
      · obtain ⟨members, rfl, listed, tell⟩ := itemsOf_entities lists
        dsimp only [member]
        rw [Analysis.lift_ok_bind, listed, Analysis.lift_ok_bind]
        have change : (if files.deleted.contains file then ChangeType.deleted else .modified) =
            if file ∈ files.deleted then .deleted else .modified := by simp
        rw [change]
        refine Analysis.ensures_bind ((entitiesOf_ensures _ tell).weaken fun asked found ensured => ?_)
        -- What is listed in all lookups is listed in those for this file and in those for the other files.
        have parts (log : List LookupExchange) (fits : EntitiesListed (⟨.tool "entity_search" (.obj [
            ("projectId", .str project), ("filters", .obj [("filePath", .str file)])]),
            .ok (.obj members)⟩ :: (asked ++ log))) : ReferencesListed asked ∧ EntitiesListed log := by
          have both : EntitiesListed (asked ++ log) := ⟨fun a member => fits.1 a (List.mem_cons_of_mem _ member), fits.2⟩
          obtain ⟨here, later⟩ := entitiesListed_append.mp both
          exact ⟨here.2, later⟩
        by_cases here : ReferencesListed asked
        · obtain ⟨replies, length, rfl, rfl⟩ := ensured here
          refine Analysis.ensures_map _ (ih.weaken fun log result ensured fits => ?_)
          obtain ⟨searches, rfl, complete, rfl, rfl⟩ := ensured (parts _ fits).2
          exact ⟨⟨file, .ok (.obj members), replies⟩ :: searches, rfl, List.forall_mem_cons.mpr ⟨length, complete⟩,
            rfl, rfl⟩
        · cases found with
          | error misshape =>
            rw [← List.append_nil asked]
            exact fun fits => absurd (parts [] fits).1 here
          | ok entities =>
            refine (Program.ensures_true _).weaken fun log result _ fits => ?_
            exact absurd (parts log fits).1 here
      · -- Such an answer may break the search off, but is in the log.
        refine (Program.ensures_true _).weaken fun log result _ fits => ?_
        exact absurd (fits.1 answer List.mem_cons_self) lists

theorem affectedEntities_ensures (now : DateTime) (project : String) (files : ChangedFiles) :
    (affectedEntities now true project files).run.Ensures fun log result => EntitiesListed log →
      ∃ outcome, ∃ searches : List EntitySearch, result = .ok outcome ∧
        searches.map (·.file) = (files.modified ++ files.deleted).take maxEntityFiles ∧
        (∀ s ∈ searches, s.IsComplete) ∧ log = searches.flatMap (·.exchanges project) ∧
        outcome.data = some (searches.flatMap (·.entities files)) ∧
        outcome.warnings = searches.filterMap (·.warning?) := by
  unfold affectedEntities
  rw [if_neg (by decide)]
  refine Analysis.ensures_map _ ((entitiesOfFiles_ensures project files _).weaken fun log result ensured fits => ?_)
  obtain ⟨searches, looked, complete, logged, rfl⟩ := ensured fits
  exact ⟨_, searches, rfl, looked, complete, logged, lookupOutcome_data .., lookupOutcome_warnings ..⟩

theorem zipWith_referencesAsked_inj {items : List (Members × String)} {replies more : List ToolReply}
    (length : replies.length = items.length) (sameLength : more.length = items.length)
    (same : List.zipWith (referencesAsked project) items replies = List.zipWith (referencesAsked project) items more) :
    replies = more := by
  induction items generalizing replies more with
  | nil => rw [List.length_eq_zero_iff.mp length, List.length_eq_zero_iff.mp sameLength]
  | cons item items ih =>
    obtain ⟨reply, replies, rfl⟩ := List.exists_cons_of_length_eq_add_one length
    obtain ⟨other, more, rfl⟩ := List.exists_cons_of_length_eq_add_one sameLength
    obtain ⟨here, later⟩ := List.cons.inj same
    cases here
    rw [ih (Nat.succ.inj length) (Nat.succ.inj sameLength) later]

namespace EntitySearch

variable {search other : EntitySearch} {path : String}

/-- What is looked up in a search tells which search it was, whatever is looked up afterwards. -/
theorem eq_of_exchanges (complete : search.IsComplete) (otherComplete : other.IsComplete)
    (same : search.exchanges project ++ log = other.exchanges project ++ more) : search = other := by
  obtain ⟨file, reply, references⟩ := search
  obtain ⟨otherFile, otherReply, otherReferences⟩ := other
  obtain ⟨first, asked⟩ := List.cons.inj same
  cases first
  have length : references.length = otherReferences.length := complete.trans otherComplete.symm
  have zipped := (List.append_inj asked (by rw [List.length_zipWith, List.length_zipWith, length]; rfl)).1
  obtain rfl : references = otherReferences := zipWith_referencesAsked_inj complete otherComplete zipped
  rfl

/-- The searches of a run can be told from what is looked up. -/
theorem eq_of_flatMap_exchanges (complete : ∀ s ∈ searches, s.IsComplete) (otherComplete : ∀ s ∈ others, s.IsComplete)
    (same : searches.flatMap (·.exchanges project) = others.flatMap (·.exchanges project)) : searches = others := by
  induction searches generalizing others with
  | nil =>
    cases others with
    | nil => rfl
    | cons other rest => cases same
  | cons search rest ih =>
    cases others with
    | nil => cases same
    | cons other others =>
      rw [List.forall_mem_cons] at complete otherComplete
      rw [List.flatMap_cons, List.flatMap_cons] at same
      obtain rfl := eq_of_exchanges complete.1 otherComplete.1 same
      rw [ih complete.2 otherComplete.2 (List.append_cancel_left same)]

theorem FailsFor.isComplete (fails : FailsFor path search other) (complete : search.IsComplete) :
    other.IsComplete := by
  cases fails with
  | fails => rfl
  | stays => exact complete

theorem FailsFor.listed (fails : FailsFor path search other) (listed : EntitiesListed (search.exchanges project)) :
    EntitiesListed (other.exchanges project) := by
  cases fails with
  | fails => exact ⟨nofun, nofun⟩
  | stays => exact listed

variable (fails : List.Forall₂ (FailsFor path) searches others)
include fails

theorem isComplete_of_fails (complete : ∀ s ∈ searches, s.IsComplete) : ∀ s ∈ others, s.IsComplete := by
  induction fails with
  | nil => exact complete
  | cons first _ ih =>
    obtain ⟨here, later⟩ := List.forall_mem_cons.mp complete
    exact List.forall_mem_cons.mpr ⟨first.isComplete here, ih later⟩

theorem listed_of_fails (listed : EntitiesListed (searches.flatMap (·.exchanges project))) :
    EntitiesListed (others.flatMap (·.exchanges project)) := by
  induction fails with
  | nil => exact listed
  | cons first _ ih =>
    rw [List.flatMap_cons, entitiesListed_append] at listed ⊢
    exact ⟨first.listed listed.1, ih listed.2⟩

/-- Exactly the entities of the path are gone. -/
theorem entities_of_fails (files : ChangedFiles) :
    others.flatMap (·.entities files) = (searches.filter (·.file ≠ path)).flatMap (·.entities files) := by
  induction fails with
  | nil => rfl
  | cons first _ ih =>
    rw [List.flatMap_cons, ih]
    cases first with
    | fails => simp [entities, items]
    | stays other => rw [List.filter_cons_of_pos (by simpa using other), List.flatMap_cons]

/-- There is one more warning for each time that the path is searched for. -/
theorem warnings_of_fails (answered : ∀ s ∈ searches, s.file = path → ∃ answer, s.reply = .ok answer) :
    (others.filterMap (·.warning?)).length =
      (searches.filterMap (·.warning?)).length + (searches.map (·.file)).count path := by
  induction fails with
  | nil => rfl
  | @cons search _ searches others first _ ih =>
    obtain ⟨here, later⟩ := List.forall_mem_cons.mp answered
    have rest := ih later
    cases first with
    | fails reply references reason =>
      obtain ⟨answer, rfl⟩ := here rfl
      rw [List.map_cons, List.count_cons_self, ← Nat.add_assoc]
      exact congrArg (· + 1) rest
    | stays other =>
      rw [List.map_cons, List.count_cons_of_ne other]
      cases warns : search.warning? with
      | none => rw [List.filterMap_cons_none warns, List.filterMap_cons_none warns, rest]
      | some warning =>
        rw [List.filterMap_cons_some warns, List.filterMap_cons_some warns, List.length_cons, List.length_cons, rest,
          Nat.add_right_comm]

end EntitySearch

end

section

variable {σ : Type} (respond : (request : LookupRequest) → σ → request.Reply × σ) (state : σ) (now : DateTime)
  (project : String) (files : ChangedFiles)

/-- What a search for entities looks up. -/
def entityLog : List LookupExchange :=
  (affectedEntities now true project files).run.exchanges respond state

/-- What a search for entities comes to. -/
def entityOutcome : Except Misshape (Outcome (List AffectedEntity)) :=
  ((affectedEntities now true project files).run.run respond state).1

theorem entityOutcome_eq (fits : EntitiesListed (entityLog respond state now project files)) :
    ∃ outcome, ∃ searches : List EntitySearch, entityOutcome respond state now project files = .ok outcome ∧
      searches.map (·.file) = (files.modified ++ files.deleted).take 20 ∧ (∀ s ∈ searches, s.IsComplete) ∧
      entityLog respond state now project files = searches.flatMap (·.exchanges project) ∧
      outcome.data = some (searches.flatMap (·.entities files)) ∧
      outcome.warnings = searches.filterMap (·.warning?) :=
  (affectedEntities_ensures now project files).exchanges respond state fits

/-- Each of the first twenty files is searched for, and what is found are the entities of these searches in their order.
A search that fails gives a warning, and an entity whose references cannot be asked for counts as unused without one. In
another run that is answered the same, except that the searches for one path fail, exactly the entities of that path are
gone, and there is one more warning for each time that it is searched for. -/
theorem affectedEntities_finds (fits : EntitiesListed (entityLog respond state now project files)) :
    ∃ outcome, ∃ searches : List EntitySearch, entityOutcome respond state now project files = .ok outcome ∧
      searches.map (·.file) = (files.modified ++ files.deleted).take 20 ∧ (∀ s ∈ searches, s.IsComplete) ∧
      entityLog respond state now project files = searches.flatMap (·.exchanges project) ∧
      outcome.data = some (searches.flatMap (·.entities files)) ∧
      outcome.warnings = searches.filterMap (·.warning?) ∧
      ∀ {τ : Type} (other : (request : LookupRequest) → τ → request.Reply × τ) (start : τ) (later : DateTime)
        (path : String) (others : List EntitySearch), List.Forall₂ (EntitySearch.FailsFor path) searches others →
        entityLog other start later project files = others.flatMap (·.exchanges project) →
        ∃ rest, entityOutcome other start later project files = .ok rest ∧
          rest.data = some ((searches.filter (·.file ≠ path)).flatMap (·.entities files)) ∧
          rest.warnings = others.filterMap (·.warning?) ∧
          ((∀ s ∈ searches, s.file = path → ∃ answer, s.reply = .ok answer) →
            rest.warnings.length =
              outcome.warnings.length + ((files.modified ++ files.deleted).take 20).count path) := by
  obtain ⟨outcome, searches, made, looked, complete, logged, data, warnings⟩ :=
    entityOutcome_eq respond state now project files fits
  refine ⟨outcome, searches, made, looked, complete, logged, data, warnings, ?_⟩
  intro τ other start later path others fails otherLogged
  have otherFits : EntitiesListed (entityLog other start later project files) := by
    rw [otherLogged]
    exact EntitySearch.listed_of_fails fails (logged ▸ fits)
  obtain ⟨rest, found, otherMade, _, otherComplete, sameLog, otherData, otherWarnings⟩ :=
    entityOutcome_eq other start later project files otherFits
  obtain rfl : others = found := EntitySearch.eq_of_flatMap_exchanges
    (EntitySearch.isComplete_of_fails fails complete) otherComplete (otherLogged.symm.trans sameLog)
  refine ⟨rest, otherMade, ?_, otherWarnings, fun answered => ?_⟩
  · rw [otherData, EntitySearch.entities_of_fails fails]
  · rw [otherWarnings, warnings, ← looked, EntitySearch.warnings_of_fails fails answered]

/-- An answer that lists entities with texts in their fields. -/
def entityAnswer (items : List (List (String × String))) : Json :=
  .obj [("entities", .arr (items.map fun fields => .obj (fields.map fun field => (field.1, .str field.2))))]

theorem isText_of_given {fields : List (String × String)} {key : String} {value : Json}
    (given : given? (fields.map fun field => (field.1, .str field.2)) key = some value) : IsText value := by
  have member := Members.mem_of_get? (Option.filter_eq_some_iff.mp given).1
  obtain ⟨field, _, same⟩ := List.mem_map.mp member
  exact ⟨field.2, (congrArg Prod.snd same).symm⟩

theorem entityAnswer_lists (items : List (List (String × String))) : ListsEntities (entityAnswer items) := by
  refine ⟨_, rfl, fun value given => ?_⟩
  obtain ⟨_, rfl⟩ := given?_eq_some_iff.mp given
  refine ⟨_, rfl, fun item member => ?_⟩
  obtain ⟨fields, _, rfl⟩ := List.mem_map.mp member
  exact ⟨_, rfl, fun id given => ⟨isText_of_given given, fun _ _ _ given => isText_of_given given⟩⟩

/-- A server that knows the entities of two files and references to one of them. The searches for some files fail. -/
def indexing (failing : List String) : LookupSource where
  git _ := .exited 0 [] []
  tool
    | "entity_search", .obj [_, (_, .obj [(_, .str file)])] =>
      if file ∈ failing then .error "busy"
      else if file = "src/a.py" then .ok (entityAnswer [[("id", "login"), ("type", "function")],
        [("name", "no id")], [("id", "logout"), ("name", "log out")]])
      else .ok (entityAnswer [[("id", "old")]])
    | "entity_references", .obj [_, (_, .str "login")] => .ok (.obj [("references", .arr [.null, .null])])
    | _, _ => .error "unknown"

/-- A file that was modified and is listed as deleted, too, is searched for twice. -/
def movedFiles : ChangedFiles where
  modified := ["src/a.py", "src/b.py", "src/c.py"]
  deleted := ["src/c.py"]

/-- The searches for these files. The ones for the last file may fail. -/
def movedSearches (fails : Bool) : List EntitySearch :=
  let moved : EntitySearch := if fails then ⟨"src/c.py", .error "busy", []⟩
    else ⟨"src/c.py", .ok (entityAnswer [[("id", "old")]]), [.error "unknown"]⟩
  [⟨"src/a.py", .ok (entityAnswer [[("id", "login"), ("type", "function")], [("name", "no id")],
      [("id", "logout"), ("name", "log out")]]), [.ok (.obj [("references", .arr [.null, .null])]), .error "unknown"]⟩,
    ⟨"src/b.py", .error "busy", []⟩, moved, moved]

theorem indexing_searches (fails : Bool) :
    entityLog (indexing (if fails then ["src/b.py", "src/c.py"] else ["src/b.py"])).respond {} default "proj" movedFiles =
      (movedSearches fails).flatMap (·.exchanges "proj") := by
  cases fails <;> rfl

theorem movedSearches_fails :
    List.Forall₂ (EntitySearch.FailsFor "src/c.py") (movedSearches false) (movedSearches true) :=
  .cons (.stays (by decide)) (.cons (.stays (by decide)) (.cons (.fails ..) (.cons (.fails ..) .nil)))

theorem movedSearches_listed : EntitiesListed ((movedSearches false).flatMap (·.exchanges "proj")) := by
  have searched : answers "entity_search" ((movedSearches false).flatMap (·.exchanges "proj")) =
      [entityAnswer [[("id", "login"), ("type", "function")], [("name", "no id")],
        [("id", "logout"), ("name", "log out")]], entityAnswer [[("id", "old")]], entityAnswer [[("id", "old")]]] := rfl
  have asked : answers "entity_references" ((movedSearches false).flatMap (·.exchanges "proj")) =
      [.obj [("references", .arr [.null, .null])]] := rfl
  constructor
  · rw [searched]
    simp [entityAnswer_lists]
  · rw [ReferencesListed, asked]
    intro answer member
    refine ⟨_, List.mem_singleton.mp member, fun value given => ?_⟩
    exact ⟨_, (given?_eq_some_iff.mp given).2.symm⟩

/-- Without the searches for the last file both finds of its entity are gone. -/
theorem affectedEntities_finds_movedFiles :
    EntitiesListed (entityLog (indexing ["src/b.py"]).respond {} default "proj" movedFiles) ∧
    ∃ outcome rest, entityOutcome (indexing ["src/b.py"]).respond {} default "proj" movedFiles = .ok outcome ∧
      outcome.data.map (·.map fun e => (e.id, e.change, e.usages)) = some [("login", .modified, 2),
        ("logout", .modified, 0), ("old", .deleted, 0), ("old", .deleted, 0)] ∧
      outcome.warnings = ["Entity lookup failed for src/b.py: busy"] ∧
      entityOutcome (indexing ["src/b.py", "src/c.py"]).respond {} default "proj" movedFiles = .ok rest ∧
      rest.data.map (·.map (·.id)) = some ["login", "logout"] ∧
      rest.warnings.length = outcome.warnings.length + 2 := by
  have fits : EntitiesListed (entityLog (indexing ["src/b.py"]).respond {} default "proj" movedFiles) :=
    indexing_searches false ▸ movedSearches_listed
  obtain ⟨outcome, searches, made, _, complete, logged, data, warnings, others⟩ := affectedEntities_finds _ _ _ _ _ fits
  obtain rfl : searches = movedSearches false :=
    EntitySearch.eq_of_flatMap_exchanges complete (by decide) (logged.symm.trans (indexing_searches false))
  obtain ⟨rest, otherMade, otherData, _, count⟩ := others _ _ default "src/c.py" _ movedSearches_fails (indexing_searches true)
  refine ⟨fits, outcome, rest, made, ?_, warnings, otherMade, ?_, count ?_⟩
  · rw [data]
    rfl
  · rw [otherData]
    rfl
  · intro search member same
    simp only [movedSearches, Bool.false_eq_true, if_false, List.mem_cons, List.not_mem_nil, or_false] at member
    rcases member with rfl | rfl | rfl | rfl
    · exact ⟨_, rfl⟩
    · exact absurd same (by decide)
    · exact ⟨_, rfl⟩
    · exact ⟨_, rfl⟩

end

end CodeGraph.Impact
