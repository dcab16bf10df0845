import CodeGraph.Proofs.Impact.Answers

namespace CodeGraph

namespace Impact

/-- A text that names a changed file. -/
def MentionsFile (files : ChangedFiles) (text : Json) : Prop :=
  ∃ file ∈ files.all, Path.name file ≠ "" ∧ mentions text (Path.name file) = .ok true

/-- An item that gives the id and the text of a decision about a changed file. -/
def IsDecision (files : ChangedFiles) (id : String) (item : Json) : Prop :=
  ∃ members text, item = .obj members ∧ given? members "id" = some (.str id) ∧
    given? members "decision" = some (.str text) ∧ MentionsFile files (.str text)

/-- An item that tells of a decision, after others. One without an id may be any object, and so may one
whose id is known already. -/
def TellsDecision (files : ChangedFiles) (before : List Json) (item : Json) : Prop :=
  ∃ members, item = .obj members ∧ ∀ id ∈ given? members "id",
    (∀ items, id ≠ .arr items) ∧ (∀ members, id ≠ .obj members) ∧
      ((∃ s, id = .str s ∧ ∃ earlier ∈ before, IsDecision files s earlier) ∨
        ∀ text ∈ given? members "decision", text.elements?.isSome ∧
          (MentionsFile files text → IsText id ∧ IsText text))

/-- Items that tell of decisions one after the other. -/
def TellDecisions (files : ChangedFiles) (before items : List Json) : Prop :=
  ∀ earlier item later, items = earlier ++ item :: later →
    TellsDecision files (before ++ earlier) item

/-- The items that an answer lists as decisions. -/
def listedDecisions : Json → List Json
  | .obj members => ((given? members "decisions").bind Json.asList?).getD []
  | _ => []

/-- Answers that list decisions. -/
def ListDecisions (files : ChangedFiles) (before : List Json) (found : List Json) : Prop :=
  (∀ answer ∈ found, ∃ members, answer = .obj members ∧
    ∀ decisions ∈ given? members "decisions", ∃ items, decisions = .arr items) ∧
  TellDecisions files before (found.flatMap listedDecisions)

theorem tellDecisions_nil {files : ChangedFiles} {before : List Json} :
    TellDecisions files before [] := by
  rintro earlier item later split
  simp at split

theorem tellDecisions_cons {files : ChangedFiles} {before : List Json} {item : Json}
    {rest : List Json} : TellDecisions files before (item :: rest) ↔
      TellsDecision files before item ∧ TellDecisions files (before ++ [item]) rest := by
  constructor
  · intro tell
    refine ⟨?_, fun earlier other later split => ?_⟩
    · simpa using tell [] item rest rfl
    · have told := tell (item :: earlier) other later (by rw [split]; rfl)
      rwa [List.append_cons] at told
  · rintro ⟨first, others⟩ earlier other later split
    cases earlier with
    | nil =>
      obtain ⟨rfl, rfl⟩ := List.cons.inj split
      simpa using first
    | cons head tail =>
      obtain ⟨rfl, same⟩ := List.cons.inj split
      rw [List.append_cons]
      exact others tail other later same

theorem tellDecisions_append {files : ChangedFiles} {before items more : List Json} :
    TellDecisions files before (items ++ more) ↔
      TellDecisions files before items ∧ TellDecisions files (before ++ items) more := by
  induction items generalizing before with
  | nil => simp [tellDecisions_nil]
  | cons item rest ih =>
    rw [List.cons_append, tellDecisions_cons, tellDecisions_cons, ih, and_assoc, List.append_assoc,
      List.singleton_append]

/-- The ids seen are those of the decisions before. -/
def Tracks (files : ChangedFiles) (seen : List String) (before : List Json) : Prop :=
  ∀ id, id ∈ seen ↔ ∃ item ∈ before, IsDecision files id item

theorem Tracks.skip {files : ChangedFiles} {seen : List String} {before : List Json} {item : Json}
    (tracks : Tracks files seen before) (known : ∀ id, IsDecision files id item → id ∈ seen) :
    Tracks files seen (before ++ [item]) := by
  intro id
  simp only [List.mem_append, List.mem_singleton, or_and_right, exists_or, exists_eq_left, ← tracks id]
  exact ⟨.inl, fun either => either.elim (fun seen => seen) (known _)⟩

theorem Tracks.take {files : ChangedFiles} {seen : List String} {before : List Json} {item : Json}
    {id : String} (tracks : Tracks files seen before)
    (decides : ∀ other, IsDecision files other item ↔ other = id) :
    Tracks files (id :: seen) (before ++ [item]) := by
  intro other
  rw [List.mem_cons, tracks other]
  simp only [List.mem_append, List.mem_singleton, or_and_right, exists_or, exists_eq_left, decides]
  exact or_comm

theorem mentions_ok (text : Json) (name : String) :
    (∃ found, mentions text name = .ok found) ↔ text.elements?.isSome = true := by
  cases text <;> simp [mentions, Json.elements?]

/-- A text that can be searched gives a file if it names one. -/
theorem mentioned?_of_searchable {text : Json} (searchable : text.elements?.isSome = true)
    (files : List String) : ∃ found, mentioned? text files = .ok found ∧ (found.isSome = true ↔
      ∃ file ∈ files, Path.name file ≠ "" ∧ mentions text (Path.name file) = .ok true) := by
  induction files with
  | nil => exact ⟨none, rfl, by simp⟩
  | cons file rest ih =>
    obtain ⟨found, searched, same⟩ := ih
    obtain ⟨here, looked⟩ := (mentions_ok text (Path.name file)).mpr searchable
    by_cases nameless : Path.name file = ""
    · exact ⟨found, by simpa [mentioned?, nameless] using searched, by simpa [nameless] using same⟩
    · cases here with
      | true =>
        refine ⟨some file, ?_, iff_of_true rfl ⟨file, List.mem_cons_self, nameless, looked⟩⟩
        simp [mentioned?, nameless, looked, bind, Except.bind, pure, Except.pure]
      | false =>
        refine ⟨found, ?_, by simpa [looked] using same⟩
        simpa [mentioned?, nameless, looked, bind, Except.bind] using searched

/-- Another text ends the search at the first file that has a name. -/
theorem mentioned?_of_unsearchable {text : Json} (unsearchable : text.elements?.isSome = false)
    {files : List String} (named : ∃ file ∈ files, Path.name file ≠ "") :
    ∃ misshape, mentioned? text files = .error misshape := by
  induction files with
  | nil => simp at named
  | cons file rest ih =>
    by_cases nameless : Path.name file = ""
    · obtain ⟨other, inRest, hasName⟩ := named
      rcases List.mem_cons.mp inRest with rfl | inRest
      · exact absurd nameless hasName
      · simpa [mentioned?, nameless] using ih ⟨other, inRest, hasName⟩
    · cases looked : mentions text (Path.name file) with
      | ok found =>
        have searchable := (mentions_ok text (Path.name file)).mp ⟨found, looked⟩
        simp [unsearchable] at searchable
      | error misshape =>
        exact ⟨misshape, by simp [mentioned?, nameless, looked, bind, Except.bind]⟩

theorem not_mentionsFile_empty (files : ChangedFiles) : ¬ MentionsFile files (.str "") := by
  rintro ⟨file, _, hasName, found⟩
  have noPiece : (Path.name file).toList.isEmpty = false := by
    simpa [List.isEmpty_iff] using hasName
  simp [mentions, Text.contains, Text.find?, noPiece] at found

theorem affectedDecision_valid {id summary : Json} {file : String} {invalidated : Bool} :
    (∃ decision, AffectedDecision.schema.validate (.obj [("decision_id", id), ("summary", summary),
      ("related_files", .arr [.str file]), ("might_be_invalidated", .bool invalidated)]) = .ok decision) ↔
      IsText id ∧ IsText summary := by
  have files : Reader.list Reader.text (.arr [.str file]) = .ok [file] := rfl
  rw [Schema.exists_validate_iff rfl]
  simp only [AffectedDecision.schema, List.forall_mem_cons,
    Field.issues_required_eq_nil Reader.text_tells, Field.issues_optional_eq_nil Reader.bool_tells,
    Field.issues_optional_eq_nil (Reader.text_tells.list nofun), Members.get?_cons]
  simp [text_ok, files, Reader.bool]

theorem affectedDecision_id {s : String} {summary : Json} {file : String} {invalidated : Bool}
    {decision : AffectedDecision}
    (valid : AffectedDecision.schema.validate (.obj [("decision_id", .str s), ("summary", summary),
      ("related_files", .arr [.str file]), ("might_be_invalidated", .bool invalidated)]) = .ok decision) :
    decision.id = s := by
  rw [Schema.validate_eq_ok_iff, Schema.read_obj_eq_ok_iff rfl] at valid
  rw [← valid.2]
  cases summary <;> rfl

section

variable {files : ChangedFiles} {seen : List String} {before : List Json} {members : Members}

theorem tellsDecision_obj (files : ChangedFiles) (before : List Json) (members : Members) :
    TellsDecision files before (.obj members) ↔
    ∀ id ∈ given? members "id", (∀ items, id ≠ .arr items) ∧ (∀ members, id ≠ .obj members) ∧
      ((∃ s, id = .str s ∧ ∃ earlier ∈ before, IsDecision files s earlier) ∨
        (orElse ((Members.get? members "decision").getD .null) (.str "")).elements?.isSome = true ∧
          (MentionsFile files (orElse ((Members.get? members "decision").getD .null) (.str "")) →
            IsText id ∧ IsText (orElse ((Members.get? members "decision").getD .null) (.str "")))) := by
  simp only [TellsDecision, Json.obj.injEq, exists_eq_left']
  refine forall₂_congr fun id _ => and_congr_right fun _ => and_congr_right fun _ => or_congr_right ?_
  have empty : (Json.str "").elements?.isSome = true ∧ (MentionsFile files (.str "") →
      IsText id ∧ IsText (.str "")) := ⟨rfl, fun mentioned => (not_mentionsFile_empty files mentioned).elim⟩
  exact (orElse_iff (fun text => text.elements?.isSome = true ∧ (MentionsFile files text →
    IsText id ∧ IsText text)) empty).symm

theorem isDecision_obj (files : ChangedFiles) (members : Members) (id : String) :
    IsDecision files id (.obj members) ↔ given? members "id" = some (.str id) ∧
      IsText (orElse ((Members.get? members "decision").getD .null) (.str "")) ∧
      MentionsFile files (orElse ((Members.get? members "decision").getD .null) (.str "")) := by
  constructor
  · rintro ⟨_, text, ⟨⟩, hasId, hasText, mentioned⟩
    obtain ⟨truthy, same⟩ := given?_eq_some_iff.mp hasText
    rw [same, orElse, if_pos truthy]
    exact ⟨hasId, ⟨text, rfl⟩, mentioned⟩
  · rintro ⟨hasId, ⟨text, isText⟩, mentioned⟩
    rw [isText] at mentioned
    refine ⟨members, text, rfl, hasId, ?_, mentioned⟩
    unfold orElse at isText
    split at isText
    · exact given?_eq_some_iff.mpr ⟨by rwa [← isText], isText⟩
    · cases isText
      exact (not_mentionsFile_empty files mentioned).elim

/-- The decision that an id and a text that mentions a file give. -/
def decisionOn (files : ChangedFiles) (id text : Json) (file : String) :
    Except Misshape AffectedDecision := do
  let summary ← summaryOf text
  (AffectedDecision.schema.validate (.obj [("decision_id", id), ("summary", summary),
    ("related_files", .arr [.str file]),
    ("might_be_invalidated", .bool (files.deleted.contains file))])).mapError Misshape.invalid

theorem decisionOn_eq_ok_iff {id text : Json} {file : String} {decision : AffectedDecision} :
    decisionOn files id text file = .ok decision ↔ ∃ summary, summaryOf text = .ok summary ∧
      AffectedDecision.schema.validate (.obj [("decision_id", id), ("summary", summary),
        ("related_files", .arr [.str file]),
        ("might_be_invalidated", .bool (files.deleted.contains file))]) = .ok decision := by
  unfold decisionOn
  cases summaryOf text with
  | error misshape => simp [bind, Except.bind]
  | ok summary =>
    simp only [Except.ok.injEq, exists_eq_left']
    change Except.mapError Misshape.invalid _ = _ ↔ _
    generalize AffectedDecision.schema.validate _ = valid
    cases valid <;> simp [mapError_ok, mapError_error]

theorem isText_summaryOf {text summary : Json} (kept : summaryOf text = .ok summary) :
    IsText summary ↔ IsText text := by
  cases text <;> simp [summaryOf] at kept <;> subst kept <;> simp [IsText]

theorem decisionOn_ok_iff (files : ChangedFiles) (file : String) {id text : Json} :
    (∃ decision, decisionOn files id text file = .ok decision) ↔ IsText id ∧ IsText text := by
  simp only [decisionOn_eq_ok_iff]
  constructor
  · rintro ⟨decision, summary, kept, valid⟩
    rw [← isText_summaryOf kept]
    exact affectedDecision_valid.mp ⟨decision, valid⟩
  · rintro ⟨isText, t, rfl⟩
    obtain ⟨decision, valid⟩ := affectedDecision_valid.mpr ⟨isText, Text.take summaryLength t, rfl⟩
    exact ⟨decision, _, rfl, valid⟩

theorem decisionOn_id {s file : String} {text : Json} {decision : AffectedDecision}
    (decided : decisionOn files (.str s) text file = .ok decision) : decision.id = s := by
  obtain ⟨summary, _, valid⟩ := decisionOn_eq_ok_iff.mp decided
  exact affectedDecision_id valid

theorem lift_decisionOn_bind {β : Type} (id text : Json) (file : String)
    (f : AffectedDecision → Analysis β) :
    liftM (decisionOn files id text file) >>= f = liftM (summaryOf text) >>= fun summary =>
      Analysis.checked AffectedDecision.schema [("decision_id", id), ("summary", summary),
        ("related_files", .arr [.str file]),
        ("might_be_invalidated", .bool (files.deleted.contains file))] >>= f := by
  simp only [Analysis.checked_eq]
  unfold decisionOn
  cases summaryOf text <;> rfl

/-- What an item does to a search for decisions: it is passed over, gives a decision that is new, or breaks
the analysis off. -/
inductive ItemStep (files : ChangedFiles) (seen : List String) (before : List Json) (item : Json)
    (rest : List Json) : Analysis (List AffectedDecision) → Prop
  | passes : TellsDecision files before item → Tracks files seen (before ++ [item]) →
      ItemStep files seen before item rest (decisionsOf files seen rest)
  | decides (decision : AffectedDecision) : TellsDecision files before item →
      Tracks files (decision.id :: seen) (before ++ [item]) →
      ItemStep files seen before item rest
        (decisionsOf files (decision.id :: seen) rest >>= fun more => pure (decision :: more))
  | breaks (misshape : Misshape) : ¬ TellsDecision files before item →
      ItemStep files seen before item rest (liftM (Except.error misshape : Except Misshape _))

theorem isSeen_scalar {id : Json} (noList : ∀ items, id ≠ .arr items)
    (noObject : ∀ members, id ≠ .obj members) (seen : List String) :
    ∃ known, isSeen seen id = .ok known ∧ (known = true ↔ ∃ s, id = .str s ∧ s ∈ seen) := by
  cases id with
  | arr items => exact absurd rfl (noList items)
  | obj members => exact absurd rfl (noObject members)
  | str s => exact ⟨_, rfl, by simp⟩
  | _ => exact ⟨false, rfl, by simp⟩

theorem isSeen_container {id : Json}
    (container : ¬ ((∀ items, id ≠ .arr items) ∧ ∀ members, id ≠ .obj members)) (seen : List String) :
    ∃ misshape, isSeen seen id = .error misshape := by
  cases id with
  | arr items => exact ⟨_, rfl⟩
  | obj members => exact ⟨_, rfl⟩
  | _ => exact absurd ⟨nofun, nofun⟩ container

/-- What an item with a new id does. -/
theorem mentioned?_step (named : ∃ file ∈ files.all, Path.name file ≠ "")
    (tracks : Tracks files seen before) {id text item : Json} {rest : List Json}
    (tells : TellsDecision files before item ↔
      text.elements?.isSome = true ∧ (MentionsFile files text → IsText id ∧ IsText text))
    (decides : ∀ other, IsDecision files other item ↔
      id = .str other ∧ IsText text ∧ MentionsFile files text) :
    ItemStep files seen before item rest (liftM (mentioned? text files.all) >>= fun found =>
      match found with
      | none => decisionsOf files seen rest
      | some file => liftM (decisionOn files id text file) >>= fun decision =>
          decisionsOf files (decision.id :: seen) rest >>= fun more => pure (decision :: more)) := by
  cases searchable : text.elements?.isSome with
  | false =>
    obtain ⟨misshape, ends⟩ := mentioned?_of_unsearchable searchable named
    rw [ends]
    exact .breaks misshape fun told => by simpa [searchable] using (tells.mp told).1
  | true =>
    obtain ⟨found, searched, same⟩ := mentioned?_of_searchable searchable files.all
    rw [searched, Analysis.lift_ok_bind]
    cases found with
    | none =>
      have noFile : ¬ MentionsFile files text := fun mentioned => by simpa using same.mpr mentioned
      have told := tells.mpr ⟨searchable, fun mentioned => (noFile mentioned).elim⟩
      exact .passes told (tracks.skip fun other decision => (noFile ((decides other).mp decision).2.2).elim)
    | some file =>
      have mentioned : MentionsFile files text := same.mp rfl
      dsimp only
      cases decided : decisionOn files id text file with
      | ok decision =>
        obtain ⟨⟨s, rfl⟩, isText⟩ := (decisionOn_ok_iff files file).mp ⟨decision, decided⟩
        have told := tells.mpr ⟨searchable, fun _ => ⟨⟨s, rfl⟩, isText⟩⟩
        refine .decides decision told (tracks.take fun other => ?_)
        rw [decides, decisionOn_id decided]
        simp [isText, mentioned, eq_comm]
      | error misshape =>
        refine .breaks misshape fun told => ?_
        obtain ⟨decision, other⟩ := (decisionOn_ok_iff files file).mpr ((tells.mp told).2 mentioned)
        simp [decided] at other

theorem decisionsOf_obj {text : Json}
    (hasText : orElse ((Members.get? members "decision").getD .null) (.str "") = text) (rest : List Json) :
    decisionsOf files seen (.obj members :: rest) =
      if !((Members.get? members "id").getD .null).isTruthy then decisionsOf files seen rest
      else liftM (isSeen seen ((Members.get? members "id").getD .null)) >>= fun known =>
        if known then decisionsOf files seen rest
        else liftM (mentioned? text files.all) >>= fun found => match found with
          | none => decisionsOf files seen rest
          | some file => liftM (decisionOn files ((Members.get? members "id").getD .null) text file) >>=
              fun decision => decisionsOf files (decision.id :: seen) rest >>= fun more =>
                pure (decision :: more) := by
  simp only [lift_decisionOn_bind]
  subst hasText
  rfl

theorem decisionsOf_cons (named : ∃ file ∈ files.all, Path.name file ≠ "")
    (tracks : Tracks files seen before) (item : Json) (rest : List Json) :
    ItemStep files seen before item rest (decisionsOf files seen (item :: rest)) := by
  rcases isObject : item with _ | _ | _ | _ | _ | _ | members
  case obj =>
    have tells := tellsDecision_obj files before members
    have decides := isDecision_obj files members
    generalize hasText : orElse ((Members.get? members "decision").getD .null) (.str "") = text
      at tells decides
    rw [decisionsOf_obj hasText]
    cases given : given? members "id" with
    | none =>
      rw [given?_eq_none_iff.mp given, Bool.not_false, if_pos rfl]
      refine .passes (tells.mpr (by simp [given])) (tracks.skip fun id decision => ?_)
      simp [decides, given] at decision
    | some id =>
      obtain ⟨truthy, hasId⟩ := given?_eq_some_iff.mp given
      rw [hasId, truthy, Bool.not_true, if_neg Bool.false_ne_true]
      simp only [given, Option.some.injEq] at decides
      simp only [given, Option.mem_some, forall_eq'] at tells
      by_cases scalar : (∀ items, id ≠ .arr items) ∧ ∀ members, id ≠ .obj members
      case neg =>
        -- A list or an object as an id breaks the search off.
        obtain ⟨misshape, ends⟩ := isSeen_container scalar seen
        rw [ends]
        exact .breaks misshape fun told => scalar ⟨(tells.mp told).1, (tells.mp told).2.1⟩
      obtain ⟨known, looked, seenBefore⟩ := isSeen_scalar scalar.1 scalar.2 seen
      rw [looked, Analysis.lift_ok_bind]
      cases known with
      | true =>
        obtain ⟨s, rfl, isSeen⟩ := seenBefore.mp rfl
        have told := tells.mpr ⟨scalar.1, scalar.2, .inl ⟨s, rfl, (tracks s).mp isSeen⟩⟩
        refine .passes told (tracks.skip fun other decision => ?_)
        obtain ⟨⟨⟩, _⟩ := (decides other).mp decision
        exact isSeen
      | false =>
        have notBefore : ¬ ∃ s, id = .str s ∧ ∃ earlier ∈ before, IsDecision files s earlier := by
          rintro ⟨s, same, earlier⟩
          simpa using seenBefore.mpr ⟨s, same, (tracks s).mpr earlier⟩
        rw [and_iff_right scalar.1, and_iff_right scalar.2, or_iff_right notBefore] at tells
        rw [if_neg Bool.false_ne_true]
        exact mentioned?_step named tracks tells decides
  all_goals
    exact .breaks _ fun ⟨_, other, _⟩ => by cases other

theorem decisionsOf_settles (named : ∃ file ∈ files.all, Path.name file ≠ "")
    (tracks : Tracks files seen before) (items : List Json) :
    (decisionsOf files seen items).Settles fun _ => TellDecisions files before items := by
  induction items generalizing seen before with
  | nil => exact .pure [] tellDecisions_nil
  | cons item rest ih =>
    simp only [tellDecisions_cons]
    have step := decisionsOf_cons named tracks item rest
    generalize decisionsOf files seen (item :: rest) = analysis at step ⊢
    cases step with
    | passes told next => exact (ih next).weaken fun _ => (and_iff_right told).symm
    | decides decision told next =>
      exact ((ih next).map _).weaken fun _ => (and_iff_right told).symm
    | breaks misshape untold => exact .lift (iff_of_false nofun fun tell => untold tell.1)

/-- The decisions found are those that are new among the items. -/
theorem decisionsOf_gives (named : ∃ file ∈ files.all, Path.name file ≠ "")
    (tracks : Tracks files seen before) (items : List Json) :
    (decisionsOf files seen items).Gives fun found =>
      Tracks files (found.reverse.map (·.id) ++ seen) (before ++ items) := by
  induction items generalizing seen before with
  | nil => exact .pure (by simpa using tracks)
  | cons item rest ih =>
    simp only [List.append_cons before item rest]
    have step := decisionsOf_cons named tracks item rest
    generalize decisionsOf files seen (item :: rest) = analysis at step ⊢
    cases step with
    | passes told next => exact ih next
    | decides decision told next =>
      refine (ih next).bind fun more tracked => .pure ?_
      simpa using tracked
    | breaks misshape untold => exact nofun

theorem listDecisions_cons {answer : Json} {found : List Json} :
    ListDecisions files before (answer :: found) ↔
      ListDecisions files before [answer] ∧ ListDecisions files (before ++ listedDecisions answer) found := by
  simp only [ListDecisions, List.forall_mem_cons, List.flatMap_cons, List.flatMap_nil,
    tellDecisions_append, tellDecisions_nil, and_true]
  simp only [List.not_mem_nil, false_imp_iff, implies_true, and_true]
  exact and_and_and_comm

theorem not_tellsDecision_str (s : String) : ¬ TellsDecision files before (.str s) := by
  rintro ⟨_, ⟨⟩, _⟩

/-- The items of what an answer gives are those that it lists, or are none that tell of decisions. -/
theorem listDecisions_iff (files : ChangedFiles) (before : List Json) {items : List Json}
    (listed : itemsOf ((Members.get? members "decisions").getD .null) = .ok items) :
    (ListDecisions files before [.obj members] ↔ TellDecisions files before items) ∧
      (TellDecisions files before items → listedDecisions (.obj members) = items) := by
  cases given : given? members "decisions" with
  | none =>
    unfold itemsOf at listed
    rw [given?_eq_none_iff.mp given, Bool.not_false, if_pos rfl] at listed
    cases listed
    simp [ListDecisions, listedDecisions, given]
  | some value =>
    obtain ⟨truthy, same⟩ := given?_eq_some_iff.mp given
    unfold itemsOf at listed
    rw [same, truthy, Bool.not_true, if_neg Bool.false_ne_true] at listed
    have texts (c : String) (more : List Json) (starts : items = .str c :: more)
        (noList : ∀ items, value ≠ .arr items) :
        (ListDecisions files before [.obj members] ↔ TellDecisions files before items) ∧
          (TellDecisions files before items → listedDecisions (.obj members) = items) := by
      have untold : ¬ TellDecisions files before items := by
        rw [starts, tellDecisions_cons]
        exact fun tell => not_tellsDecision_str c tell.1
      refine ⟨iff_of_false (fun lists => ?_) untold, fun tell => (untold tell).elim⟩
      simpa [ListDecisions, given, noList] using lists.1
    cases value with
    | arr all =>
      cases listed
      simp [ListDecisions, listedDecisions, given, Json.asList?]
    | obj members =>
      cases members with
      | nil => cases truthy
      | cons member more =>
        cases listed
        exact texts _ _ rfl nofun
    | str s =>
      obtain ⟨c, more, chars⟩ := toList_of_isTruthy truthy
      simp only [chars, List.map_cons, Except.ok.injEq] at listed
      exact texts _ _ listed.symm nofun
    | _ => cases listed

theorem itemsOf_of_lists (lists : ListDecisions files before [.obj members]) :
    ∃ items, itemsOf ((Members.get? members "decisions").getD .null) = .ok items := by
  obtain ⟨_, ⟨⟩, list⟩ := lists.1 _ List.mem_cons_self
  unfold itemsOf
  cases given : given? members "decisions" with
  | none => exact ⟨[], by rw [given?_eq_none_iff.mp given]; rfl⟩
  | some value =>
    obtain ⟨items, rfl⟩ := list value given
    obtain ⟨truthy, same⟩ := given?_eq_some_iff.mp given
    exact ⟨items, by rw [same, truthy]; rfl⟩

theorem decisionsForNames_settles (project : String) (named : ∃ file ∈ files.all, Path.name file ≠ "")
    (tracks : Tracks files seen before) (names : List String) :
    (decisionsForNames project files seen names).Settles fun log =>
      ListDecisions files before (answers "decision_search" log) := by
  induction names generalizing seen before with
  | nil => exact .pure _ ⟨nofun, tellDecisions_nil⟩
  | cons name rest ih =>
    refine .call fun reply => ?_
    cases reply with
    | error reason => exact (ih tracks).map _
    | ok answer =>
      have search (log : List LookupExchange) (parameters : Json) :
          ListDecisions files before
            (answers "decision_search" (⟨.tool "decision_search" parameters, .ok answer⟩ :: log)) ↔
            ListDecisions files before [answer] ∧
              ListDecisions files (before ++ listedDecisions answer) (answers "decision_search" log) :=
        listDecisions_cons
      simp only [search]
      refine .member_bind ?_ fun others fits => ?_
      · rintro members rfl
        refine .lift_bind (fun items listed => ?_) fun noItems fits => ?_
        · obtain ⟨lists, same⟩ := listDecisions_iff files before listed
          have settles := decisionsOf_settles named tracks items
          have gives := Program.Ensures.and settles (decisionsOf_gives named tracks items)
          have known : (decisionsOf files seen items).run.Ensures fun log result =>
              answers "decision_search" log = [] ∧ ∀ found, result = .ok found →
                Tracks files (found.reverse.map (·.id) ++ seen)
                  (before ++ listedDecisions (.obj members)) := by
            have spares : Analysis.Spares "decision_search" (decisionsOf files seen items) :=
              decisionsOf_spares files seen items
            refine (Program.Ensures.and spares gives).weaken ?_
            rintro log result ⟨spared, settled, tracked⟩
            refine ⟨spared, fun found given => ?_⟩
            rw [same (settled.mp ⟨found, given⟩)]
            exact tracked found given
          refine settles.bind_known known (fun found tracked => (ih tracked).map _)
            fun log more none => ?_
          rw [answers_append, none, List.nil_append, lists]
        · obtain ⟨items, listed⟩ := itemsOf_of_lists fits.1
          exact noItems items listed
      · obtain ⟨members, same, _⟩ := fits.1.1 answer List.mem_cons_self
        exact others members same

end

theorem affectedDecisions_settles (now : DateTime) (hasTools : Bool) (project : String)
    (files : ChangedFiles) : (affectedDecisions now hasTools project files).Settles fun log =>
      ListDecisions files [] (answers "decision_search" log) := by
  have nothingSeen : Tracks files [] [] := by simp [Tracks]
  unfold affectedDecisions
  split
  · exact .pure _ ⟨nofun, tellDecisions_nil⟩
  · by_cases named : ∃ file ∈ files.all, Path.name file ≠ ""
    · exact (decisionsForNames_settles project named nothingSeen _).map _
    · -- Without names nothing is asked.
      have noNames : fileNames files.all = [] := by simpa [fileNames] using named
      rw [noNames]
      exact .pure _ ⟨nofun, tellDecisions_nil⟩

end Impact

end CodeGraph
