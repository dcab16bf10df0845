import CodeGraph.Config.Search
import CodeGraph.Proofs.Schema.Fields

namespace CodeGraph

/-- An issue with a value itself, and not with a path that it names. -/
def IssueKind.IsLocal (kind : IssueKind) : Prop :=
  ∀ cause, kind ≠ .unreachable cause

namespace Reader

variable {α β : Type} {kinds : IssueKind → Prop}

/-- A reader that does not accept a value gives issues, all of certain kinds. -/
def Tells (kinds : IssueKind → Prop) (read : Reader α) : Prop :=
  ∀ value issues, read value = .error issues → issues ≠ [] ∧ ∀ issue ∈ issues, kinds issue.kind

theorem Tells.mono {wider : IssueKind → Prop} {read : Reader α} (tells : Tells kinds read)
    (implies : ∀ kind, kinds kind → wider kind) : Tells wider read :=
  fun value issues refused => (tells value issues refused).imp id fun all issue member =>
    implies _ (all issue member)

theorem issue_known {kind : IssueKind} (known : kinds kind) :
    ∃ other, kinds other ∧ Checked.issue (α := α) kind = .issue other :=
  ⟨kind, known, rfl⟩

/-- One issue with the whole value is enough. -/
theorem Tells.of_issue {read : Reader α}
    (cases : ∀ value, (∃ a, read value = .ok a) ∨ ∃ kind, kinds kind ∧ read value = .issue kind) :
    Tells kinds read := by
  intro value issues refused
  rcases cases value with ⟨a, accepted⟩ | ⟨kind, known, issue⟩
  · simp [accepted] at refused
  · rw [issue] at refused
    cases refused
    simpa using known

theorem Tells.refine {read : Reader α} {check : α → Checked α} (tells : Tells kinds read)
    (checked : ∀ a, (∃ b, check a = .ok b) ∨ ∃ kind, kinds kind ∧ check a = .issue kind) :
    Tells kinds (Reader.refine read check) := by
  intro value issues refused
  unfold Reader.refine at refused
  cases found : read value with
  | error more =>
    rw [found] at refused
    cases refused
    exact tells value _ found
  | ok a =>
    rw [found] at refused
    change check a = _ at refused
    rcases checked a with ⟨b, accepted⟩ | ⟨kind, known, issue⟩
    · simp [accepted] at refused
    · rw [issue] at refused
      cases refused
      simpa using known

theorem Tells.nullable {read : Reader α} (tells : Tells kinds read) :
    Tells kinds (Reader.nullable read) := by
  intro value issues refused
  have reads (value : Json) (refused : (read value).map some = .error issues) :
      issues ≠ [] ∧ ∀ issue ∈ issues, kinds issue.kind := by
    cases found : read value with
    | ok a => simp [found, Except.map] at refused
    | error more =>
      rw [found] at refused
      cases refused
      exact tells value _ found
  cases value with
  | null => simp [Reader.nullable] at refused
  | _ => exact reads _ refused

theorem text_tells : Tells IssueKind.IsLocal text :=
  .of_issue fun value => by
    cases value with
    | str s => exact .inl ⟨s, rfl⟩
    | _ => exact .inr (issue_known nofun)

theorem trimmed_tells : Tells IssueKind.IsLocal trimmed :=
  .of_issue fun value => by
    cases value with
    | str s => exact .inl ⟨_, rfl⟩
    | _ => exact .inr (issue_known nofun)

theorem trimmedOrNumber_tells : Tells IssueKind.IsLocal trimmedOrNumber :=
  .of_issue fun value => by
    cases value with
    | str s => exact .inl ⟨_, rfl⟩
    | int i => exact .inl ⟨_, rfl⟩
    | float x => exact .inl ⟨_, rfl⟩
    | _ => exact .inr (issue_known nofun)

theorem path_tells : Tells IssueKind.IsLocal path :=
  .of_issue fun value => by
    cases value with
    | str s => exact .inl ⟨_, rfl⟩
    | _ => exact .inr (issue_known nofun)

theorem pathTrimmed_tells : Tells IssueKind.IsLocal pathTrimmed :=
  .of_issue fun value => by
    cases value with
    | str s => exact .inl ⟨_, rfl⟩
    | _ => exact .inr (issue_known nofun)

theorem named_tells (ofName? : String → Option α) : Tells IssueKind.IsLocal (named ofName?) :=
  .of_issue fun value => by
    cases value with
    | str s =>
      cases found : ofName? s with
      | some a => exact .inl ⟨a, by simp [named, found]⟩
      | none => exact .inr ⟨.enum, nofun, by simp [named, found]⟩
    | _ => exact .inr (issue_known nofun)

theorem bool_tells : Tells IssueKind.IsLocal bool :=
  .of_issue fun value => by
    have either (b : Bool) : IssueKind.IsLocal (if b then .boolParsing else .boolType) := by
      cases b <;> nofun
    unfold bool
    split
    · exact .inl ⟨_, rfl⟩
    · exact .inl ⟨_, rfl⟩
    · exact .inl ⟨_, rfl⟩
    · exact .inr (issue_known (either _))
    · split
      · exact .inl ⟨_, rfl⟩
      · split
        · exact .inl ⟨_, rfl⟩
        · exact .inr (issue_known (either _))
    · split
      · exact .inl ⟨_, rfl⟩
      · exact .inr (issue_known nofun)
    · exact .inr (issue_known nofun)

theorem plainInt_local {chars : List Char} {kind : IssueKind} (refused : plainInt chars = .error kind) :
    kind.IsLocal := by
  unfold plainInt at refused
  dsimp only at refused
  repeat' split at refused
  all_goals cases refused <;> nofun

theorem intOfText_local {s : String} {kind : IssueKind} (refused : intOfText s = .error kind) :
    kind.IsLocal := by
  unfold intOfText at refused
  split at refused
  · cases found : plainer? s.toList with
    | none =>
      rw [found] at refused
      cases refused
      nofun
    | some chars =>
      rw [found] at refused
      exact plainInt_local refused
  · exact plainInt_local refused

theorem int_tells : Tells IssueKind.IsLocal int :=
  .of_issue fun value => by
    cases value with
    | int i => exact .inl ⟨i, rfl⟩
    | bool b => exact .inl ⟨_, rfl⟩
    | float x =>
      dsimp only [int]
      repeat' split
      all_goals first | exact .inl ⟨_, rfl⟩ | exact .inr (issue_known nofun)
    | str s =>
      dsimp only [int]
      split
      · exact .inl ⟨_, rfl⟩
      · rename_i kind refused
        exact .inr (issue_known (intOfText_local refused))
    | _ => exact .inr (issue_known nofun)

theorem float_tells : Tells IssueKind.IsLocal float :=
  .of_issue fun value => by
    unfold float
    split
    · exact .inl ⟨_, rfl⟩
    · exact .inl ⟨_, rfl⟩
    · split
      · exact .inl ⟨_, rfl⟩
      · exact .inr (issue_known nofun)
    · split
      · exact .inl ⟨_, rfl⟩
      · exact .inr (issue_known nofun)
    · exact .inr (issue_known nofun)

theorem Tells.items {read : Reader α} (tells : Tells kinds read) (position : Nat) (values : List Json)
    (issues : List Issue) (refused : Reader.items read position values = .error issues) :
    issues ≠ [] ∧ ∀ issue ∈ issues, kinds issue.kind := by
  have under {step : PathStep} {value : Json} {more : List Issue}
      (found : (read value).under step = .error more) :
      more ≠ [] ∧ ∀ issue ∈ more, kinds issue.kind := by
    cases inner : read value with
    | ok a => simp [inner, Checked.under] at found
    | error reasons =>
      rw [inner] at found
      cases found
      simpa [Issue.under] using tells value reasons inner
  induction values generalizing position issues with
  | nil => simp [Reader.items] at refused
  | cons value rest ih =>
    unfold Reader.items at refused
    split at refused
    · simp at refused
    · cases refused
      exact ih _ _ ‹_›
    · cases refused
      exact under ‹_›
    · cases refused
      rename_i reasons more first later
      obtain ⟨some, known⟩ := under first
      refine ⟨by simp [some], fun issue member => ?_⟩
      rcases List.mem_append.mp member with inFirst | inLater
      · exact known issue inFirst
      · exact (ih _ _ later).2 issue inLater

theorem Tells.list {read : Reader α} (tells : Tells kinds read) (notList : kinds .listType) :
    Tells kinds (Reader.list read) := by
  intro value issues refused
  cases value with
  | arr values => exact tells.items 0 values issues refused
  | _ =>
    cases refused
    simpa using notList

theorem items_str (position : Nat) (values : List String) :
    Reader.items text position (values.map .str) = .ok values := by
  induction values generalizing position with
  | nil => rfl
  | cons value rest ih => simp [Reader.items, ih, text, Checked.under]

theorem list_strings (values : List String) : Reader.list text (Json.strings values) = .ok values :=
  items_str 0 values

end Reader

namespace Field

variable {α β : Type} {kinds : IssueKind → Prop} {name : String} {read : Reader β} {get : α → β}
  {write : β → Json} {set : β → α → α} {members : Members}

/-- A field that is needed has no issue if and only if there is a value for it that is read. -/
theorem issues_required_eq_nil (tells : Reader.Tells kinds read) :
    (required name read get write set).issues members = [] ↔
      ∃ value b, Members.get? members name = some value ∧ read value = .ok b := by
  rw [issues_required]
  cases given : Members.get? members name with
  | none => simp
  | some value =>
    cases found : read value with
    | ok b => simp [found]
    | error issues => simp [found, (tells value issues found).1]

/-- Another field has no issue if and only if there is no value for it or one that is read. -/
theorem issues_optional_eq_nil (tells : Reader.Tells kinds read) :
    (optional name read get write set).issues members = [] ↔
      ∀ value, Members.get? members name = some value → ∃ b, read value = .ok b := by
  rw [issues_optional]
  cases given : Members.get? members name with
  | none => simp
  | some value =>
    cases found : read value with
    | ok b => simp [found]
    | error issues => simp [found, (tells value issues found).1]

theorem issues_optional_known (tells : Reader.Tells kinds read) :
    ∀ issue ∈ (optional name read get write set).issues members, kinds issue.kind := by
  rw [issues_optional]
  cases given : Members.get? members name with
  | none => simp
  | some value =>
    cases found : read value with
    | ok b => simp [found]
    | error issues => simpa [found, Issue.under] using (tells value issues found).2

theorem issues_required_known (tells : Reader.Tells kinds read) (missing : kinds .missing) :
    ∀ issue ∈ (required name read get write set).issues members, kinds issue.kind := by
  rw [issues_required]
  cases given : Members.get? members name with
  | none => simpa using missing
  | some value =>
    cases found : read value with
    | ok b => simp [found]
    | error issues => simpa [found, Issue.under] using (tells value issues found).2

end Field

namespace Schema

variable {α : Type} {schema : Schema α} {members : Members}

/-- An object that is taken as it is can be read as a record if and only if no field has an issue. -/
theorem exists_validate_iff (plain : schema.tidy (.obj members) = .obj members) :
    (∃ a, schema.validate (.obj members) = .ok a) ↔
      ∀ field ∈ schema.fields, field.issues members = [] := by
  simp [validate_eq_ok_iff, read_obj_eq_ok_iff plain]

/-- The issues of a record are those of its fields. -/
theorem read_tells {kinds : IssueKind → Prop} (plain : schema.tidy = id)
    (known : ∀ field ∈ schema.fields, ∀ members, ∀ issue ∈ field.issues members, kinds issue.kind)
    (noObject : kinds .modelType) : Reader.Tells kinds schema.read := by
  intro value issues refused
  cases value with
  | obj members =>
    obtain ⟨some, rfl⟩ := issues_of_read (by rw [plain]; rfl) refused
    refine ⟨some, fun issue member => ?_⟩
    obtain ⟨field, among, inField⟩ := List.mem_flatMap.mp member
    exact known field among members issue inField
  | _ =>
    unfold read at refused
    rw [plain] at refused
    cases refused
    simpa using noObject

end Schema

end CodeGraph
