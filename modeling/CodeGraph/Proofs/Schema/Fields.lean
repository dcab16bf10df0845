import CodeGraph.Schema.Basic

namespace CodeGraph

theorem mapError_ok {ε ε' α : Type} (f : ε → ε') (a : α) : (Except.ok a : Except ε α).mapError f = .ok a :=
  rfl

theorem mapError_error {ε ε' α : Type} (f : ε → ε') (e : ε) :
    (Except.error e : Except ε α).mapError f = .error (f e) :=
  rfl

theorem mapError_eq_ok_iff {ε ε' α : Type} {f : ε → ε'} {result : Except ε α} {a : α} :
    result.mapError f = .ok a ↔ result = .ok a := by
  cases result with
  | ok b => rw [mapError_ok, Except.ok.injEq, Except.ok.injEq]
  | error e => exact iff_of_false nofun nofun

theorem Members.get?_cons (key name : String) (value : Json) (members : Members) :
    Members.get? ((name, value) :: members) key =
      if key = name then some value else Members.get? members key := by
  by_cases same : key = name
  · simp [Members.get?, same]
  · have other : (key == name) = false := beq_false_of_ne same
    simp [Members.get?, List.lookup_cons, other, same]

theorem Members.mem_of_get? {members : Members} {key : String} {value : Json} (found : members.get? key = some value) :
    (key, value) ∈ members := by
  induction members with
  | nil => nomatch found
  | cons member rest ih =>
    obtain ⟨name, held⟩ := member
    rw [get?_cons] at found
    split at found
    · rename_i same
      cases found
      exact same ▸ List.mem_cons_self
    · exact List.mem_cons_of_mem _ (ih found)

theorem Members.get?_set (members : Members) (key other : String) (value : Json) :
    Members.get? (Members.set members key value) other =
      if other = key then some value else Members.get? members other := by
  induction members with
  | nil => exact Members.get?_cons other key value []
  | cons member rest ih =>
    obtain ⟨name, held⟩ := member
    unfold Members.set
    by_cases same : name = key
    · subst same
      rw [if_pos (by simp), Members.get?_cons, Members.get?_cons]
      by_cases first : other = name <;> simp [first]
    · rw [if_neg (by simpa using same), Members.get?_cons, Members.get?_cons, ih]
      by_cases first : other = name
      · subst first
        rw [if_pos rfl, if_pos rfl, if_neg same]
      · rw [if_neg first, if_neg first]

namespace Field

variable {α : Type}

/-- The record with what an object gives for a field. -/
def put (field : Field α) (members : Members) (a : α) : α :=
  match field.find? members with
  | none => a
  | some (_, value) =>
    match field.assign value with
    | .ok set => set a
    | .error _ => a

/-- What is wrong with what an object gives for a field. -/
def issues (field : Field α) (members : Members) : List Issue :=
  match field.find? members with
  | none => if field.isRequired then [⟨[.field field.label], .missing⟩] else []
  | some (key, value) =>
    match field.assign value with
    | .ok _ => []
    | .error issues => issues.map (·.under (.field key))

theorem find?_unspelled {field : Field α} (members : Members) (unspelled : field.spelling = none) :
    field.find? members = (Members.get? members field.name).map (field.name, ·) := by
  unfold find?
  have label : field.label = field.name := by rw [Field.label, unspelled, Option.getD_none]
  rw [label]
  cases given : Members.get? members field.name <;> simp [given]

section

variable {β : Type} (name : String) (read : Reader β) (get : α → β) (write : β → Json)
  (set : β → α → α) (members : Members)

theorem put_required (a : α) : (required name read get write set).put members a =
    match Members.get? members name with
    | none => a
    | some value =>
      match read value with
      | .ok b => set b a
      | .error _ => a := by
  rw [put, find?_unspelled members rfl]
  cases given : Members.get? members name with
  | none => simp [required, given]
  | some value => cases found : read value <;> simp [required, given, found, Except.map]

theorem put_optional (a : α) : (optional name read get write set).put members a =
    (required name read get write set).put members a :=
  rfl

theorem issues_required : (required name read get write set).issues members =
    match Members.get? members name with
    | none => [⟨[.field name], .missing⟩]
    | some value =>
      match read value with
      | .ok _ => []
      | .error issues => issues.map (·.under (.field name)) := by
  rw [issues, find?_unspelled members rfl]
  cases given : Members.get? members name with
  | none => simp [required, given, label]
  | some value => cases found : read value <;> simp [required, given, found, Except.map]

theorem issues_optional : (optional name read get write set).issues members =
    match Members.get? members name with
    | none => []
    | some value =>
      match read value with
      | .ok _ => []
      | .error issues => issues.map (·.under (.field name)) := by
  rw [issues, find?_unspelled members rfl]
  cases given : Members.get? members name with
  | none => simp [optional, given]
  | some value => cases found : read value <;> simp [optional, given, found, Except.map]

end

end Field

namespace Schema

variable {α : Type}

theorem readField_eq (members : Members) (state : α × List Issue) (field : Field α) :
    readField members state field = (field.put members state.1, state.2 ++ field.issues members) := by
  unfold readField Field.put Field.issues
  cases field.find? members with
  | none => cases field.isRequired <;> simp
  | some given =>
    obtain ⟨key, value⟩ := given
    cases read : field.assign value <;> simp [read, Checked.under]

theorem foldl_readField (members : Members) (fields : List (Field α)) (state : α × List Issue) :
    fields.foldl (readField members) state =
      (fields.foldl (fun a field => field.put members a) state.1,
        state.2 ++ fields.flatMap (·.issues members)) := by
  induction fields generalizing state with
  | nil => simp
  | cons field rest ih =>
    rw [List.foldl_cons, ih, readField_eq, List.foldl_cons, List.flatMap_cons, List.append_assoc]

/-- An object that is taken as it is gives a record if and only if no field has an issue. -/
theorem read_obj_eq_ok_iff {schema : Schema α} {members : Members} {a : α}
    (plain : schema.tidy (.obj members) = .obj members) :
    schema.read (.obj members) = .ok a ↔
      (∀ field ∈ schema.fields, field.issues members = []) ∧
        schema.fields.foldl (fun a field => field.put members a) schema.initial = a := by
  simp only [read, plain, foldl_readField, List.nil_append]
  rw [← List.flatMap_eq_nil_iff]
  cases found : schema.fields.flatMap (·.issues members) with
  | nil => simp
  | cons issue more => simp

/-- The issues of an object that gives no record are those of the fields. -/
theorem issues_of_read {schema : Schema α} {members : Members} {issues : List Issue}
    (plain : schema.tidy (.obj members) = .obj members)
    (refused : schema.read (.obj members) = .error issues) :
    issues ≠ [] ∧ issues = schema.fields.flatMap (·.issues members) := by
  simp only [read, plain, foldl_readField, List.nil_append] at refused
  cases found : schema.fields.flatMap (·.issues members) with
  | nil => simp [found] at refused
  | cons issue more =>
    simp only [found, Except.error.injEq] at refused
    subst refused
    exact ⟨nofun, rfl⟩

theorem validate_eq_ok_iff {schema : Schema α} {value : Json} {a : α} :
    schema.validate value = .ok a ↔ schema.read value = .ok a := by
  unfold validate
  cases schema.read value with
  | ok b => constructor <;> rintro ⟨⟩ <;> rfl
  | error issues => constructor <;> rintro ⟨⟩

end Schema

end CodeGraph
