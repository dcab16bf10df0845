import CodeGraph.Proofs.Schema.Fields

namespace CodeGraph

namespace Members

theorem get?_append (front back : Members) (key : String) :
    get? (front ++ back) key = (get? front key).or (get? back key) :=
  List.lookup_append

theorem get?_eq_none {members : Members} {key : String} (absent : ∀ member ∈ members, member.1 ≠ key) :
    get? members key = none := by
  induction members with
  | nil => rfl
  | cons member rest ih =>
    obtain ⟨other, later⟩ := List.forall_mem_cons.mp absent
    rw [get?_cons, if_neg (Ne.symm other), ih later]

variable {before after : Members} {key name : String} {value : Json}

theorem get?_insert_of_ne (other : key ≠ name) :
    get? (before ++ (name, value) :: after) key = get? (before ++ after) key := by
  rw [get?_append, get?_append, get?_cons, if_neg other]

theorem get?_insert_of_absent (absent : ∀ member ∈ before ++ after, member.1 ≠ name) :
    get? (before ++ (name, value) :: after) name = some value := by
  rw [get?_append, get?_eq_none fun member among => absent member (List.mem_append_left after among), get?_cons,
    if_pos rfl, Option.none_or]

end Members

namespace Field

variable {α : Type} {field : Field α} {first second : Members}

/-- What an object gives for a field, as it is read. -/
def taken (field : Field α) (members : Members) : Option (Checked (α → α)) :=
  ((members.get? field.label).or (members.get? field.name)).map field.assign

theorem find?_eq (field : Field α) (members : Members) :
    (field.find? members).map (fun given => field.assign given.2) = field.taken members := by
  unfold find? taken
  cases labelled : members.get? field.label with
  | some value => simp [labelled]
  | none => cases named : members.get? field.name <;> simp [labelled, named]

section

variable {before after : Members} {key : String} {value value' : Json}

/-- A member under another name gives nothing for a field. -/
theorem taken_insert_of_ne (label : field.label ≠ key) (name : field.name ≠ key) :
    field.taken (before ++ (key, value) :: after) = field.taken (before ++ after) := by
  rw [taken, taken, Members.get?_insert_of_ne label, Members.get?_insert_of_ne name]

/-- The only member under a name of a field gives what it holds, whichever name it is. -/
theorem taken_sole (absent : ∀ member ∈ before ++ after, member.1 ≠ field.label ∧ member.1 ≠ field.name)
    (names : key = field.label ∨ key = field.name) :
    field.taken (before ++ (key, value) :: after) = some (field.assign value) := by
  have label : Members.get? (before ++ after) field.label = none :=
    Members.get?_eq_none fun member among => (absent member among).1
  have name : Members.get? (before ++ after) field.name = none :=
    Members.get?_eq_none fun member among => (absent member among).2
  have held : Members.get? (before ++ (key, value) :: after) key = some value := by
    refine Members.get?_insert_of_absent fun member among => ?_
    rcases names with rfl | rfl
    · exact (absent member among).1
    · exact (absent member among).2
  rw [taken]
  rcases names with rfl | rfl
  · rw [held]
    rfl
  · by_cases same : field.label = field.name
    · rw [same, held]
      rfl
    · rw [Members.get?_insert_of_ne same, label, held]
      rfl

theorem get?_replace {β : Type} (f : Json → β) (other : String) (same : other = key → f value = f value') :
    (Members.get? (before ++ (key, value) :: after) other).map f =
      (Members.get? (before ++ (key, value') :: after) other).map f := by
  rw [Members.get?_append, Members.get?_append, Members.get?_cons, Members.get?_cons]
  by_cases this : other = key
  · rw [if_pos this, if_pos this]
    cases Members.get? before other with
    | none => exact congrArg some (same this)
    | some _ => rfl
  · rw [if_neg this, if_neg this]

/-- Another value that is read alike makes no difference. -/
theorem taken_replace (same : key = field.label ∨ key = field.name → field.assign value = field.assign value') :
    field.taken (before ++ (key, value) :: after) = field.taken (before ++ (key, value') :: after) := by
  rw [taken, taken, Option.map_or, Option.map_or,
    get?_replace field.assign field.label fun label => same (.inl label.symm),
    get?_replace field.assign field.name fun name => same (.inr name.symm)]

end

theorem put_eq (members : Members) (a : α) : field.put members a =
    match field.taken members with
    | some (.ok set) => set a
    | _ => a := by
  rw [← find?_eq, put]
  cases field.find? members with
  | none => rfl
  | some given => cases assigned : field.assign given.2 <;> simp [assigned]

theorem issues_eq_nil_iff (members : Members) : field.issues members = [] ↔
    match field.taken members with
    | none => field.isRequired = false
    | some (.ok _) => True
    | some (.error issues) => issues = [] := by
  rw [← find?_eq, issues]
  cases field.find? members with
  | none => cases field.isRequired <;> simp
  | some given => cases assigned : field.assign given.2 <;> simp [assigned]

end Field

namespace Schema

variable {α : Type} {schema : Schema α} {first second : Json} {members members' : Members}

theorem exists_read_iff (tidy : schema.tidy first = .obj members) :
    (∃ a, schema.read first = .ok a) ↔ ∀ field ∈ schema.fields, field.issues members = [] := by
  simp only [read, tidy, foldl_readField, List.nil_append]
  rw [← List.flatMap_eq_nil_iff]
  cases schema.fields.flatMap (·.issues members) with
  | nil => exact iff_of_true ⟨_, rfl⟩ rfl
  | cons issue more =>
    refine iff_of_false ?_ (List.cons_ne_nil _ _)
    rintro ⟨a, read⟩
    cases read

theorem read_congr (tidy : schema.tidy first = .obj members) (tidy' : schema.tidy second = .obj members')
    (same : ∀ field ∈ schema.fields, field.taken members = field.taken members') :
    (schema.read first).toOption = (schema.read second).toOption := by
  have puts : ∀ (fields : List (Field α)), fields ⊆ schema.fields → ∀ a,
      fields.foldl (fun a field => field.put members a) a = fields.foldl (fun a field => field.put members' a) a := by
    intro fields among a
    induction fields generalizing a with
    | nil => rfl
    | cons field rest ih =>
      obtain ⟨first, later⟩ := List.cons_subset.mp among
      rw [List.foldl_cons, List.foldl_cons, Field.put_eq, Field.put_eq, same field first]
      exact ih later _
  have issues : schema.fields.flatMap (·.issues members) = [] ↔ schema.fields.flatMap (·.issues members') = [] := by
    rw [List.flatMap_eq_nil_iff, List.flatMap_eq_nil_iff]
    refine forall₂_congr fun field among => ?_
    rw [Field.issues_eq_nil_iff, Field.issues_eq_nil_iff, same field among]
  simp only [read, tidy, tidy', foldl_readField, List.nil_append, puts schema.fields (List.Subset.refl _)]
  cases found : schema.fields.flatMap (·.issues members) with
  | nil => rw [issues.mp found]
  | cons issue more =>
    cases found' : schema.fields.flatMap (·.issues members') with
    | nil =>
      rw [issues.mpr found'] at found
      cases found
    | cons => rfl

end Schema

end CodeGraph
